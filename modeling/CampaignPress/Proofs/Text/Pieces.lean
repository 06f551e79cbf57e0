/-
This file says what is left of a text when its ends are cut off, and how a text
begins with the pieces of another one. No sigma looks past a caseless character
to see whether it ends a word, so the pieces between such characters are written
in small letters each for itself.
-/
import CampaignPress.Proofs.Text.Case

namespace CampaignPress.Text

/-! ### Cut ends -/

section Ends

variable {drop : Char → Bool}

theorem dropStart_sublist {part text : Text} (sublist : part.Sublist text) :
    (dropStart drop part).Sublist (dropStart drop text) := by
  induction sublist with
  | slnil => exact .slnil
  | @cons part text c sublist inductionHypothesis =>
    rw [dropStart, dropStart] at *
    cases dropped : drop c with
    | true => rwa [List.dropWhile_cons_of_pos dropped]
    | false =>
      rw [List.dropWhile_cons_of_neg (Bool.not_eq_true _ ▸ dropped)]
      exact ((List.dropWhile_sublist drop).trans sublist).cons c
  | @cons_cons part text c sublist inductionHypothesis =>
    rw [dropStart, dropStart] at *
    cases dropped : drop c with
    | true => rwa [List.dropWhile_cons_of_pos dropped, List.dropWhile_cons_of_pos dropped]
    | false =>
      rw [List.dropWhile_cons_of_neg (Bool.not_eq_true _ ▸ dropped),
        List.dropWhile_cons_of_neg (Bool.not_eq_true _ ▸ dropped)]
      exact sublist.cons_cons c

/-- Less is left of less. -/
theorem dropEnds_sublist {part text : Text} (sublist : part.Sublist text) :
    (dropEnds drop part).Sublist (dropEnds drop text) :=
  (dropStart_sublist (dropStart_sublist sublist).reverse).reverse

theorem sublist_dropEnds (drop : Char → Bool) (text : Text) : (dropEnds drop text).Sublist text :=
  (isPrefix_dropEnd drop _).sublist.trans (List.dropWhile_sublist drop)

theorem dropEnds_eq_self {text : Text} (first : ∀ c ∈ text.head?, drop c = false)
    (last : ∀ c ∈ text.getLast?, drop c = false) : dropEnds drop text = text := by
  rw [dropEnds, dropStart_eq_self first, dropEnd_eq_self last]

theorem dropEnds_cons {c : Char} (dropped : drop c) (text : Text) :
    dropEnds drop (c :: text) = dropEnds drop text := by
  rw [dropEnds, dropStart, List.dropWhile_cons_of_pos dropped]
  rfl

theorem dropEnds_concat {c : Char} (dropped : drop c) (text : Text) :
    dropEnds drop (text ++ [c]) = dropEnds drop text := by
  rw [dropEnds, dropEnds, dropStart, dropStart, List.dropWhile_append]
  split
  · rename_i empty
    rw [List.isEmpty_iff.1 empty, List.dropWhile_cons_of_pos dropped, List.dropWhile_nil]
  · rw [dropEnd, List.reverse_append]
    exact congrArg List.reverse (List.dropWhile_cons_of_pos dropped)

theorem dropEnds_replicate_append {c : Char} (dropped : drop c) (before : Nat) (text : Text) :
    dropEnds drop (List.replicate before c ++ text) = dropEnds drop text := by
  induction before with
  | zero => rfl
  | succ before inductionHypothesis =>
    rw [List.replicate_succ, List.cons_append, dropEnds_cons dropped, inductionHypothesis]

theorem dropEnds_append_replicate {c : Char} (dropped : drop c) (text : Text) (after : Nat) :
    dropEnds drop (text ++ List.replicate after c) = dropEnds drop text := by
  induction after with
  | zero => rw [List.replicate_zero, List.append_nil]
  | succ after inductionHypothesis =>
    rw [List.replicate_succ', ← List.append_assoc, dropEnds_concat dropped, inductionHypothesis]

/-- A character that is cut off is lost. -/
theorem count_dropEnds_lt {c : Char} (dropped : drop c) {text : Text}
    (outer : c ∈ text.head? ∨ c ∈ text.getLast?) :
    (dropEnds drop text).count c < text.count c := by
  rcases outer with found | found
  · obtain ⟨rest, rfl⟩ := List.head?_eq_some_iff.1 found
    rw [dropEnds_cons dropped, List.count_cons_self]
    exact Nat.lt_succ_of_le ((sublist_dropEnds drop rest).count_le c)
  · obtain ⟨rest, rfl⟩ := List.getLast?_eq_some_iff.1 found
    rw [dropEnds_concat dropped, List.count_append, List.count_singleton_self]
    exact Nat.lt_succ_of_le ((sublist_dropEnds drop rest).count_le c)

end Ends

/-! ### Pieces -/

section Pieces

variable {separator : Char}

theorem splitOn_append_cons (before after : Text) :
    splitOn separator (before ++ separator :: after) =
      splitOn separator before ++ splitOn separator after := by
  simp only [splitOn_eq]
  exact List.splitOn_append_cons_self before after

theorem splitOn_ne_nil (text : Text) : splitOn separator text ≠ [] := by
  rw [splitOn_eq]
  exact List.splitOn_ne_nil _ _

theorem not_mem_of_mem_splitOn {text piece : Text} (member : piece ∈ splitOn separator text) :
    separator ∉ piece := fun inPiece => by
  have other := isCut_of_mem_splitWhere member inPiece
  rw [beq_self_eq_true] at other
  exact Bool.noConfusion other

/-- Joined pieces neither begin nor end with what joins them if none of the pieces is empty. -/
theorem ends_join_ne {parts : List Text} (uncut : ∀ part ∈ parts, separator ∉ part)
    (filled : ∀ part ∈ parts, part ≠ []) : (∀ c ∈ (join [separator] parts).head?, c ≠ separator) ∧
      ∀ c ∈ (join [separator] parts).getLast?, c ≠ separator := by
  by_cases nonempty : parts = []
  · rw [nonempty]
    exact ⟨by simp [join], by simp [join]⟩
  have pieces := splitOn_join uncut nonempty
  constructor
  · rintro c found rfl
    obtain ⟨rest, same⟩ := List.head?_eq_some_iff.1 found
    rw [same, ← List.nil_append (c :: rest), splitOn_append_cons] at pieces
    exact filled [] (pieces ▸ List.mem_append_left _ List.mem_cons_self) rfl
  · rintro c found rfl
    obtain ⟨rest, same⟩ := List.getLast?_eq_some_iff.1 found
    rw [same, splitOn_append_cons] at pieces
    exact filled [] (pieces ▸ List.mem_append_right _ List.mem_cons_self) rfl

/-- What joins pieces is cut off from around them. -/
theorem dropEnds_join {parts : List Text} (uncut : ∀ part ∈ parts, separator ∉ part)
    (filled : ∀ part ∈ parts, part ≠ []) (before after : Nat) :
    dropEnds (· == separator) (List.replicate before separator ++
      (join [separator] parts ++ List.replicate after separator)) = join [separator] parts := by
  obtain ⟨first, last⟩ := ends_join_ne uncut filled
  have inner : dropEnds (· == separator) (join [separator] parts) = join [separator] parts :=
    dropEnds_eq_self (fun c found => beq_eq_false_iff_ne.2 (first c found))
      fun c found => beq_eq_false_iff_ne.2 (last c found)
  have same : separator == separator := beq_self_eq_true separator
  exact (@dropEnds_replicate_append (· == separator) _ same before _).trans
    ((@dropEnds_append_replicate (· == separator) _ same _ after).trans inner)

theorem join_cons (part : Text) {parts : List Text} (nonempty : parts ≠ []) :
    join [separator] (part :: parts) = part ++ separator :: join [separator] parts := by
  rw [join, List.intercalate_cons_of_ne_nil nonempty, List.append_assoc]
  rfl

theorem join_append {left right : List Text} (first : left ≠ []) (second : right ≠ []) :
    join [separator] (left ++ right) =
      join [separator] left ++ separator :: join [separator] right := by
  induction left with
  | nil => exact absurd rfl first
  | cons part left inductionHypothesis =>
    rw [List.cons_append, join_cons part (List.append_ne_nil_of_right_ne_nil left second)]
    by_cases last : left = []
    · rw [last, List.nil_append, join, join, List.intercalate_singleton]
    · rw [inductionHypothesis last, join_cons part last, List.append_assoc, List.cons_append]

/-- A text begins with the pieces of another one if it is that one, or goes on behind it with the
character that it is cut at. -/
theorem splitOn_prefix_iff {text longer : Text} :
    splitOn separator text <+: splitOn separator longer ↔
      longer = text ∨ text ++ [separator] <+: longer := by
  constructor
  · rintro ⟨rest, same⟩
    have whole := congrArg (join [separator]) same
    rw [join_splitOn] at whole
    by_cases empty : rest = []
    · rw [empty, List.append_nil, join_splitOn] at whole
      exact .inl whole.symm
    · rw [join_append (splitOn_ne_nil text) empty, join_splitOn] at whole
      exact .inr ⟨_, by rwa [List.append_assoc]⟩
  · rintro (rfl | ⟨rest, rfl⟩)
    · exact List.prefix_rfl
    · rw [List.append_assoc, List.singleton_append, splitOn_append_cons]
      exact List.prefix_append _ _

end Pieces

/-! ### Small letters -/

/-- A character that is small as it is and at which the search for a letter with a case ends, without
one; none but itself is mapped to it. -/
structure IsCaseless (c : Char) : Prop where
  stops : inRanges c.toNat caseIgnorableRanges = false
  uncased : inRanges c.toNat casedRanges = false
  small : lowerChar c = [c]
  noSigma : c ≠ 'Σ' ∧ c ≠ 'ς' ∧ c ≠ 'σ'
  unreached : isUnreached c.toNat

set_option maxRecDepth 4000 in
theorem isCaseless_slash : IsCaseless '/' :=
  ⟨by decide, by decide, by decide, by decide, by decide⟩

section Caseless

variable {c : Char} (caseless : IsCaseless c)
include caseless

theorem IsCaseless.not_mem_lower {text : Text} (missing : c ∉ text) : c ∉ lower text :=
  fun member => missing <| mem_of_mem_lowerFrom (fun _ => eq_of_mem_lowerChar caseless.unreached)
    caseless.noSigma.2 member

theorem IsCaseless.meetsCased_append_cons (text rest : Text) :
    meetsCased (text ++ c :: rest) = meetsCased text := by
  induction text with
  | nil =>
    rw [List.nil_append, meetsCased_cons, caseless.stops, caseless.uncased]
    rfl
  | cons d text inductionHypothesis =>
    rw [List.cons_append, meetsCased_cons, meetsCased_cons, inductionHypothesis]

theorem IsCaseless.lowerFrom_passed (passed before text : Text) :
    lowerFrom (passed ++ c :: before) text = lowerFrom passed text := by
  induction text generalizing passed with
  | nil => rfl
  | cons d text inductionHypothesis =>
    rw [lowerFrom, lowerFrom, caseless.meetsCased_append_cons, ← List.cons_append,
      inductionHypothesis]

theorem IsCaseless.lowerFrom_append_cons (passed text rest : Text) :
    lowerFrom passed (text ++ c :: rest) = lowerFrom passed text ++ c :: lower rest := by
  induction text generalizing passed with
  | nil =>
    have fresh := caseless.lowerFrom_passed [] passed rest
    rw [List.nil_append] at fresh
    simp only [List.nil_append, lowerFrom, if_neg caseless.noSigma.1, caseless.small, fresh]
    rfl
  | cons d text inductionHypothesis =>
    rw [List.cons_append, lowerFrom, lowerFrom, caseless.meetsCased_append_cons,
      inductionHypothesis, List.append_assoc]

theorem IsCaseless.lower_append_cons (text rest : Text) :
    lower (text ++ c :: rest) = lower text ++ c :: lower rest :=
  caseless.lowerFrom_append_cons [] text rest

theorem IsCaseless.lower_join (parts : List Text) :
    lower (join [c] parts) = join [c] (parts.map lower) := by
  induction parts with
  | nil => rfl
  | cons part parts inductionHypothesis =>
    by_cases last : parts = []
    · rw [last]
      simp only [join, List.map_cons, List.map_nil, List.intercalate_singleton]
    · have later : parts.map lower ≠ [] := fun empty => last (List.map_eq_nil_iff.1 empty)
      rw [join_cons part last, caseless.lower_append_cons, inductionHypothesis, List.map_cons,
        join_cons _ later]

/-- A text is cut before or after it is written in small letters. -/
theorem IsCaseless.splitOn_lower (text : Text) :
    splitOn c (lower text) = (splitOn c text).map lower := by
  have uncut : ∀ part ∈ (splitOn c text).map lower, c ∉ part := by
    intro part member
    obtain ⟨piece, inPieces, rfl⟩ := List.mem_map.1 member
    exact caseless.not_mem_lower (not_mem_of_mem_splitOn inPieces)
  have nonempty : (splitOn c text).map lower ≠ [] := fun empty =>
    splitOn_ne_nil text (List.map_eq_nil_iff.1 empty)
  rw [← splitOn_join uncut nonempty, ← caseless.lower_join, join_splitOn]

end Caseless

/-- Nothing but the empty text is empty in small letters. -/
theorem lower_eq_nil_iff {text : Text} : lower text = [] ↔ text = [] := by
  constructor
  · intro empty
    by_contra filled
    exact lower_ne_of_sublist (List.nil_sublist text) (Ne.symm filled) empty.symm
  · rintro rfl
    rfl

end CampaignPress.Text
