/-
This file shows that placeholders are read as the spans that they stand for. A
text is sound if it is made of whole placeholders of known spans and of
characters other than the mark of placeholders. Hiding the code of a text
without that mark leaves a sound text, sound texts can be put together and cut
apart at every character that is not part of a placeholder, and every sound text
can be restored.
-/
import CampaignPress.Proofs.Numeral
import CampaignPress.Proofs.Text.Cut
import CampaignPress.Proofs.Text.Lines
import CampaignPress.Prose.CodeSpan

namespace CampaignPress

namespace CodeSpan

/-! ### Placeholders -/

/-- The characters that placeholders are made of. -/
def isInner (c : Char) : Bool := c = '\x00' || "CODE".toList.elem c || c.isDigit

theorem isInner_of_mem_placeholder {position : Nat} {c : Char}
    (member : c ∈ placeholder position) : isInner c := by
  rw [placeholder, List.mem_append, List.mem_append, List.mem_cons, List.mem_singleton] at member
  simp only [isInner, Bool.or_eq_true, decide_eq_true_eq, List.elem_iff]
  rcases member with ((rfl | inWord) | inDigits) | rfl
  · exact .inl (.inl rfl)
  · exact .inl (.inr inWord)
  · exact .inr (Numeral.isDigit_of_mem_toDigits inDigits)
  · exact .inl (.inl rfl)

theorem toNat_lt_of_isInner {c : Char} (inner : isInner c) : c.toNat < 128 := by
  simp only [isInner, Bool.or_eq_true, decide_eq_true_eq, List.elem_iff] at inner
  rcases inner with (rfl | inWord) | digit
  · decide
  · exact of_decide_eq_true
      (List.all_eq_true.1 (by decide : "CODE".toList.all fun c => decide (c.toNat < 128)) c inWord)
  · exact Text.toNat_lt_of_isDigit digit

theorem isInner_of_isBlank {c : Char} (blank : Text.isBlank c) : isInner c = false := by
  have all : ∀ code < 128, isInner (Char.ofNat code) → Text.isBlank (Char.ofNat code) = false := by
    decide
  rw [Bool.eq_false_iff]
  intro inner
  have found := all c.toNat (toNat_lt_of_isInner inner)
  rw [Char.ofNat_toNat, blank] at found
  exact nomatch found inner

theorem cutPlaceholder?_of_ne {c : Char} (other : c ≠ '\x00') (rest : Text) :
    cutPlaceholder? (c :: rest) = none := by
  have missing : Text.after? ('\x00' :: "CODE".toList) (c :: rest) = none := if_neg (Ne.symm other)
  rw [cutPlaceholder?, missing]
  rfl

theorem cutPlaceholder?_placeholder (position : Nat) (rest : Text) :
    cutPlaceholder? (placeholder position ++ rest) =
      some (Numeral.valuesOf position, rest) := by
  have begins : Text.after? ('\x00' :: "CODE".toList) (placeholder position ++ rest) =
      some (Nat.toDigits 10 position ++ '\x00' :: rest) := by
    rw [Text.after?_eq_some_iff, placeholder]
    simp
  have digits : ∀ c ∈ Nat.toDigits 10 position, Text.isDecimal c := fun c member =>
    Text.isDecimal_of_isDigit (Numeral.isDigit_of_mem_toDigits member)
  have mark : ¬Text.isDecimal '\x00' = true := by decide
  have run : (Nat.toDigits 10 position ++ '\x00' :: rest).takeWhile Text.isDecimal =
      Nat.toDigits 10 position := by
    rw [List.takeWhile_append_of_pos digits, List.takeWhile_cons_of_neg mark, List.append_nil]
  have after : (Nat.toDigits 10 position ++ '\x00' :: rest).dropWhile Text.isDecimal =
      '\x00' :: rest := by
    rw [List.dropWhile_append_of_pos digits, List.dropWhile_cons_of_neg mark]
  have nonempty : Numeral.valuesOf position ≠ [] := by
    rw [Numeral.valuesOf, Ne, List.map_eq_nil_iff]
    exact Nat.toDigits_ne_nil
  rw [cutPlaceholder?, begins, Option.bind_eq_bind, Option.bind_some, run, after,
    Numeral.digitValues?_toDigits]
  simp [nonempty, guard]

/-! ### Restoring -/

theorem restore_cons_of_ne {c : Char} (other : c ≠ '\x00') (spans : List Text) (rest : Text) :
    restore spans (c :: rest) = (do return c :: (← restore spans rest)) := by
  rw [restore.eq_def]
  simp only
  split
  · rename_i found
    rw [cutPlaceholder?_of_ne other] at found
    cases found
  · rfl

theorem restore_placeholder {spans : List Text} {position : Nat} {span : Text}
    (known : spans[position]? = some span) (few : spans.length ≤ 10 ^ digitLimit) (rest : Text) :
    restore spans (placeholder position ++ rest) =
      (do return span ++ (← restore spans rest)) := by
  have small : position < 10 ^ digitLimit :=
    (List.getElem?_eq_some_iff.1 known).1.trans_le few
  have name : named spans (Numeral.valuesOf position) = .ok span := by
    have found : spans[(Int.ofNat position).toNat]? = some span := known
    rw [named, Numeral.ofSigned_valuesOf false small]
    show (Except.ok (Int.ofNat position) >>= _) = _
    simp only [bind, Except.bind, found]
    rfl
  have cut := cutPlaceholder?_placeholder position rest
  obtain ⟨tail, shape⟩ : ∃ tail, placeholder position ++ rest = '\x00' :: tail := ⟨_, rfl⟩
  rw [shape] at cut ⊢
  rw [restore.eq_def]
  simp only
  split
  · rename_i digits after found
    obtain ⟨rfl, rfl⟩ := Prod.mk.inj (Option.some.inj (cut.symm.trans found))
    rw [name]
    rfl
  · rename_i none
    cases cut.symm.trans none

/-! ### Sound texts -/

/-- A text made of whole placeholders of the first spans and of other characters than the mark
of placeholders. -/
inductive Sound (count : Nat) : Text → Prop where
  | nil : Sound count []
  | plain {c : Char} {rest : Text} (other : c ≠ '\x00') (sound : Sound count rest) :
      Sound count (c :: rest)
  | span {position : Nat} {rest : Text} (known : position < count) (sound : Sound count rest) :
      Sound count (placeholder position ++ rest)

namespace Sound

variable {count : Nat}

theorem of_not_mem {text : Text} (unmarked : '\x00' ∉ text) : Sound count text := by
  induction text with
  | nil => exact .nil
  | cons c rest inductionHypothesis =>
    rw [List.mem_cons, not_or] at unmarked
    exact .plain (Ne.symm unmarked.1) (inductionHypothesis unmarked.2)

theorem append {first second : Text} (left : Sound count first) (right : Sound count second) :
    Sound count (first ++ second) := by
  induction left with
  | nil => exact right
  | plain other _ inductionHypothesis => exact .plain other inductionHypothesis
  | span known _ inductionHypothesis =>
    rw [List.append_assoc]
    exact .span known inductionHypothesis

theorem mono {larger : Nat} (atLeast : count ≤ larger) {text : Text} (sound : Sound count text) :
    Sound larger text := by
  induction sound with
  | nil => exact .nil
  | plain other _ inductionHypothesis => exact .plain other inductionHypothesis
  | span known _ inductionHypothesis => exact .span (known.trans_le atLeast) inductionHypothesis

/-- A text is cut apart at a character that is not part of a placeholder. -/
theorem of_append_cons {before after : Text} {c : Char} (outer : isInner c = false)
    (sound : Sound count (before ++ c :: after)) : Sound count before ∧ Sound count after := by
  generalize whole : before ++ c :: after = text at sound
  induction sound generalizing before with
  | nil => exact absurd whole (by simp)
  | plain other rest inductionHypothesis =>
    cases before with
    | nil =>
      obtain ⟨-, rfl⟩ := List.cons.inj whole
      exact ⟨.nil, rest⟩
    | cons d before =>
      obtain ⟨rfl, same⟩ := List.cons.inj whole
      obtain ⟨left, right⟩ := inductionHypothesis same
      exact ⟨.plain other left, right⟩
  | @span position rest known sound inductionHypothesis =>
    rcases List.append_eq_append_iff.1 whole with ⟨inner, same, split⟩ | ⟨inner, same, split⟩
    · cases inner with
      | nil =>
        rw [List.append_nil] at same
        rw [List.nil_append] at split
        have start : ([] : Text) ++ c :: after = rest := split
        obtain ⟨-, right⟩ := inductionHypothesis start
        rw [← same]
        exact ⟨by simpa using Sound.span known .nil, right⟩
      | cons d inner =>
        obtain ⟨rfl, -⟩ := List.cons.inj split
        have inside : c ∈ placeholder position := by simp [same]
        exact absurd (isInner_of_mem_placeholder inside) (Bool.eq_false_iff.1 outer)
    · obtain ⟨left, right⟩ := inductionHypothesis split.symm
      rw [same]
      exact ⟨.span known left, right⟩

theorem of_cons {c : Char} (outer : isInner c = false) {rest : Text}
    (sound : Sound count (c :: rest)) : Sound count rest := by
  have start : Sound count ([] ++ c :: rest) := sound
  exact (of_append_cons outer start).2

theorem of_append_right {before after : Text} (outer : ∀ c ∈ before, isInner c = false)
    (sound : Sound count (before ++ after)) : Sound count after := by
  induction before with
  | nil => exact sound
  | cons c before inductionHypothesis =>
    rw [List.forall_mem_cons] at outer
    exact inductionHypothesis outer.2 (of_cons outer.1 sound)

theorem of_append_left {before after : Text} (outer : ∀ c ∈ after, isInner c = false)
    (sound : Sound count (before ++ after)) : Sound count before := by
  cases after with
  | nil => rwa [List.append_nil] at sound
  | cons c after => exact (of_append_cons (List.forall_mem_cons.1 outer).1 sound).1

theorem trim {text : Text} (sound : Sound count text) : Sound count (Text.trim text) := by
  obtain ⟨before, after, same, blankBefore, blankAfter⟩ := Text.exists_trim text
  rw [same] at sound
  have left := of_append_left (fun c member => isInner_of_isBlank (blankAfter c member)) sound
  exact of_append_right (fun c member => isInner_of_isBlank (blankBefore c member)) left

theorem of_mem_splitWhere {isCut : Char → Bool} (cuts : ∀ c, isCut c → isInner c = false)
    {text : Text} (sound : Sound count text) {piece : Text}
    (member : piece ∈ Text.splitWhere isCut text) : Sound count piece := by
  have each : Sound count (Text.pieces isCut text).1 ∧
      ∀ piece ∈ (Text.pieces isCut text).2, Sound count piece := by
    clear member
    induction sound with
    | nil => exact ⟨.nil, fun _ none => absurd none List.not_mem_nil⟩
    | @plain c rest other _ inductionHypothesis =>
      obtain ⟨first, others⟩ := inductionHypothesis
      rw [Text.pieces]
      dsimp only
      split
      · exact ⟨.nil, List.forall_mem_cons.2 ⟨first, others⟩⟩
      · exact ⟨.plain other first, others⟩
    | @span position rest known _ inductionHypothesis =>
      obtain ⟨first, others⟩ := inductionHypothesis
      have uncut : ∀ c ∈ placeholder position, isCut c = false := fun c inside => by
        rw [Bool.eq_false_iff]
        exact fun cut => Bool.eq_false_iff.1 (cuts c cut) (isInner_of_mem_placeholder inside)
      rw [Text.pieces_append uncut]
      exact ⟨.span known first, others⟩
  rcases List.mem_cons.1 member with rfl | later
  · exact each.1
  · exact each.2 piece later

/-- Writing each character anew leaves placeholders whole if their characters stay. -/
theorem flatMap {write : Char → Text} (kept : ∀ c, isInner c → write c = [c])
    (unmarked : ∀ c, c ≠ '\x00' → '\x00' ∉ write c) {text : Text} (sound : Sound count text) :
    Sound count (text.flatMap write) := by
  induction sound with
  | nil => exact .nil
  | @plain c rest other _ inductionHypothesis =>
    exact (of_not_mem (unmarked c other)).append inductionHypothesis
  | @span position rest known _ inductionHypothesis =>
    have same : (placeholder position).flatMap write = placeholder position := by
      have each : (placeholder position).flatMap write = (placeholder position).flatMap ([·]) :=
        List.flatMap_congr fun c member => kept c (isInner_of_mem_placeholder member)
      rw [each, List.flatMap_singleton']
    rw [List.flatMap_append, same]
    exact .span known inductionHypothesis

/-- A sound text can be restored. -/
theorem succeeds_restore {spans : List Text} (few : spans.length ≤ 10 ^ digitLimit) {text : Text}
    (sound : Sound spans.length text) : Succeeds (restore spans text) := by
  induction sound with
  | nil =>
    rw [restore.eq_def]
    exact .ok []
  | plain other _ inductionHypothesis =>
    rw [restore_cons_of_ne other]
    exact inductionHypothesis.bind fun _ => .ok _
  | @span position rest known _ inductionHypothesis =>
    rw [restore_placeholder (List.getElem?_eq_getElem known) few]
    exact inductionHypothesis.bind fun _ => .ok _

end Sound

/-! ### Hiding -/

theorem eq_of_cutCloser? {length run : Nat} {text inside after : Text}
    (found : cutCloser? length run text = some (inside, after)) : text = inside ++ after := by
  induction text generalizing run inside with
  | nil =>
    rw [cutCloser?] at found
    split at found
    · obtain ⟨rfl, rfl⟩ := Prod.mk.inj (Option.some.inj found)
      rfl
    · exact nomatch found
  | cons c rest inductionHypothesis =>
    rw [cutCloser?] at found
    split at found
    · rename_i tick
      obtain ⟨⟨inner, later⟩, deeper, same⟩ := Option.map_eq_some_iff.1 found
      obtain ⟨rfl, rfl⟩ := Prod.mk.inj same
      rw [inductionHypothesis deeper, tick]
      rfl
    · split at found
      · obtain ⟨rfl, rfl⟩ := Prod.mk.inj (Option.some.inj found)
        rfl
      · split at found
        · exact nomatch found
        · obtain ⟨⟨inner, later⟩, deeper, same⟩ := Option.map_eq_some_iff.1 found
          obtain ⟨rfl, rfl⟩ := Prod.mk.inj same
          rw [inductionHypothesis deeper]
          rfl

/-- A span and what follows it are the text. -/
theorem eq_of_cut? {text span after : Text} (found : cut? text = some (span, after)) :
    text = span ++ after := by
  rw [cut?] at found
  simp only at found
  split at found
  · exact nomatch found
  · obtain ⟨⟨inside, later⟩, closer, same⟩ := Option.map_eq_some_iff.1 found
    obtain ⟨rfl, rfl⟩ := Prod.mk.inj same
    rw [List.append_assoc, ← eq_of_cutCloser? closer, List.takeWhile_append_dropWhile]

/-- Hiding the code of a text without marks leaves a sound text, and no more spans than the
text has characters. -/
theorem sound_hideFrom (first : Nat) {text : Text} (unmarked : '\x00' ∉ text) :
    Sound (first + (hideFrom first text).2.length) (hideFrom first text).1 ∧
      (hideFrom first text).2.length ≤ text.length := by
  fun_induction hideFrom first text with
  | case1 => exact ⟨.nil, Nat.le_refl _⟩
  | case2 first c rest span after found hidden spans same inductionHypothesis =>
    have later : '\x00' ∉ after := fun member => unmarked <| by
      rw [eq_of_cut? found]
      exact List.mem_append_right span member
    have shorter := length_cut? found
    obtain ⟨sound, few⟩ := inductionHypothesis later
    rw [same] at sound few
    dsimp only at sound few ⊢
    refine ⟨.span (by simp) (sound.mono ?_), ?_⟩ <;> rw [List.length_cons] <;> omega
  | case3 first c rest none hidden spans same inductionHypothesis =>
    rw [List.mem_cons, not_or] at unmarked
    obtain ⟨sound, few⟩ := inductionHypothesis unmarked.2
    rw [same] at sound few
    exact ⟨.plain (Ne.symm unmarked.1) sound, few.trans (Nat.le_succ _)⟩

/-- A text without marks whose code is hidden can be restored after any pass that leaves it
sound. -/
theorem succeeds_restore_hide {text : Text} (unmarked : '\x00' ∉ text)
    (short : text.length ≤ 10 ^ digitLimit) {pass : Text → Text}
    (sound : ∀ count hidden, Sound count hidden → Sound count (pass hidden)) :
    Succeeds (restore (hide text).2 (pass (hide text).1)) := by
  obtain ⟨hidden, few⟩ := sound_hideFrom 0 unmarked
  rw [Nat.zero_add] at hidden
  exact (sound _ _ hidden).succeeds_restore (few.trans short)

end CodeSpan

end CampaignPress
