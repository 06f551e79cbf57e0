/-
This file says what setting fences apart does to the lines of a text. A line
that begins with three backticks gets an empty line above it if the line above
has something left of it, and nothing is left of an empty line, or of three
backticks alone that were set apart themselves. The pass goes through the
characters, so what carries the proof is one equation for a line and its break.
-/
import CampaignPress.Proofs.Prose.Body
import CampaignPress.Proofs.Text.Lines

namespace CampaignPress

namespace Text

theorem startsWith_eq_isSome (text beginning : Text) :
    startsWith text beginning = (after? beginning text).isSome := by
  rw [Bool.eq_iff_iff, startsWith, List.isPrefixOf_iff_prefix, Option.isSome_iff_exists]
  constructor
  · rintro ⟨rest, same⟩
    exact ⟨rest, after?_eq_some_iff.2 same.symm⟩
  · rintro ⟨rest, found⟩
    exact ⟨rest, (after?_eq_some_iff.1 found).symm⟩

/-- What begins a line does not reach over the break. -/
theorem after?_append_break {beginning : Text} (single : '\n' ∉ beginning) (line rest : Text) :
    after? beginning (line ++ '\n' :: rest) = (after? beginning line).map (· ++ '\n' :: rest) := by
  induction beginning generalizing line with
  | nil => rfl
  | cons b beginning inductionHypothesis =>
    rw [List.mem_cons, not_or] at single
    cases line with
    | nil => exact if_neg (Ne.symm single.1)
    | cons c line =>
      rw [List.cons_append, after?, after?]
      split
      · exact inductionHypothesis single.2 line
      · rfl

theorem after?_unlines_cons {beginning : Text} (single : '\n' ∉ beginning) (line : Text)
    (others : List Text) : after? beginning (unlines (line :: others)) =
      (after? beginning line).map fun rest => unlines (rest :: others) := by
  cases others with
  | nil => simp [unlines_singleton]
  | cons other others =>
    have joined (line : Text) := unlines_cons line (List.cons_ne_nil other others)
    rw [joined, after?_append_break single]
    exact congrArg (Option.map · _) (funext fun rest => (joined rest).symm)

end Text

namespace Prose

/-! ### Single lines -/

theorem separateFences_break (rest : Text) :
    separateFences ('\n' :: rest) = '\n' :: separateFences rest := by
  rw [separateFences, if_pos rfl]

theorem separateFences_cons {c : Char} {rest : Text} (inked : c ≠ '\n') :
    separateFences (c :: rest) = match Text.after? fenceBelow rest with
      | some after => c :: '\n' :: fenceBelow ++ separateFences after
      | none => c :: separateFences rest := by
  rw [separateFences, if_neg inked]
  split
  · rename_i after found
    rw [found]
  · rename_i found
    rw [found]

/-- What is below a character that stands in front of others of its line does not matter. -/
theorem after?_fenceBelow_cons {c : Char} (inked : c ≠ '\n') (rest : Text) :
    Text.after? fenceBelow (c :: rest) = none :=
  if_neg (Ne.symm inked)

theorem separateFences_line {line : Text} (single : '\n' ∉ line) : separateFences line = line := by
  induction line with
  | nil => rw [separateFences]
  | cons c line inductionHypothesis =>
    rw [List.mem_cons, not_or] at single
    have below : Text.after? fenceBelow line = none := by
      cases line with
      | nil => rfl
      | cons d line =>
        exact after?_fenceBelow_cons (fun same => single.2 (same ▸ List.mem_cons_self)) line
    rw [separateFences_cons (Ne.symm single.1), below]
    exact congrArg (c :: ·) (inductionHypothesis single.2)

/-- A fence below a line that is not empty is set apart from it, and passed over. -/
theorem separateFences_append_fence {line rest after : Text} (single : '\n' ∉ line)
    (filled : line ≠ []) (found : Text.after? "```" rest = some after) :
    separateFences (line ++ '\n' :: rest) = line ++ '\n' :: fenceBelow ++ separateFences after := by
  induction line with
  | nil => exact absurd rfl filled
  | cons c line inductionHypothesis =>
    rw [List.mem_cons, not_or] at single
    rw [List.cons_append, separateFences_cons (Ne.symm single.1)]
    cases line with
    | nil =>
      have below : Text.after? fenceBelow ('\n' :: rest) = some after := found
      rw [List.nil_append, below]
      rfl
    | cons d line =>
      have inside : d ≠ '\n' := fun same => single.2 (same ▸ List.mem_cons_self)
      rw [List.cons_append, after?_fenceBelow_cons inside]
      exact congrArg (c :: ·) (inductionHypothesis single.2 (List.cons_ne_nil d line))

/-- Below an empty line, and where no fence is below, a line stays as it is. -/
theorem separateFences_append_other {line rest : Text} (single : '\n' ∉ line)
    (other : line = [] ∨ Text.after? "```" rest = none) :
    separateFences (line ++ '\n' :: rest) = line ++ '\n' :: separateFences rest := by
  induction line with
  | nil => exact separateFences_break rest
  | cons c line inductionHypothesis =>
    rw [List.mem_cons, not_or] at single
    have missing := other.resolve_left (List.cons_ne_nil c line)
    have below : Text.after? fenceBelow (line ++ '\n' :: rest) = none := by
      cases line with
      | nil => exact missing
      | cons d line =>
        exact after?_fenceBelow_cons (fun same => single.2 (same ▸ List.mem_cons_self)) _
    rw [List.cons_append, separateFences_cons (Ne.symm single.1), below]
    exact congrArg (c :: ·) (inductionHypothesis single.2 (.inr missing))

/-! ### Lines set apart -/

/-- A line, and whether an empty line is put above it. -/
structure Parted where
  apart : Bool
  line : Text
  deriving DecidableEq

/-- Whether something of a line is left for the line below it to be set apart from. -/
def Parted.isLeft (item : Parted) : Bool :=
  if item.apart then item.line ≠ "```".toList else !item.line.isEmpty

def partedFrom : (left : Bool) → List Text → List Parted
  | _, [] => []
  | left, line :: rest =>
    let item : Parted := ⟨left && Text.startsWith line "```", line⟩
    item :: partedFrom item.isLeft rest

/-- The lines of a text, with the word which of them are set apart. -/
def parted (text : Text) : List Parted := partedFrom false (Text.lines text)

/-- What is put above a line. -/
def gap (apart : Bool) : List Text := if apart then [[]] else []

theorem eq_nil_of_mem_gap {apart : Bool} {line : Text} (member : line ∈ gap apart) : line = [] := by
  cases apart with
  | true => exact List.mem_singleton.1 member
  | false => exact absurd member List.not_mem_nil

/-- Lines with an empty line above each that is to be set apart. -/
def linesWith (apart : Parted → Bool) (items : List Parted) : List Text :=
  items.flatMap fun item => gap (apart item) ++ [item.line]

theorem linesWith_cons (apart : Parted → Bool) (item : Parted) (items : List Parted) :
    linesWith apart (item :: items) = gap (apart item) ++ item.line :: linesWith apart items := by
  rw [linesWith, List.flatMap_cons, List.append_assoc]
  rfl

theorem linesWith_append (apart : Parted → Bool) (first second : List Parted) :
    linesWith apart (first ++ second) = linesWith apart first ++ linesWith apart second :=
  List.flatMap_append

theorem linesWith_false (items : List Parted) :
    linesWith (fun _ => false) items = items.map Parted.line :=
  (List.map_eq_flatMap ..).symm

theorem mem_linesWith {apart : Parted → Bool} {items : List Parted} {line : Text}
    (member : line ∈ linesWith apart items) : line = [] ∨ line ∈ items.map Parted.line := by
  obtain ⟨item, inItems, inside⟩ := List.mem_flatMap.1 member
  rcases List.mem_append.1 inside with above | here
  · exact .inl (eq_nil_of_mem_gap above)
  · obtain rfl := List.mem_singleton.1 here
    exact .inr (List.mem_map_of_mem inItems)

theorem map_line_partedFrom (left : Bool) (lines : List Text) :
    (partedFrom left lines).map Parted.line = lines := by
  induction lines generalizing left with
  | nil => rfl
  | cons line lines inductionHypothesis =>
    rw [partedFrom, List.map_cons, inductionHypothesis]

theorem backtick_single : '\n' ∉ "```".toList := by
  decide

/-- Below a line that is left, the first fence is set apart; then the lines below it are as those
below the rest of its own line. -/
theorem separateFences_unlines (first : Text) {rest : List Text}
    (single : ∀ line ∈ first :: rest, '\n' ∉ line) :
    separateFences (Text.unlines (first :: rest)) =
      Text.unlines (first :: linesWith Parted.apart (partedFrom (!first.isEmpty) rest)) := by
  induction rest generalizing first with
  | nil =>
    rw [List.forall_mem_singleton] at single
    rw [Text.unlines_singleton, separateFences_line single]
    exact (Text.unlines_singleton first).symm
  | cons line rest inductionHypothesis =>
    obtain ⟨inFirst, others⟩ := List.forall_mem_cons.1 single
    have reach := Text.after?_unlines_cons backtick_single line
    have begins := Text.startsWith_eq_isSome line "```"
    rw [Text.unlines_cons first (List.cons_ne_nil line rest), partedFrom]
    cases apart : !first.isEmpty && Text.startsWith line "```" with
    | false =>
      have other : first = [] ∨ Text.after? "```" (Text.unlines (line :: rest)) = none := by
        rw [reach, Option.map_eq_none_iff, ← Option.not_isSome_iff_eq_none, ← begins]
        simpa [or_iff_not_imp_left] using apart
      have left : Parted.isLeft ⟨false, line⟩ = !line.isEmpty := rfl
      rw [separateFences_append_other inFirst other, inductionHypothesis line others, left,
        linesWith_cons]
      exact (Text.unlines_cons first (List.cons_ne_nil line _)).symm
    | true =>
      rw [Bool.and_eq_true, begins, Option.isSome_iff_exists] at apart
      obtain ⟨filled, inner, found⟩ := apart
      have split := Text.after?_eq_some_iff.1 found
      have inside : ∀ other ∈ inner :: rest, '\n' ∉ other := by
        rw [List.forall_mem_cons] at others ⊢
        exact ⟨fun member => others.1 (Text.mem_of_mem_after? found member), others.2⟩
      have left : Parted.isLeft ⟨true, line⟩ = !inner.isEmpty := by
        rw [Parted.isLeft, if_pos rfl, split]
        cases inner <;> rfl
      have below (others : List Text) :
          Text.after? "```" (Text.unlines (line :: others)) = some (Text.unlines (inner :: others)) :=
        (reach others).trans (congrArg (Option.map _) found)
      have nonempty : first ≠ [] := by simpa using filled
      rw [separateFences_append_fence inFirst nonempty (below rest), inductionHypothesis inner inside,
        left, linesWith_cons]
      show _ = Text.unlines (first :: [] :: line :: linesWith Parted.apart _)
      rw [Text.unlines_cons first (List.cons_ne_nil _ _), Text.unlines_cons [] (List.cons_ne_nil _ _),
        Text.after?_eq_some_iff.1 (below _)]
      exact List.append_assoc first _ _

/-- The lines of a prepared text are those of the text, with empty lines above some fences. -/
theorem lines_prepare (text : Text) : Text.lines (prepare text) =
    linesWith Parted.apart (parted (Text.normalizeBreaks text)) := by
  rw [prepare, parted]
  generalize Text.normalizeBreaks text = source
  have single : ∀ line ∈ Text.lines source, '\n' ∉ line :=
    fun line => Text.break_not_mem_of_mem_lines
  have joined := Text.unlines_lines source
  cases lines : Text.lines source with
  | nil => exact absurd lines (Text.lines_ne_nil source)
  | cons first rest =>
    rw [lines] at single joined
    have left : Parted.isLeft ⟨false, first⟩ = !first.isEmpty := rfl
    rw [← joined, separateFences_unlines first single, partedFrom, Bool.false_and, left,
      linesWith_cons]
    refine Text.lines_unlines (fun line member => ?_) (List.cons_ne_nil _ _)
    rcases List.mem_cons.1 member with rfl | later
    · exact single line List.mem_cons_self
    · rcases mem_linesWith later with rfl | inItems
      · exact List.not_mem_nil
      · rw [map_line_partedFrom] at inItems
        exact single line (List.mem_cons_of_mem first inItems)

/-- Only a fence is set apart. -/
def Parted.IsSound (item : Parted) : Prop := item.apart = true → Text.startsWith item.line "```"

theorem isSound_of_mem_partedFrom {left : Bool} {lines : List Text} {item : Parted}
    (member : item ∈ partedFrom left lines) : item.IsSound := by
  induction lines generalizing left with
  | nil => exact absurd member List.not_mem_nil
  | cons line lines inductionHypothesis =>
    rcases List.mem_cons.1 member with rfl | later
    · exact fun apart => (Bool.and_eq_true_iff.1 apart).2
    · exact inductionHypothesis later

/-- A line is set apart if it begins with three backticks and something is left of the line above
it. -/
theorem isChain_partedFrom (left : Bool) (lines : List Text) :
    (partedFrom left lines).IsChain fun above below =>
      below.apart = (above.isLeft && Text.startsWith below.line "```") := by
  induction lines generalizing left with
  | nil => exact List.isChain_nil
  | cons line lines inductionHypothesis =>
    rw [partedFrom, List.isChain_cons]
    refine ⟨fun below found => ?_, inductionHypothesis _⟩
    cases lines with
    | nil => exact absurd found (Option.not_mem_none _)
    | cons next lines =>
      obtain rfl := Option.some.inj found
      rfl

/-! ### Inserted lines -/

/-- Lines with empty lines put in between. -/
inductive Respaced : List Text → List Text → Prop
  | nil : Respaced [] []
  | keep {line : Text} {old new : List Text} (rest : Respaced old new) :
    Respaced (line :: old) (line :: new)
  | insert {old new : List Text} (rest : Respaced old new) : Respaced old ([] :: new)

theorem respaced_linesWith (apart : Parted → Bool) (items : List Parted) :
    Respaced (items.map Parted.line) (linesWith apart items) := by
  induction items with
  | nil => exact .nil
  | cons item items inductionHypothesis =>
    rw [linesWith_cons]
    cases apart item with
    | true => exact .insert (.keep inductionHypothesis)
    | false => exact .keep inductionHypothesis

end Prose

end CampaignPress
