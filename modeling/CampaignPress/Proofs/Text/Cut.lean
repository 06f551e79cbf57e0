/-
This file says what cutting a text leaves: the parts are the text again, and a
part before the first place where a character stands does not hold it. A text,
like any list, can also be cut before each of its items.
-/
import CampaignPress.Text.Basic
import Mathlib

namespace CampaignPress.Text

/-! ### Beginnings -/

theorem after?_eq_some_iff {beginning text rest : Text} :
    after? beginning text = some rest ↔ text = beginning ++ rest := by
  induction beginning generalizing text with
  | nil => exact Option.some_inj
  | cons b beginning inductionHypothesis =>
    cases text with
    | nil => simp [after?]
    | cons c text =>
      rw [after?]
      by_cases same : b = c
      · rw [if_pos same, inductionHypothesis, same, List.cons_append, List.cons_inj_right]
      · rw [if_neg same]
        constructor
        · intro absurd'
          simp at absurd'
        · intro equal
          exact absurd (List.cons.inj equal).1.symm same

theorem mem_of_mem_after? {beginning text rest : Text} (found : after? beginning text = some rest)
    {c : Char} (member : c ∈ rest) : c ∈ text := by
  rw [after?_eq_some_iff.1 found]
  exact List.mem_append_right _ member

/-! ### Runs -/

section Runs

variable {keep : Char → Bool} {run : Text} {c : Char} (inside : ∀ c ∈ run, keep c)
  (ends : keep c = false) (rest : Text)
include inside ends

theorem takeWhile_append_cons : (run ++ c :: rest).takeWhile keep = run := by
  rw [List.takeWhile_append_of_pos inside, List.takeWhile_cons_of_neg (Bool.not_eq_true _ ▸ ends),
    List.append_nil]

theorem dropWhile_append_cons : (run ++ c :: rest).dropWhile keep = c :: rest := by
  rw [List.dropWhile_append_of_pos inside, List.dropWhile_cons_of_neg (Bool.not_eq_true _ ▸ ends)]

end Runs

/-! ### Single characters -/

theorem cutAt_eq_some_iff {separator : Char} {text before after : Text} :
    cutAt separator text = some (before, after) ↔
      text = before ++ separator :: after ∧ separator ∉ before := by
  induction text generalizing before with
  | nil => simp [cutAt]
  | cons c rest inductionHypothesis =>
    rw [cutAt]
    by_cases here : c = separator
    · rw [if_pos here, here, Option.some.injEq, Prod.mk.injEq]
      constructor
      · rintro ⟨rfl, rfl⟩
        exact ⟨rfl, List.not_mem_nil⟩
      · rintro ⟨same, first⟩
        cases before with
        | nil => exact ⟨rfl, (List.cons.inj same).2⟩
        | cons d before =>
          exact absurd ((List.cons.inj same).1 ▸ List.mem_cons_self) first
    · rw [if_neg here]
      constructor
      · intro found
        obtain ⟨⟨inner, later⟩, deeper, same⟩ := Option.map_eq_some_iff.1 found
        obtain ⟨rfl, rfl⟩ := Prod.mk.inj same
        obtain ⟨rfl, first⟩ := inductionHypothesis.1 deeper
        exact ⟨rfl, by simpa [first] using Ne.symm here⟩
      · rintro ⟨same, first⟩
        cases before with
        | nil => exact absurd (List.cons.inj same).1 here
        | cons d before =>
          obtain ⟨rfl, rfl⟩ := List.cons.inj same
          rw [inductionHypothesis.2 ⟨rfl, fun inside => first (List.mem_cons_of_mem _ inside)⟩]
          rfl

theorem cutAt_eq_none_iff {separator : Char} {text : Text} :
    cutAt separator text = none ↔ separator ∉ text := by
  induction text with
  | nil => simp [cutAt]
  | cons c rest inductionHypothesis =>
    rw [cutAt]
    by_cases here : c = separator
    · simp [here]
    · simp [here, inductionHypothesis, Ne.symm here]

/-- A text is cut in one way at the first place where a character stands. -/
theorem append_cons_inj {separator : Char} {before before' after after' : Text}
    (first : separator ∉ before) (first' : separator ∉ before')
    (same : before ++ separator :: after = before' ++ separator :: after') :
    before = before' ∧ after = after' := by
  have cut := cutAt_eq_some_iff.2 ⟨same, first'⟩
  rw [cutAt_eq_some_iff.2 ⟨rfl, first⟩] at cut
  exact Prod.mk.inj (Option.some.inj cut)

theorem cutAtLast_eq_some_iff {separator : Char} {text before after : Text} :
    cutAtLast separator text = some (before, after) ↔
      text = before ++ separator :: after ∧ separator ∉ after := by
  rw [cutAtLast, Option.map_eq_some_iff]
  constructor
  · rintro ⟨⟨right, left⟩, cut, same⟩
    obtain ⟨rfl, rfl⟩ := Prod.mk.inj same
    obtain ⟨reversed, first⟩ := cutAt_eq_some_iff.1 cut
    have whole := congrArg List.reverse reversed
    rw [List.reverse_reverse, List.reverse_append, List.reverse_cons, List.append_assoc] at whole
    exact ⟨whole, by rwa [List.mem_reverse]⟩
  · rintro ⟨rfl, last⟩
    refine ⟨(after.reverse, before.reverse), cutAt_eq_some_iff.2 ⟨by simp, by simpa using last⟩, ?_⟩
    simp

theorem cutAtLast_eq_none_iff {separator : Char} {text : Text} :
    cutAtLast separator text = none ↔ separator ∉ text := by
  rw [cutAtLast, Option.map_eq_none_iff, cutAt_eq_none_iff, List.mem_reverse]

/-! ### Items and what is before them -/

/-- Each item of a list with the items before it. -/
def withBefore {Item : Type} (items : List Item) : List (List Item × Item) :=
  items.zipIdx.map fun entry => (items.take entry.2, entry.1)

theorem withBefore_append_singleton {Item : Type} (items : List Item) (item : Item) :
    withBefore (items ++ [item]) = withBefore items ++ [(items, item)] := by
  rw [withBefore, List.zipIdx_append, List.map_append, Nat.zero_add, List.zipIdx_singleton,
    List.map_singleton, List.take_left]
  refine congrArg (· ++ [(items, item)]) (List.map_congr_left fun entry member => ?_)
  rw [List.take_append_of_le_length (List.snd_lt_of_mem_zipIdx member).le]

end CampaignPress.Text
