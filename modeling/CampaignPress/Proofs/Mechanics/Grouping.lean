/-
This file says how the lines of a block fall into units. The braces that are
open after some lines are counted from the balances of the lines alone: a line
that closes more than are open leaves none open. A unit takes in lines for as
long as braces are open, so the units, one after the other, are all the lines
but the blank ones before which no brace is open. Only the last unit can be
left open, and then the text ends with it.
-/
import CampaignPress.Proofs.Mechanics.Brace
import CampaignPress.Proofs.Text.Cut

namespace CampaignPress.Mechanics

/-! ### Open braces -/

/-- The braces that lines open, less those that they close. -/
def totalBalance (lines : List Text) : Int := (lines.map balance).sum

/-- The braces that are open after some lines. A line that closes more than are open leaves none
open. -/
def openAfter (lines : List Text) : Int :=
  lines.foldl (fun depth line => max 0 (depth + balance line)) 0

/-- A blank line, with no brace open before it. -/
def IsGap (before : List Text) (line : Text) : Prop := openAfter before = 0 ∧ line = []

instance (before : List Text) (line : Text) : Decidable (IsGap before line) :=
  inferInstanceAs (Decidable (_ ∧ _))

def withoutGaps (lines : List Text) : List Text :=
  ((Text.withBefore lines).filter fun (before, line) => ¬IsGap before line).map Prod.snd

/-- Braces are open after each of the lines but the last. -/
def StaysOpen (lines : List Text) : Prop :=
  ∀ count, 0 < count → count < lines.length → 0 < totalBalance (lines.take count)

theorem totalBalance_append_singleton (lines : List Text) (line : Text) :
    totalBalance (lines ++ [line]) = totalBalance lines + balance line := by
  simp [totalBalance]

theorem openAfter_append_singleton (lines : List Text) (line : Text) :
    openAfter (lines ++ [line]) = max 0 (openAfter lines + balance line) := by
  rw [openAfter, List.foldl_append]
  rfl

theorem withoutGaps_append_gap {lines : List Text} {line : Text} (gap : IsGap lines line) :
    withoutGaps (lines ++ [line]) = withoutGaps lines := by
  simp [withoutGaps, Text.withBefore_append_singleton, gap]

theorem withoutGaps_append_line {lines : List Text} {line : Text} (noGap : ¬IsGap lines line) :
    withoutGaps (lines ++ [line]) = withoutGaps lines ++ [line] := by
  simp [withoutGaps, Text.withBefore_append_singleton, noGap]

theorem StaysOpen.nil : StaysOpen [] := fun _ _ short => absurd short (Nat.not_lt_zero _)

/-- One more line may follow lines that leave braces open. -/
theorem StaysOpen.append_singleton {lines : List Text} (stays : StaysOpen lines)
    (opened : lines ≠ [] → 0 < totalBalance lines) (line : Text) : StaysOpen (lines ++ [line]) := by
  intro count positive short
  rw [List.length_append, List.length_singleton, Nat.lt_succ_iff] at short
  rw [List.take_append_of_le_length short]
  rcases short.lt_or_eq with inside | rfl
  · exact stays count positive inside
  · rw [List.take_length]
    exact opened (List.ne_nil_of_length_pos positive)

/-! ### One more line -/

/-- The lines of the unit that is open, none if no unit is. -/
def Collected.linesOf (open? : Option Collected) : List Text := open?.elim [] Collected.lines

/-- The braces that the open unit has open, none if no unit is. -/
def Collected.depthOf (open? : Option Collected) : Int := open?.elim 0 Collected.depth

open Collected (linesOf depthOf)

/-- A blank line is passed over when no unit is open. Every other line joins the unit, which it
leaves open or completes. -/
theorem Collected.step_cases (open? : Option Collected) (line : Text) :
    (open? = none ∧ line = [] ∧ Collected.step open? line = ([], none)) ∨
      ¬(open? = none ∧ line = []) ∧
        ((0 < depthOf open? + balance line ∧ Collected.step open? line =
            ([], some ⟨linesOf open? ++ [line], depthOf open? + balance line⟩)) ∨
          (depthOf open? + balance line ≤ 0 ∧
            Collected.step open? line = ([linesOf open? ++ [line]], none))) := by
  cases open? with
  | none =>
    have depth : depthOf none + balance line = balance line := Int.zero_add _
    rw [Collected.step_none, depth]
    by_cases blank : line = []
    · exact .inl ⟨rfl, blank, by rw [blank]; rfl⟩
    · rw [if_neg (by simpa using blank)]
      refine .inr ⟨fun gap => blank gap.2, ?_⟩
      by_cases opens : 0 < balance line
      · exact .inl ⟨opens, if_pos opens⟩
      · exact .inr ⟨Int.not_lt.1 opens, if_neg opens⟩
  | some collected =>
    rw [Collected.step_some]
    have noGap : ¬(some collected = none ∧ line = []) := fun gap => nomatch gap.1
    by_cases closes : collected.depth + balance line ≤ 0
    · exact .inr ⟨noGap, .inr ⟨closes, if_pos closes⟩⟩
    · exact .inr ⟨noGap, .inl ⟨Int.not_le.1 closes, if_neg closes⟩⟩

/-- Lines have been grouped into complete units and perhaps one that is open. -/
structure Grouped (lines : List Text) (units : List (List Text)) (open? : Option Collected) :
    Prop where
  whole : units.flatten ++ linesOf open? = withoutGaps lines
  complete : ∀ unit ∈ units, unit ≠ [] ∧ StaysOpen unit ∧ totalBalance unit ≤ 0
  opened : ∀ collected ∈ open?, collected.lines ≠ [] ∧ 0 < collected.depth
  stays : StaysOpen (linesOf open?)
  total : totalBalance (linesOf open?) = depthOf open?
  depth : openAfter lines = depthOf open?
  ending : ∃ before, openAfter before = 0 ∧ lines = before ++ linesOf open?

theorem Grouped.nil : Grouped [] [] none where
  whole := rfl
  complete := by simp
  opened := by simp
  stays := .nil
  total := rfl
  depth := rfl
  ending := ⟨[], rfl, rfl⟩

section Grouped

variable {lines : List Text} {units : List (List Text)} {open? : Option Collected}
  (grouped : Grouped lines units open?)
include grouped

/-- No brace is open exactly when no unit is. -/
theorem Grouped.openAfter_eq_zero_iff : openAfter lines = 0 ↔ open? = none := by
  rw [grouped.depth]
  constructor
  · intro closed
    cases open? with
    | none => rfl
    | some collected => exact absurd closed (grouped.opened collected rfl).2.ne'
  · rintro rfl
    rfl

theorem Grouped.append_singleton (line : Text) :
    Grouped (lines ++ [line]) (units ++ (Collected.step open? line).1)
      (Collected.step open? line).2 := by
  have opened : linesOf open? ≠ [] → 0 < totalBalance (linesOf open?) := by
    intro nonempty
    rw [grouped.total]
    cases open? with
    | none => exact absurd rfl nonempty
    | some collected => exact (grouped.opened collected rfl).2
  have stays := grouped.stays.append_singleton opened line
  have total : totalBalance (linesOf open? ++ [line]) = depthOf open? + balance line := by
    rw [totalBalance_append_singleton, grouped.total]
  have depth : openAfter (lines ++ [line]) = max 0 (depthOf open? + balance line) := by
    rw [openAfter_append_singleton, grouped.depth]
  -- A gap is dropped. Any other line joins the open unit, or a new one, and may complete it.
  rcases Collected.step_cases open? line with ⟨rfl, rfl, step⟩ | ⟨noGap, step⟩
  · rw [step, List.append_nil]
    exact {
      whole := grouped.whole.trans (withoutGaps_append_gap ⟨grouped.depth, rfl⟩).symm
      complete := grouped.complete
      opened := grouped.opened
      stays := grouped.stays
      total := grouped.total
      depth := depth
      ending := ⟨lines ++ [[]], depth, (List.append_nil _).symm⟩ }
  · have whole : units.flatten ++ (linesOf open? ++ [line]) = withoutGaps (lines ++ [line]) := by
      rw [← grouped.openAfter_eq_zero_iff] at noGap
      rw [withoutGaps_append_line noGap, ← grouped.whole, List.append_assoc]
    obtain ⟨before, closed, same⟩ := grouped.ending
    rcases step with ⟨positive, step⟩ | ⟨closes, step⟩ <;> rw [step]
    · rw [List.append_nil]
      refine ⟨whole, grouped.complete, ?_, stays, total, depth.trans (max_eq_right positive.le),
        before, closed, by rw [same, List.append_assoc]; rfl⟩
      rintro collected ⟨⟩
      exact ⟨List.append_ne_nil_of_right_ne_nil _ (List.cons_ne_nil line []), positive⟩
    · have depth := depth.trans (max_eq_left closes)
      refine ⟨?_, ?_, by simp, .nil, rfl, depth, lines ++ [line], depth, (List.append_nil _).symm⟩
      · rw [List.flatten_append, List.flatten_singleton, List.append_assoc, ← whole]
        exact congrArg _ (List.append_nil _)
      · rw [List.forall_mem_append, List.forall_mem_singleton]
        exact ⟨grouped.complete, List.append_ne_nil_of_right_ne_nil _ (List.cons_ne_nil line []),
          stays, total.trans_le closes⟩

end Grouped

/-! ### All lines -/

/-- What one line keeps is true after all of them. -/
theorem grouped_scan (lines : List Text) :
    Grouped lines (scan none lines).1 (scan none lines).2 := by
  induction lines using List.reverseRecOn with
  | nil => exact .nil
  | append_singleton lines line inductionHypothesis =>
    have step := inductionHypothesis.append_singleton line
    rw [scan_append, scan_cons]
    simpa [scan] using step

/-- At the end of the text the unit that is open is the last one. -/
theorem units_eq (source : Text) : units source =
    (scan none (Text.trimmedLines source)).1 ++
      (scan none (Text.trimmedLines source)).2.toList.map Collected.lines := by
  have whole := groupFrom_append none (Text.trimmedLines source) []
  rw [List.append_nil] at whole
  rw [units]
  show groupFrom none (Text.trimmedLines source) = _
  rw [whole]
  cases (scan none (Text.trimmedLines source)).2 <;> rfl

/-- An item of a list with one more at its end is in the list, or is that last one. -/
theorem mem_or_eq_of_append_eq {Item : Type} {earlier later items : List Item} {item last : Item}
    (same : items ++ [last] = earlier ++ item :: later) :
    item ∈ items ∨ (later = [] ∧ item = last) := by
  rcases List.eq_nil_or_concat' later with rfl | ⟨later, final, rfl⟩
  · exact .inr ⟨rfl, (List.append_singleton_inj.1 same).2.symm⟩
  · rw [← List.cons_append, ← List.append_assoc] at same
    rw [(List.append_singleton_inj.1 same).1]
    exact .inl (List.mem_append_right _ List.mem_cons_self)

/-- The units of a text are its trimmed lines without the blank ones before which no brace is open;
these are the ones before which no unit is open. Braces are open after each line of a unit but the
last. After its last line none are, but for the last unit, which may be left open and then goes on
to the end of the text. -/
theorem units_group_lines (source : Text) :
    (units source).flatten = withoutGaps (Text.trimmedLines source) ∧
      (∀ before, before <+: Text.trimmedLines source →
        (openAfter before = 0 ↔ (scan none before).2 = none)) ∧
      (∀ unit ∈ units source, unit ≠ [] ∧ StaysOpen unit) ∧
      ∀ earlier unit later, units source = earlier ++ unit :: later →
        totalBalance unit ≤ 0 ∨ (later = [] ∧
          ∃ before, openAfter before = 0 ∧ Text.trimmedLines source = before ++ unit) := by
  have grouped := grouped_scan (Text.trimmedLines source)
  have idle : ∀ before, before <+: Text.trimmedLines source →
      (openAfter before = 0 ↔ (scan none before).2 = none) :=
    fun before _ => (grouped_scan before).openAfter_eq_zero_iff
  rw [units_eq]
  generalize (scan none (Text.trimmedLines source)).1 = complete at grouped ⊢
  have complete' : ∀ unit ∈ complete, unit ≠ [] ∧ StaysOpen unit := fun unit member =>
    ⟨(grouped.complete unit member).1, (grouped.complete unit member).2.1⟩
  cases last : (scan none (Text.trimmedLines source)).2 with
  | none =>
    rw [last] at grouped
    simp only [Option.toList_none, List.map_nil, List.append_nil]
    refine ⟨(List.append_nil _).symm.trans grouped.whole, idle, complete',
      fun earlier unit later same => .inl ?_⟩
    exact (grouped.complete unit (same ▸ List.mem_append_right _ List.mem_cons_self)).2.2
  | some collected =>
    rw [last] at grouped
    simp only [Option.toList_some, List.map_singleton]
    refine ⟨?_, idle, ?_, fun earlier unit later same => ?_⟩
    · rw [List.flatten_append, List.flatten_singleton]
      exact grouped.whole
    · rw [List.forall_mem_append, List.forall_mem_singleton]
      exact ⟨complete', (grouped.opened collected rfl).1, grouped.stays⟩
    · rcases mem_or_eq_of_append_eq same with member | ⟨rfl, rfl⟩
      · exact .inl (grouped.complete unit member).2.2
      · exact .inr ⟨rfl, grouped.ending⟩

/-- A blank line between units and one within a unit, and a unit that is left open. -/
theorem units_group_lines_track :
    let source : Text := "x\n\nmove \x7b\n\n\x7d \x7d\n\ntrack \x7b\n\n"
    let earlier : List (List Text) := [["x"], ["move \x7b", "", "\x7d \x7d"]]
    let last : List Text := ["track \x7b", "", ""]
    units source = earlier ++ [last] ∧ totalBalance last = 1 ∧
      ∃ before, openAfter before = 0 ∧ Text.trimmedLines source = before ++ last := by
  intro source earlier last
  have grouped : units source = earlier ++ [last] := by decide
  have opened : totalBalance last = 1 := by decide
  refine ⟨grouped, opened, ?_⟩
  rcases (units_group_lines source).2.2.2 earlier last [] grouped with closed | ⟨-, ending⟩
  · rw [opened] at closed
    exact absurd closed (by decide)
  · exact ending

end CampaignPress.Mechanics
