/-
This file shows how the segments of a text are made up. Their lines, put one
after the other, are the lines of the text, and none of them is empty; so the
lines of a segment can be found again in its text.
-/
import CampaignPress.Proofs.Text.Lines
import CampaignPress.Prose.Fence

namespace CampaignPress

namespace Fence

/-! ### Opening lines -/

/-- After its blanks, a line that opens a fence begins with a mark. -/
theorem exists_mark {line : Text} {fence : Fence} (opens : opened? line = some fence) :
    ∃ c rest, Text.trimStart line = c :: rest ∧ (c = '`' ∨ c = '~') := by
  rw [opened?] at opens
  cases run : cutRun? line with
  | none => simp [run] at opens
  | some found =>
    rw [cutRun?] at run
    split at run
    · simp at run
    · rename_i c rest trimmed
      simp only at run
      split at run
      · rename_i marks
        rw [Bool.and_eq_true, Bool.or_eq_true, decide_eq_true_eq, decide_eq_true_eq] at marks
        exact ⟨c, rest, trimmed, marks.1⟩
      · simp at run

end Fence

namespace Segment

/-! ### The lines of segments -/

theorem flatMap_lines_prose (lines : List Text) : (prose lines).flatMap Segment.lines = lines := by
  rw [prose]
  split
  · rename_i empty
    rw [List.isEmpty_iff] at empty
    rw [empty, List.flatMap_nil]
  · exact List.flatMap_singleton _ _

theorem ne_nil_of_mem_prose {lines : List Text} {segment : Segment}
    (member : segment ∈ prose lines) : segment.lines ≠ [] := by
  rw [prose] at member
  split at member
  · exact absurd member List.not_mem_nil
  · rename_i filled
    rw [List.isEmpty_iff] at filled
    rw [List.mem_singleton] at member
    rw [member]
    exact filled

/-- Grouping puts every line in one segment and keeps their order. -/
theorem flatMap_lines_groupFrom (fence : Option Fence) (lines rest : List Text) :
    (groupFrom fence lines rest).flatMap Segment.lines = lines ++ rest := by
  induction rest generalizing fence lines with
  | nil =>
    rw [List.append_nil]
    cases fence with
    | none => exact flatMap_lines_prose lines
    | some fence => exact List.flatMap_singleton _ _
  | cons line rest inductionHypothesis =>
    cases fence with
    | none =>
      rw [groupFrom]
      cases Fence.opened? line with
      | none => rw [inductionHypothesis, List.append_assoc, List.singleton_append]
      | some fence =>
        rw [List.flatMap_append, flatMap_lines_prose, inductionHypothesis, List.singleton_append]
    | some fence =>
      rw [groupFrom]
      by_cases ends : fence.closes line = true
      · rw [if_pos ends, List.flatMap_cons, inductionHypothesis, List.append_assoc]
        rfl
      · rw [if_neg ends, inductionHypothesis, List.append_assoc, List.singleton_append]

theorem ne_nil_of_mem_groupFrom {fence : Option Fence} {lines rest : List Text}
    (started : fence.isSome → lines ≠ []) {segment : Segment}
    (member : segment ∈ groupFrom fence lines rest) : segment.lines ≠ [] := by
  induction rest generalizing fence lines with
  | nil =>
    cases fence with
    | none => exact ne_nil_of_mem_prose member
    | some fence =>
      rw [groupFrom, List.mem_singleton] at member
      rw [member]
      exact started rfl
  | cons line rest inductionHypothesis =>
    cases fence with
    | none =>
      rw [groupFrom] at member
      cases opens : Fence.opened? line with
      | none =>
        rw [opens] at member
        exact inductionHypothesis (by simp) member
      | some fence =>
        rw [opens] at member
        rcases List.mem_append.1 member with before | later
        · exact ne_nil_of_mem_prose before
        · exact inductionHypothesis (by simp) later
    | some fence =>
      rw [groupFrom] at member
      split at member
      · rcases List.mem_cons.1 member with rfl | later
        · exact List.append_ne_nil_of_right_ne_nil lines (List.cons_ne_nil line [])
        · exact inductionHypothesis (by simp) later
      · exact inductionHypothesis
          (fun _ => List.append_ne_nil_of_right_ne_nil lines (List.cons_ne_nil line [])) member

/-- Lines that open no fence go on with the prose before them. -/
theorem groupFrom_none_append {lines : List Text}
    (plain : ∀ line ∈ lines, Fence.opened? line = none) (before more : List Text) :
    groupFrom none before (lines ++ more) = groupFrom none (before ++ lines) more := by
  induction lines generalizing before with
  | nil => rw [List.append_nil, List.nil_append]
  | cons line lines inductionHypothesis =>
    rw [List.forall_mem_cons] at plain
    rw [List.cons_append, groupFrom, plain.1]
    dsimp only
    rw [inductionHypothesis plain.2, List.append_assoc, List.singleton_append]

/-- Lines that open no fence belong to one segment. -/
theorem groupFrom_none_of_plain {lines : List Text}
    (plain : ∀ line ∈ lines, Fence.opened? line = none) (before : List Text) :
    groupFrom none before lines = prose (before ++ lines) := by
  have whole := groupFrom_none_append plain before []
  rwa [List.append_nil] at whole

variable {text : Text}

/-- A text without fences is one segment. -/
theorem ofText_of_plain (plain : ∀ line ∈ Text.lines text, Fence.opened? line = none) :
    ofText text = [⟨false, Text.lines text⟩] := by
  rw [ofText, groupFrom_none_of_plain plain, List.nil_append, prose, if_neg]
  rw [List.isEmpty_iff]
  exact Text.lines_ne_nil text

theorem flatMap_lines_ofText (text : Text) :
    (ofText text).flatMap Segment.lines = Text.lines text :=
  flatMap_lines_groupFrom none [] (Text.lines text)

variable {segment : Segment} (member : segment ∈ ofText text)
include member

theorem lines_ne_nil_of_mem_ofText : segment.lines ≠ [] :=
  ne_nil_of_mem_groupFrom (by simp) member

theorem mem_lines_of_mem_ofText {line : Text} (inSegment : line ∈ segment.lines) :
    line ∈ Text.lines text := by
  rw [← flatMap_lines_ofText]
  exact List.mem_flatMap.2 ⟨segment, member, inSegment⟩

theorem lines_toText : Text.lines segment.toText = segment.lines := by
  refine Text.lines_unlines (fun line inSegment => ?_) (lines_ne_nil_of_mem_ofText member)
  exact Text.break_not_mem_of_mem_lines (mem_lines_of_mem_ofText member inSegment)

omit member in
/-- The segments of a text, joined again, are the text. -/
theorem unite_ofText (text : Text) : unite (ofText text) = text := by
  have filled : ∀ lines ∈ (ofText text).map Segment.lines, lines ≠ [] := by
    intro lines inLines
    obtain ⟨segment, member, rfl⟩ := List.mem_map.1 inLines
    exact lines_ne_nil_of_mem_ofText member
  have joined := Text.unlines_map_unlines filled
  rw [List.map_map, ← List.flatMap_def, flatMap_lines_ofText, Text.unlines_lines] at joined
  exact joined

end Segment

end CampaignPress
