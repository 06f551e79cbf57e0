/-
This file tells how lines fall into segments if they are put together from
groups. As long as every group but the last closes the fences that it opens, the
groups can be read one by one: they hold the same fences, and a line is fenced
in its group if it is fenced in the whole. Segments are such groups themselves:
what every line keeps while lines are grouped is known of the segments where
they end, and only the last one may end without the line that closes it.
-/
import CampaignPress.Proofs.Prose.Fence

namespace CampaignPress

/-! ### Open fences -/

namespace Fence

/-- The fence that is open after one more line. -/
def after : (fence : Option Fence) → Text → Option Fence
  | none, line => opened? line
  | some fence, line => if fence.closes line then none else some fence

/-- The fence that is open after some lines. -/
def afterLines (fence : Option Fence) (lines : List Text) : Option Fence := lines.foldl after fence

theorem afterLines_append (fence : Option Fence) (first second : List Text) :
    afterLines fence (first ++ second) = afterLines (afterLines fence first) second :=
  List.foldl_append

/-- A line that begins with neither a blank nor a mark opens no fence. -/
theorem opened?_of_head? {line : Text} {c : Char} (first : line.head? = some c)
    (other : Text.isBlank c = false ∧ c ≠ '`' ∧ c ≠ '~') : opened? line = none := by
  rw [Option.eq_none_iff_forall_not_mem]
  intro fence opens
  obtain ⟨d, rest, trimmed, mark⟩ := exists_mark opens
  cases line with
  | nil => exact nomatch first
  | cons e line =>
    obtain rfl := Option.some.inj first
    have kept : Text.trimStart (e :: line) = e :: line :=
      List.dropWhile_cons_of_neg (Bool.eq_false_iff.1 other.1)
    rw [kept] at trimmed
    obtain ⟨rfl, -⟩ := List.cons.inj trimmed
    exact mark.elim other.2.1 other.2.2

/-- Lines that close the fences they open. -/
def AreBalanced (lines : List Text) : Prop := afterLines none lines = none

instance (lines : List Text) : Decidable (AreBalanced lines) :=
  inferInstanceAs (Decidable (_ = none))

theorem AreBalanced.append {first second : List Text} (left : AreBalanced first)
    (right : AreBalanced second) : AreBalanced (first ++ second) := by
  rw [AreBalanced, afterLines_append, left]
  exact right

theorem areBalanced_of_plain {lines : List Text} (plain : ∀ line ∈ lines, opened? line = none) :
    AreBalanced lines := by
  induction lines with
  | nil => rfl
  | cons line lines inductionHypothesis =>
    rw [List.forall_mem_cons] at plain
    rw [AreBalanced, afterLines, List.foldl_cons, after, plain.1]
    exact inductionHypothesis plain.2

theorem AreBalanced.flatten {groups : List (List Text)}
    (balanced : ∀ group ∈ groups, AreBalanced group) : AreBalanced groups.flatten := by
  induction groups with
  | nil => rfl
  | cons group groups inductionHypothesis =>
    rw [List.forall_mem_cons] at balanced
    exact balanced.1.append (inductionHypothesis balanced.2)

end Fence

namespace Segment

open Fence (after afterLines AreBalanced)

/-- The segments of lines. -/
def ofLines (lines : List Text) : List Segment := groupFrom none [] lines

theorem ofText_eq_ofLines (text : Text) : ofText text = ofLines (Text.lines text) := rfl

theorem groupFrom_none_cons (lines : List Text) (line : Text) (rest : List Text) :
    groupFrom none lines (line :: rest) =
      match Fence.opened? line with
      | some fence => prose lines ++ groupFrom (some fence) [line] rest
      | none => groupFrom none (lines ++ [line]) rest := rfl

theorem groupFrom_some_cons (fence : Fence) (lines : List Text) (line : Text)
    (rest : List Text) : groupFrom (some fence) lines (line :: rest) =
      if fence.closes line then ⟨true, lines ++ [line]⟩ :: groupFrom none [] rest
      else groupFrom (some fence) (lines ++ [line]) rest := rfl

/-! ### Views -/

section View

variable {Item : Type}

/-- A view of segments that shows prose line by line, so that it does not tell where a segment
of prose is cut. -/
def IsLinewise (view : Segment → List Item) : Prop :=
  ∀ first second, (prose (first ++ second)).flatMap view =
    (prose first).flatMap view ++ (prose second).flatMap view

/-- The fences among segments. -/
def fences (segment : Segment) : List Segment := if segment.fenced then [segment] else []

/-- The lines of a segment, each with the word whether it is fenced. -/
def labelled (segment : Segment) : List (Bool × Text) :=
  segment.lines.map fun line => (segment.fenced, line)

theorem flatMap_fences (segments : List Segment) :
    segments.flatMap fences = segments.filter (·.fenced) := by
  induction segments with
  | nil => rfl
  | cons segment segments inductionHypothesis =>
    rw [List.flatMap_cons, inductionHypothesis, fences, List.filter_cons]
    cases segment.fenced <;> rfl

theorem isLinewise_fences : IsLinewise fences := by
  have none (lines : List Text) : (prose lines).flatMap fences = [] := by
    rw [prose]
    split <;> rfl
  intro first second
  rw [none, none, none, List.append_nil]

theorem isLinewise_labelled : IsLinewise labelled := by
  have lines (lines : List Text) :
      (prose lines).flatMap labelled = lines.map fun line => (false, line) := by
    rw [prose]
    split
    · rename_i empty
      rw [List.isEmpty_iff.1 empty]
      rfl
    · exact List.flatMap_singleton _ _
  intro first second
  rw [lines, lines, lines, List.map_append]

variable {view : Segment → List Item} (linewise : IsLinewise view)
include linewise

theorem flatMap_groupFrom_none (lines rest : List Text) :
    (groupFrom none lines rest).flatMap view =
      (prose lines).flatMap view ++ (ofLines rest).flatMap view := by
  induction rest generalizing lines with
  | nil => exact (List.append_nil _).symm
  | cons line rest inductionHypothesis =>
    rw [ofLines, groupFrom_none_cons, groupFrom_none_cons]
    cases Fence.opened? line with
    | none =>
      dsimp only
      rw [inductionHypothesis, inductionHypothesis ([] ++ [line]), linewise, List.append_assoc]
      rfl
    | some fence => exact List.flatMap_append

theorem flatMap_groupFrom_append {fence : Option Fence} (lines : List Text) {first : List Text}
    (closed : afterLines fence first = none) (second : List Text) :
    (groupFrom fence lines (first ++ second)).flatMap view =
      (groupFrom fence lines first).flatMap view ++ (ofLines second).flatMap view := by
  induction first generalizing fence lines with
  | nil =>
    obtain rfl : fence = none := closed
    exact flatMap_groupFrom_none linewise lines second
  | cons line first inductionHypothesis =>
    rw [afterLines, List.foldl_cons] at closed
    cases fence with
    | none =>
      rw [after] at closed
      rw [List.cons_append, groupFrom_none_cons, groupFrom_none_cons]
      cases opens : Fence.opened? line with
      | none => exact inductionHypothesis _ (by rwa [opens] at closed)
      | some fence =>
        dsimp only
        rw [List.flatMap_append, inductionHypothesis _ (by rwa [opens] at closed),
          List.flatMap_append, List.append_assoc]
    | some fence =>
      rw [after] at closed
      rw [List.cons_append, groupFrom_some_cons, groupFrom_some_cons]
      by_cases ends : fence.closes line = true
      · rw [if_pos ends] at closed
        rw [if_pos ends, if_pos ends, List.flatMap_cons, inductionHypothesis _ closed,
          List.flatMap_cons, List.append_assoc]
      · rw [if_neg ends] at closed
        rw [if_neg ends, if_neg ends, inductionHypothesis _ closed]

/-- Groups of lines are read one by one if each but the last is balanced. -/
theorem flatMap_ofLines_flatten {groups : List (List Text)}
    (balanced : ∀ group ∈ groups.dropLast, AreBalanced group) :
    (ofLines groups.flatten).flatMap view =
      groups.flatMap fun group => (ofLines group).flatMap view := by
  induction groups with
  | nil => rfl
  | cons group groups inductionHypothesis =>
    rw [List.flatten_cons, List.flatMap_cons]
    cases groups with
    | nil => simp
    | cons next groups =>
      rw [List.dropLast_cons_cons, List.forall_mem_cons] at balanced
      rw [← inductionHypothesis balanced.2]
      exact flatMap_groupFrom_append linewise [] balanced.1 _

end View

/-! ### Segments as groups -/

/-- The lines so far are read the same whether they are read before or with what follows. -/
def Continues (fence : Option Fence) (lines : List Text) : Prop :=
  ∀ more, ofLines (lines ++ more) = groupFrom fence lines more

theorem continues_nil : Continues none [] := fun _ => rfl

theorem Continues.eq_prose {lines : List Text} (continues : Continues none lines) :
    ofLines lines = prose lines := by
  have alone := continues []
  rwa [List.append_nil] at alone

theorem continues_opening {line : Text} {fence : Fence} (opens : Fence.opened? line = some fence) :
    Continues (some fence) [line] := fun more => by
  show groupFrom none [] (line :: more) = _
  rw [groupFrom_none_cons, opens]
  rfl

section Continues

variable {lines : List Text} {line : Text}

theorem Continues.plain (continues : Continues none lines)
    (plain : Fence.opened? line = none) : Continues none (lines ++ [line]) := fun more => by
  rw [List.append_assoc, continues, List.singleton_append, groupFrom_none_cons, plain]

variable {fence : Fence} (continues : Continues (some fence) lines)
include continues

theorem Continues.inside (inside : fence.closes line = false) :
    Continues (some fence) (lines ++ [line]) := fun more => by
  rw [List.append_assoc, continues, List.singleton_append, groupFrom_some_cons, inside,
    if_neg Bool.false_ne_true]

theorem Continues.eq_closed (ends : fence.closes line = true) :
    ofLines (lines ++ [line]) = [⟨true, lines ++ [line]⟩] := by
  rw [continues, groupFrom_some_cons, if_pos ends]
  rfl

end Continues

theorem eq_of_mem_prose {lines : List Text} {segment : Segment} (member : segment ∈ prose lines) :
    segment = ⟨false, lines⟩ ∧ prose lines = [segment] := by
  rw [prose] at member ⊢
  split at member
  · exact absurd member List.not_mem_nil
  · rename_i filled
    obtain rfl := List.mem_singleton.1 member
    exact ⟨rfl, if_neg filled⟩

/-! ### Invariants of the grouping -/

/-- What holds of the lines so far and the fence that they leave open, whatever line comes next. -/
structure Carries (holds : Option Fence → List Text → Prop) : Prop where
  start : holds none []
  plain : ∀ {lines : List Text} {line : Text}, holds none lines →
    Fence.opened? line = none → holds none (lines ++ [line])
  opening : ∀ {line : Text} {fence : Fence},
    Fence.opened? line = some fence → holds (some fence) [line]
  inside : ∀ {fence : Fence} {lines : List Text} {line : Text}, holds (some fence) lines →
    fence.closes line = false → holds (some fence) (lines ++ [line])

/-- A segment that needs no end of the text to end: prose, or a fence with the line that closes
it. -/
inductive Ended (holds : Option Fence → List Text → Prop) : Segment → Prop where
  | prose {lines : List Text} (held : holds none lines)
      (alone : Segment.prose lines = [⟨false, lines⟩]) : Ended holds ⟨false, lines⟩
  | closed {fence : Fence} {lines : List Text} {line : Text} (held : holds (some fence) lines)
      (closes : fence.closes line = true) : Ended holds ⟨true, lines ++ [line]⟩

theorem mem_dropLast_append {segment : Segment} {first second : List Segment}
    (member : segment ∈ (first ++ second).dropLast) :
    segment ∈ first ∨ segment ∈ second.dropLast := by
  by_cases last : second = []
  · rw [last, List.append_nil] at member
    exact .inl (List.mem_of_mem_dropLast member)
  · rw [List.dropLast_append_of_ne_nil last] at member
    exact List.mem_append.1 member

section Carries

variable {holds : Option Fence → List Text → Prop} {segment : Segment}

theorem Ended.of_mem_prose {lines : List Text} (held : holds none lines)
    (member : segment ∈ Segment.prose lines) : Ended holds segment := by
  obtain ⟨rfl, alone⟩ := eq_of_mem_prose member
  exact .prose held alone

variable (carries : Carries holds)
include carries

/-- Only the last segment may be a fence that no line closes. -/
theorem Carries.exists_groupFrom_eq {fence : Option Fence} {lines : List Text}
    (held : holds fence lines) (rest : List Text) :
    ∃ ended unclosed, groupFrom fence lines rest = ended ++ unclosed ∧
      (∀ segment ∈ ended, Ended holds segment) ∧
      (unclosed = [] ∨ ∃ fence lines, holds (some fence) lines ∧ unclosed = [⟨true, lines⟩]) := by
  induction rest generalizing fence lines with
  | nil =>
    cases fence with
    | none =>
      exact ⟨Segment.prose lines, [], (List.append_nil _).symm, fun _ => .of_mem_prose held, .inl rfl⟩
    | some fence => exact ⟨[], _, rfl, List.forall_mem_nil _, .inr ⟨fence, lines, held, rfl⟩⟩
  | cons line rest inductionHypothesis =>
    cases fence with
    | none =>
      rw [groupFrom_none_cons]
      cases opens : Fence.opened? line with
      | none => exact inductionHypothesis (carries.plain held opens)
      | some fence =>
        obtain ⟨ended, unclosed, same, each, last⟩ := inductionHypothesis (carries.opening opens)
        refine ⟨Segment.prose lines ++ ended, unclosed, ?_, ?_, last⟩
        · dsimp only
          rw [same, List.append_assoc]
        · exact List.forall_mem_append.2 ⟨fun _ => .of_mem_prose held, each⟩
    | some fence =>
      rw [groupFrom_some_cons]
      cases closes : fence.closes line with
      | true =>
        obtain ⟨ended, unclosed, same, each, last⟩ := inductionHypothesis carries.start
        exact ⟨_ :: ended, unclosed, congrArg (_ :: ·) same,
          List.forall_mem_cons.2 ⟨.closed held closes, each⟩, last⟩
      | false => exact inductionHypothesis (carries.inside held closes)

variable {lines : List Text}

theorem Carries.of_mem_ofLines (member : segment ∈ ofLines lines) :
    Ended holds segment ∨ ∃ fence lines, holds (some fence) lines ∧ segment = ⟨true, lines⟩ := by
  obtain ⟨ended, unclosed, same, each, last⟩ := carries.exists_groupFrom_eq carries.start lines
  rw [ofLines, same] at member
  rcases List.mem_append.1 member with before | there
  · exact .inl (each segment before)
  · rcases last with rfl | ⟨fence, lines, held, rfl⟩
    · exact absurd there List.not_mem_nil
    · exact .inr ⟨fence, lines, held, List.mem_singleton.1 there⟩

theorem Carries.of_mem_dropLast_ofLines (member : segment ∈ (ofLines lines).dropLast) :
    Ended holds segment := by
  obtain ⟨ended, unclosed, same, each, last⟩ := carries.exists_groupFrom_eq carries.start lines
  rw [ofLines, same] at member
  rcases mem_dropLast_append member with before | there
  · exact each segment before
  · rcases last with rfl | ⟨_, _, -, rfl⟩ <;> exact absurd there List.not_mem_nil

end Carries

theorem carries_continues : Carries Continues where
  start := continues_nil
  plain := .plain
  opening := continues_opening
  inside := .inside

/-- A segment that is read again is one segment. -/
theorem ofLines_of_mem_ofLines {lines : List Text} {segment : Segment}
    (member : segment ∈ ofLines lines) : ofLines segment.lines = [segment] := by
  rcases carries_continues.of_mem_ofLines member with ended | ⟨fence, lines, continues, rfl⟩
  · cases ended with
    | prose continues alone => exact continues.eq_prose.trans alone
    | closed continues closes => exact continues.eq_closed closes
  · have alone := continues []
    rwa [List.append_nil] at alone

theorem carries_afterLines : Carries fun fence lines => afterLines none lines = fence where
  start := rfl
  plain reached opens := by
    rw [Fence.afterLines_append, reached]
    exact opens
  opening opens := opens
  inside reached closes := by
    rw [Fence.afterLines_append, reached]
    exact if_neg (Bool.eq_false_iff.1 closes)

/-- Every segment but the last closes the fence that it opens. -/
theorem areBalanced_of_mem_dropLast_ofLines {lines : List Text} {segment : Segment}
    (member : segment ∈ (ofLines lines).dropLast) : AreBalanced segment.lines := by
  cases carries_afterLines.of_mem_dropLast_ofLines member with
  | prose reached => exact reached
  | closed reached closes =>
    rw [AreBalanced, Fence.afterLines_append, reached]
    exact if_pos closes

end Segment

end CampaignPress
