/-
This file shows that a text falls into prose and fences in one way. Every fenced
segment runs from a line that opens a fence to the first later line that closes
it, or to the end of the text; what lies between the fences is prose without an
opening line, in one piece. While lines are grouped, the lines so far are the
beginning of such a segment, and that invariant carries all of it; and lines in
which the segments of any such division are put one after the other are grouped
into them again.
-/
import CampaignPress.Proofs.Prose.Passage

namespace CampaignPress

namespace Segment

/-! ### Decompositions -/

/-- The fence that the first line of a segment opens. -/
def fence? (segment : Segment) : Option Fence := segment.lines.head?.bind Fence.opened?

/-- Segments of prose and fences. A fence runs from its opening to the first line that closes it,
but the last one may run to the end instead; prose holds no opening, and no two segments of prose
stand next to each other. -/
structure AreDivided (segments : List Segment) : Prop where
  fence : ∀ segment ∈ segments, segment.fenced = true → ∃ fence ∈ segment.fence?,
    ∀ line ∈ segment.lines.tail.dropLast, fence.closes line = false
  closed : ∀ segment ∈ segments.dropLast, segment.fenced = true → ∃ fence ∈ segment.fence?,
    ∃ last ∈ segment.lines.tail.getLast?, fence.closes last = true
  plain : ∀ segment ∈ segments, segment.fenced = false →
    ∀ line ∈ segment.lines, Fence.opened? line = none
  apart : segments.IsChain fun before after => before.fenced = true ∨ after.fenced = true

/-- Segments of prose and fences that a text falls into: runs of whole lines that make up the text
when they are joined. -/
structure Decompose (segments : List Segment) (text : Text) : Prop
    extends AreDivided segments where
  nonempty : segments ≠ []
  joined : unite segments = text
  whole : ∀ segment ∈ segments, Text.lines segment.toText = segment.lines

/-! ### The segments that are found -/

/-- Lines that begin with the opening of a fence and go on inside of it. -/
def IsUnclosed (fence : Fence) (lines : List Text) : Prop :=
  ∃ first inside, lines = first :: inside ∧ Fence.opened? first = some fence ∧
    ∀ line ∈ inside, fence.closes line = false

section Unclosed

variable {fence : Fence} {lines : List Text} (unclosed : IsUnclosed fence lines)
include unclosed

theorem IsUnclosed.append {line : Text} (inside : fence.closes line = false) :
    IsUnclosed fence (lines ++ [line]) := by
  obtain ⟨first, later, rfl, opens, none'⟩ := unclosed
  exact ⟨first, later ++ [line], rfl, opens,
    List.forall_mem_append.2 ⟨none', List.forall_mem_singleton.2 inside⟩⟩

/-- The lines inside of a fence are a fenced segment, and so they are with any line after them. -/
theorem IsUnclosed.exists_fence (last : List Text) (single : last.length ≤ 1) :
    ∃ found ∈ fence? ⟨true, lines ++ last⟩,
      ∀ line ∈ (lines ++ last).tail.dropLast, found.closes line = false := by
  obtain ⟨first, inside, rfl, opens, none'⟩ := unclosed
  refine ⟨fence, opens, fun line member => none' line ?_⟩
  change line ∈ (inside ++ last).dropLast at member
  match last, single with
  | [], _ => exact List.mem_of_mem_dropLast (by rwa [List.append_nil] at member)
  | [_], _ => rwa [List.dropLast_concat] at member

end Unclosed

theorem carries_isUnclosed : Carries fun fence lines => ∀ found ∈ fence, IsUnclosed found lines where
  start _ none' := absurd none' (Option.not_mem_none _)
  plain _ _ _ none' := absurd none' (Option.not_mem_none _)
  opening {line _} opens _ same := by
    obtain rfl := Option.some.inj same
    exact ⟨line, [], rfl, opens, List.forall_mem_nil _⟩
  inside unclosed closes _ same := by
    obtain rfl := Option.some.inj same
    exact (unclosed _ rfl).append closes

/-- A fenced segment begins with the opening of a fence, and no line before its last one closes
it. -/
theorem exists_fence_of_mem_ofLines {lines : List Text} {segment : Segment}
    (member : segment ∈ ofLines lines) (fenced : segment.fenced = true) :
    ∃ found ∈ segment.fence?, ∀ line ∈ segment.lines.tail.dropLast, found.closes line = false := by
  rcases carries_isUnclosed.of_mem_ofLines member with ended | ⟨fence, lines, unclosed, rfl⟩
  · cases ended with
    | prose => exact nomatch fenced
    | closed unclosed closes => exact (unclosed _ rfl).exists_fence [_] (Nat.le_refl 1)
  · have found := (unclosed fence rfl).exists_fence [] (Nat.zero_le 1)
    rwa [List.append_nil] at found

/-- An open fence makes the first segment fenced. -/
theorem fenced_of_head?_groupFrom (fence : Fence) (lines rest : List Text) :
    ∀ segment ∈ (groupFrom (some fence) lines rest).head?, segment.fenced = true := by
  induction rest generalizing lines with
  | nil =>
    intro segment first
    obtain rfl := Option.some.inj first
    rfl
  | cons line rest inductionHypothesis =>
    rw [groupFrom_some_cons]
    split
    · intro segment first
      obtain rfl := Option.some.inj first
      rfl
    · exact inductionHypothesis _

/-- Two segments of prose never stand next to each other. -/
theorem isChain_groupFrom (fence : Option Fence) (lines rest : List Text) :
    (groupFrom fence lines rest).IsChain fun before after =>
      before.fenced = true ∨ after.fenced = true := by
  have ofProse (lines : List Text) : (prose lines).IsChain fun before after =>
      before.fenced = true ∨ after.fenced = true := by
    rw [prose]
    split
    · exact List.isChain_nil
    · exact List.isChain_singleton _
  induction rest generalizing fence lines with
  | nil =>
    cases fence with
    | none => exact ofProse lines
    | some fence => exact List.isChain_singleton _
  | cons line rest inductionHypothesis =>
    cases fence with
    | none =>
      rw [groupFrom_none_cons]
      cases Fence.opened? line with
      | none => exact inductionHypothesis _ _
      | some fence =>
        refine List.isChain_append.2 ⟨ofProse lines, inductionHypothesis _ _, ?_⟩
        exact fun _ _ after first => .inr (fenced_of_head?_groupFrom fence [line] rest after first)
    | some fence =>
      rw [groupFrom_some_cons]
      split
      · exact List.isChain_cons.2 ⟨fun _ _ => .inl rfl, inductionHypothesis _ _⟩
      · exact inductionHypothesis _ _

/-! ### The lines of a decomposition -/

theorem afterLines_of_inside {fence : Fence} {lines : List Text}
    (inside : ∀ line ∈ lines, fence.closes line = false) :
    Fence.afterLines (some fence) lines = some fence := by
  induction lines with
  | nil => rfl
  | cons line lines inductionHypothesis =>
    rw [List.forall_mem_cons] at inside
    rw [Fence.afterLines, List.foldl_cons, Fence.after, if_neg (Bool.eq_false_iff.1 inside.1)]
    exact inductionHypothesis inside.2

/-- A balanced segment that begins with the opening of a fence ends with a line that closes it. -/
theorem exists_last_of_areBalanced {segment : Segment} {fence : Fence}
    (opens : fence ∈ segment.fence?)
    (inside : ∀ line ∈ segment.lines.tail.dropLast, fence.closes line = false)
    (balanced : Fence.AreBalanced segment.lines) :
    ∃ last ∈ segment.lines.tail.getLast?, fence.closes last = true := by
  obtain ⟨first, starts, opens⟩ := Option.bind_eq_some_iff.1 opens
  obtain ⟨rest, same⟩ := List.head?_eq_some_iff.1 starts
  rw [same, List.tail_cons] at inside ⊢
  rw [Fence.AreBalanced, same, Fence.afterLines, List.foldl_cons, Fence.after, opens] at balanced
  rcases List.eq_nil_or_concat' rest with rfl | ⟨middle, last, rfl⟩
  · exact absurd balanced (Option.some_ne_none fence)
  · rw [List.dropLast_concat] at inside
    refine ⟨last, List.getLast?_concat, ?_⟩
    change Fence.afterLines (some fence) (middle ++ [last]) = none at balanced
    rw [Fence.afterLines_append, afterLines_of_inside inside] at balanced
    by_contra open'
    exact absurd ((if_neg open').symm.trans balanced) (Option.some_ne_none fence)

theorem decompose_ofText (text : Text) : Decompose (ofText text) text where
  nonempty empty := by
    have lines := flatMap_lines_ofText text
    rw [empty] at lines
    exact Text.lines_ne_nil text lines.symm
  joined := unite_ofText text
  whole _ member := lines_toText member
  fence _ member := exists_fence_of_mem_ofLines member
  closed segment member fenced := by
    obtain ⟨fence, opens, inside⟩ :=
      exists_fence_of_mem_ofLines (List.mem_of_mem_dropLast member) fenced
    exact ⟨fence, opens,
      exists_last_of_areBalanced opens inside (areBalanced_of_mem_dropLast_ofLines member)⟩
  plain _ member := opened?_of_mem_ofText member
  apart := isChain_groupFrom none [] (Text.lines text)

/-! ### Grouping a decomposition -/

/-- Lines that do not close a fence go on with what is open before them. -/
theorem groupFrom_some_append {fence : Fence} {lines : List Text}
    (inside : ∀ line ∈ lines, fence.closes line = false) (before more : List Text) :
    groupFrom (some fence) before (lines ++ more) =
      groupFrom (some fence) (before ++ lines) more := by
  induction lines generalizing before with
  | nil => rw [List.append_nil, List.nil_append]
  | cons line lines inductionHypothesis =>
    rw [List.forall_mem_cons] at inside
    rw [List.cons_append, groupFrom_some_cons, if_neg (Bool.eq_false_iff.1 inside.1),
      inductionHypothesis inside.2, List.append_assoc, List.singleton_append]

/-- The opening of a fence ends the prose before it. -/
theorem ofLines_append_opening {lines : List Text}
    (plain : ∀ line ∈ lines, Fence.opened? line = none) {first : Text} {fence : Fence}
    (opens : Fence.opened? first = some fence) (more : List Text) :
    ofLines (lines ++ first :: more) = prose lines ++ ofLines (first :: more) := by
  rw [ofLines, groupFrom_none_append plain, List.nil_append, groupFrom_none_cons, ofLines,
    groupFrom_none_cons, opens]
  rfl

/-- A fence that is open to the end of its lines, but for the last one, is one segment, and if the
last line closes it, the lines after it are grouped by themselves. -/
theorem ofLines_fence {lines : List Text} {fence : Fence} {more : List Text}
    (begins : lines.head?.bind Fence.opened? = some fence)
    (inside : ∀ line ∈ lines.tail.dropLast, fence.closes line = false)
    (closed : more = [] ∨ ∃ last ∈ lines.tail.getLast?, fence.closes last = true) :
    ofLines (lines ++ more) = ⟨true, lines⟩ :: ofLines more := by
  obtain ⟨first, starts, opens⟩ := Option.bind_eq_some_iff.1 begins
  obtain ⟨rest, rfl⟩ := List.head?_eq_some_iff.1 starts
  rw [List.tail_cons] at inside closed
  rw [ofLines, List.cons_append, groupFrom_none_cons, opens]
  change groupFrom (some fence) [first] (rest ++ more) = _
  rcases List.eq_nil_or_concat' rest with rfl | ⟨middle, last, rfl⟩
  · have unclosed : ¬∃ last ∈ ([] : List Text).getLast?, fence.closes last = true := by
      rintro ⟨_, none', _⟩
      exact absurd none' (Option.not_mem_none _)
    rw [closed.resolve_right unclosed]
    rfl
  · rw [List.dropLast_concat] at inside
    rw [List.getLast?_concat] at closed
    rw [List.append_assoc, groupFrom_some_append inside]
    change groupFrom (some fence) (first :: middle) (last :: more) = _
    rw [groupFrom_some_cons]
    rcases closed with rfl | ⟨_, same, closes⟩
    · split <;> rfl
    · obtain rfl := Option.some.inj same
      rw [if_pos closes]
      rfl

theorem AreDivided.of_cons {segment : Segment} {rest : List Segment}
    (divided : AreDivided (segment :: rest)) : AreDivided rest where
  fence other member := divided.fence other (List.mem_cons_of_mem _ member)
  closed other member := by
    have nonempty : rest ≠ [] := by
      rintro rfl
      exact absurd member List.not_mem_nil
    refine divided.closed other ?_
    rw [List.dropLast_cons_of_ne_nil nonempty]
    exact List.mem_cons_of_mem _ member
  plain other member := divided.plain other (List.mem_cons_of_mem _ member)
  apart := divided.apart.of_cons

/-- The lines of segments of prose and fences are grouped into these segments. -/
theorem AreDivided.ofLines_flatMap {segments : List Segment} (divided : AreDivided segments)
    (filled : ∀ segment ∈ segments, segment.lines ≠ []) :
    ofLines (segments.flatMap Segment.lines) = segments := by
  induction segments with
  | nil => rfl
  | cons segment rest inductionHypothesis =>
    rw [List.forall_mem_cons] at filled
    have later := inductionHypothesis divided.of_cons filled.2
    have first := List.mem_cons_self (a := segment) (l := rest)
    rw [List.flatMap_cons]
    cases fenced : segment.fenced with
    | true =>
      obtain ⟨fence, opens, inside⟩ := divided.fence segment first fenced
      have ends : rest.flatMap Segment.lines = [] ∨
          ∃ last ∈ segment.lines.tail.getLast?, fence.closes last = true := by
        cases rest with
        | nil => exact .inl rfl
        | cons next rest =>
          obtain ⟨other, same, closes⟩ := divided.closed segment List.mem_cons_self fenced
          obtain rfl := Option.mem_unique same opens
          exact .inr closes
      rw [ofLines_fence opens inside ends, later, ← fenced]
    | false =>
      have plain := divided.plain segment first fenced
      have alone : prose segment.lines = [segment] := by
        rw [prose, if_neg (by simpa using filled.1), ← fenced]
      cases rest with
      | nil =>
        rw [List.flatMap_nil, ofLines, groupFrom_none_append plain]
        exact alone
      | cons next rest =>
        -- The segment after prose begins with an opening, so the prose ends there.
        have nextFenced : next.fenced = true := by
          have apart := (List.isChain_cons.1 divided.apart).1 next rfl
          rwa [fenced, Bool.false_eq_true, false_or] at apart
        obtain ⟨fence, starts, -⟩ := divided.fence next (by simp) nextFenced
        obtain ⟨opening, starts, opens⟩ := Option.bind_eq_some_iff.1 starts
        obtain ⟨inside, same⟩ := List.head?_eq_some_iff.1 starts
        rw [List.flatMap_cons, same, List.cons_append] at later ⊢
        rw [ofLines_append_opening plain opens, later, alone]
        rfl

/-! ### Uniqueness -/

/-- The segments of a text are the runs of whole lines that make it up, so that a fence runs from
its opening to the first line that closes it, or to the end of the text if there is none, and prose
is what lies between fences. -/
theorem ofText_eq_iff {text : Text} {segments : List Segment} :
    ofText text = segments ↔ Decompose segments text := by
  constructor
  · rintro rfl
    exact decompose_ofText text
  · intro decomposed
    have parts : segments.map toText ≠ [] := by
      simpa using decomposed.nonempty
    have lines : Text.lines text = segments.flatMap Segment.lines := by
      rw [← decomposed.joined, unite, Text.lines_unlines_eq_flatMap parts, List.flatMap_map]
      exact List.flatMap_congr decomposed.whole
    have filled : ∀ segment ∈ segments, segment.lines ≠ [] := fun segment member =>
      decomposed.whole segment member ▸ Text.lines_ne_nil segment.toText
    rw [ofText_eq_ofLines, lines, decomposed.toAreDivided.ofLines_flatMap filled]

end Segment

end CampaignPress
