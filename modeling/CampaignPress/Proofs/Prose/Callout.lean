/-
This file shows that callouts are converted segment by segment. The machine
that converts callouts and the one that sets fences apart read the same lines
as the beginnings and the ends of fences: a line that opens a fence is neither
quoted nor blank, so it ends every callout, and no look at the next line
reaches past it.
-/
import CampaignPress.Proofs.Prose.Fence
import CampaignPress.Prose.Callout

namespace CampaignPress

namespace Callout

/-! ### Opening lines -/

section Opening

variable {line : Text} {fence : Fence} (opens : Fence.opened? line = some fence)
include opens

theorem head?_ne_of_opened : line.head? ≠ some '>' := by
  intro quoted
  obtain ⟨c, rest, trimmed, mark⟩ := Fence.exists_mark opens
  cases line with
  | nil => simp at quoted
  | cons d line =>
    obtain rfl := Option.some.inj quoted
    have kept : Text.trimStart ('>' :: line) = '>' :: line := rfl
    rw [kept] at trimmed
    obtain ⟨rfl, -⟩ := List.cons.inj trimmed
    exact absurd mark (by decide)

theorem isQuoted_of_opened : isQuoted line = false := by
  have other := head?_ne_of_opened opens
  cases line with
  | nil => rfl
  | cons c line =>
    have different : ('>' == c) = false := by
      rw [beq_eq_false_iff_ne]
      exact fun same => other (congrArg some same.symm)
    show ('>' == c && _) = false
    rw [different, Bool.false_and]

theorem ofHeader?_of_opened : ofHeader? line = none := by
  have other := head?_ne_of_opened opens
  have none' : Text.after? ">" line = none := by
    cases line with
    | nil => rfl
    | cons c line => exact if_neg fun same => other (congrArg some same.symm)
  rw [ofHeader?, none']
  rfl

theorem isBlankText_of_opened : Text.isBlankText line = false := by
  obtain ⟨c, rest, trimmed, -⟩ := Fence.exists_mark opens
  rw [Bool.eq_false_iff]
  intro blank
  rw [Text.isBlankText, List.all_eq_true] at blank
  have empty : Text.trimStart line = [] := List.dropWhile_eq_nil_iff.2 blank
  rw [empty] at trimmed
  exact List.cons_ne_nil c rest trimmed.symm

theorem afterPlain_of_opened : State.afterPlain line = .fenced fence := by
  rw [State.afterPlain, opens]

end Opening

theorem afterPlain_of_not_opened {line : Text} (plain : Fence.opened? line = none) :
    State.afterPlain line = .outside := by
  rw [State.afterPlain, plain]

/-! ### One line -/

variable {icons : IconTable}

theorem convertFrom_nil (state : State) : convertFrom icons state [] = state.ended icons := by
  cases state <;> rfl

theorem convertFrom_fenced (fence : Fence) (line : Text) (rest : List Text) :
    convertFrom icons (.fenced fence) (line :: rest) =
      line :: convertFrom icons (if fence.closes line then .outside else .fenced fence) rest := rfl

theorem convertFrom_outside (line : Text) (rest : List Text) :
    convertFrom icons .outside (line :: rest) =
      match ofHeader? line with
      | some callout => convertFrom icons (.inside callout) rest
      | none => line :: convertFrom icons (.afterPlain line) rest := rfl

theorem convertFrom_inside (current : Callout) (line : Text) (rest : List Text) :
    convertFrom icons (.inside current) (line :: rest) =
      match ofHeader? line with
      | some callout => (current.toHtml icons).write :: convertFrom icons (.inside callout) rest
      | none =>
        if isQuoted line then convertFrom icons (.inside (current.add (unquote line))) rest
        else if Text.isBlankText line && nextIsQuoted rest then
          convertFrom icons (.inside (current.add [])) rest
        else (current.toHtml icons).write :: line :: convertFrom icons (.afterPlain line) rest :=
  rfl

/-! ### The two machines -/

/-- The states in which no fence is open. -/
def State.InProse : State → Prop
  | .fenced _ => False
  | _ => True

/-- A line that opens a fence ends the callout before it. -/
theorem convertFrom_opening {state : State} (inProse : state.InProse) {line : Text} {fence : Fence}
    (opens : Fence.opened? line = some fence) (rest : List Text) :
    convertFrom icons state (line :: rest) =
      state.ended icons ++ line :: convertFrom icons (.fenced fence) rest := by
  cases state with
  | fenced other => exact inProse.elim
  | outside =>
    rw [convertFrom_outside, ofHeader?_of_opened opens, afterPlain_of_opened opens]
    rfl
  | inside current =>
    rw [convertFrom_inside, ofHeader?_of_opened opens, isQuoted_of_opened opens,
      isBlankText_of_opened opens, afterPlain_of_opened opens]
    rfl

/-- What comes before a line that opens a fence is converted as if nothing followed. -/
theorem convertFrom_append_opening {state : State} (inProse : state.InProse) {lines : List Text}
    (plain : ∀ line ∈ lines, Fence.opened? line = none) {line : Text} {fence : Fence}
    (opens : Fence.opened? line = some fence) (rest : List Text) :
    convertFrom icons state (lines ++ line :: rest) =
      convertFrom icons state lines ++ line :: convertFrom icons (.fenced fence) rest := by
  induction lines generalizing state with
  | nil =>
    rw [List.nil_append, convertFrom_nil]
    exact convertFrom_opening inProse opens rest
  | cons first lines inductionHypothesis =>
    rw [List.forall_mem_cons] at plain
    have next : nextIsQuoted (lines ++ line :: rest) = nextIsQuoted lines := by
      cases lines with
      | nil => exact isQuoted_of_opened opens
      | cons second lines => rfl
    have outside : convertFrom icons .outside (lines ++ line :: rest) =
        convertFrom icons .outside lines ++ line :: convertFrom icons (.fenced fence) rest :=
      inductionHypothesis trivial plain.2
    have inside (current : Callout) :
        convertFrom icons (.inside current) (lines ++ line :: rest) =
          convertFrom icons (.inside current) lines ++
            line :: convertFrom icons (.fenced fence) rest :=
      inductionHypothesis trivial plain.2
    rw [List.cons_append]
    cases state with
    | fenced other => exact inProse.elim
    | outside =>
      rw [convertFrom_outside, convertFrom_outside]
      cases ofHeader? first with
      | some callout => exact inside callout
      | none =>
        simp only [afterPlain_of_not_opened plain.1, outside, List.cons_append]
    | inside current =>
      rw [convertFrom_inside, convertFrom_inside, next]
      cases ofHeader? first with
      | some callout => simp only [inside, List.cons_append]
      | none =>
        simp only [afterPlain_of_not_opened plain.1, outside, inside]
        split
        · rfl
        · split <;> rfl

/-- The converted lines of a segment. -/
def convertSegment (icons : IconTable) (segment : Segment) : List Text :=
  if segment.fenced then segment.lines else convertFrom icons .outside segment.lines

theorem flatMap_convertSegment_prose (lines : List Text) :
    (Segment.prose lines).flatMap (convertSegment icons) = convertFrom icons .outside lines := by
  rw [Segment.prose]
  split
  · rename_i empty
    rw [List.isEmpty_iff] at empty
    rw [empty]
    rfl
  · exact List.flatMap_singleton _ _

/-- What is left to convert is converted segment by segment: the lines of prose so far are still
to be converted, and those of a fence are already out. -/
theorem flatMap_convertSegment_groupFrom (fence : Option Fence) (lines rest : List Text)
    (plain : fence = none → ∀ line ∈ lines, Fence.opened? line = none) :
    (Segment.groupFrom fence lines rest).flatMap (convertSegment icons) =
      match fence with
      | none => convertFrom icons .outside (lines ++ rest)
      | some fence => lines ++ convertFrom icons (.fenced fence) rest := by
  induction rest generalizing fence lines with
  | nil =>
    cases fence with
    | none =>
      rw [List.append_nil]
      exact flatMap_convertSegment_prose lines
    | some fence =>
      rw [Segment.groupFrom, List.flatMap_singleton]
      exact (List.append_nil lines).symm
  | cons line rest inductionHypothesis =>
    cases fence with
    | none =>
      have before := plain rfl
      rw [Segment.groupFrom]
      cases opens : Fence.opened? line with
      | none =>
        simp only
        rw [inductionHypothesis none (lines ++ [line]), List.append_assoc, List.singleton_append]
        intro _
        exact List.forall_mem_append.2 ⟨before, List.forall_mem_singleton.2 opens⟩
      | some fence =>
        have opening : convertFrom icons .outside (lines ++ line :: rest) =
            convertFrom icons .outside lines ++ line :: convertFrom icons (.fenced fence) rest :=
          convertFrom_append_opening (show State.outside.InProse from trivial) before opens rest
        simp only
        rw [List.flatMap_append, flatMap_convertSegment_prose,
          inductionHypothesis (some fence) [line] (by simp), opening]
        rfl
    | some fence =>
      rw [Segment.groupFrom]
      by_cases ends : fence.closes line = true
      · rw [if_pos ends, List.flatMap_cons, inductionHypothesis none [] (by simp)]
        simp only [convertFrom_fenced, ends, if_true, convertSegment, List.nil_append]
        rw [List.append_assoc]
        rfl
      · rw [if_neg ends, inductionHypothesis (some fence) (lines ++ [line]) (by simp)]
        simp only [convertFrom_fenced, ends, Bool.false_eq_true, if_false]
        rw [List.append_assoc]
        rfl

theorem convertFrom_ne_nil {state : State} {lines : List Text}
    (output : lines ≠ [] ∨ state.ended icons ≠ []) : convertFrom icons state lines ≠ [] := by
  induction lines generalizing state with
  | nil =>
    rw [convertFrom_nil]
    exact output.resolve_left fun nonempty => nonempty rfl
  | cons line lines inductionHypothesis =>
    have inside (current : Callout) : convertFrom icons (.inside current) lines ≠ [] :=
      inductionHypothesis (Or.inr (List.cons_ne_nil _ _))
    cases state with
    | fenced fence => exact List.cons_ne_nil _ _
    | outside =>
      rw [convertFrom_outside]
      split
      · exact inside _
      · exact List.cons_ne_nil _ _
    | inside current =>
      rw [convertFrom_inside]
      split
      · exact List.cons_ne_nil _ _
      · split
        · exact inside _
        · split
          · exact inside _
          · exact List.cons_ne_nil _ _

section Segments

variable {text : Text} (normal : '\r' ∉ text)
include normal

theorem convert_eq_flatten : convert icons text =
    Text.unlines ((Segment.ofText text).map (convertSegment icons)).flatten := by
  rw [convert, Text.normalizeBreaks_of_not_mem normal, ← List.flatMap_def, Segment.ofText,
    flatMap_convertSegment_groupFrom none [] (Text.lines text) (by simp)]
  rfl

variable {segment : Segment} (member : segment ∈ Segment.ofText text)
include member

theorem unlines_convertSegment : Text.unlines (convertSegment icons segment) =
    if segment.fenced then segment.toText else convert icons segment.toText := by
  rw [convertSegment]
  split
  · rfl
  · rw [convert, Text.normalizeBreaks_of_not_mem, Segment.lines_toText member]
    intro inSegment
    obtain ⟨line, inLines, inLine⟩ := (Text.mem_unlines (by decide)).1 inSegment
    exact normal (Text.mem_of_mem_lines (Segment.mem_lines_of_mem_ofText member inLines) inLine)

omit normal in
theorem convertSegment_ne_nil : convertSegment icons segment ≠ [] := by
  have filled := Segment.lines_ne_nil_of_mem_ofText member
  rw [convertSegment]
  split
  · exact filled
  · exact convertFrom_ne_nil (Or.inl filled)

/-- The lines of a fence are lines of the converted text. -/
theorem lines_isInfix_convert (fenced : segment.fenced) :
    segment.lines <:+: Text.lines (convert icons text) := by
  obtain ⟨before, after, split⟩ := List.append_of_mem member
  have kept : convertSegment icons segment = segment.lines := if_pos fenced
  have filled := Segment.lines_ne_nil_of_mem_ofText member
  have output : ((Segment.ofText text).map (convertSegment icons)).flatten =
      (before.map (convertSegment icons)).flatten ++ segment.lines ++
        (after.map (convertSegment icons)).flatten := by
    rw [split, List.map_append, List.map_cons, kept, List.flatten_append, List.flatten_cons,
      List.append_assoc]
  have single : segment.lines.flatMap Text.lines = segment.lines := by
    rw [← Text.lines_unlines_eq_flatMap filled]
    exact Segment.lines_toText member
  rw [convert_eq_flatten normal, output, Text.lines_unlines_eq_flatMap (by simp [filled]),
    List.flatMap_append, List.flatMap_append, single]
  exact ⟨_, _, rfl⟩

end Segments

/-- Converting a text is converting its segments of prose and keeping the fenced ones, which come
out as they are. -/
theorem convert_segments (icons : IconTable) {text : Text} (normal : '\r' ∉ text) :
    convert icons text = Text.unlines ((Segment.ofText text).map fun segment =>
        if segment.fenced then segment.toText else convert icons segment.toText) ∧
      ∀ segment ∈ Segment.ofText text, segment.fenced →
        segment.lines <:+: Text.lines (convert icons text) := by
  refine ⟨?_, fun segment member => lines_isInfix_convert normal member⟩
  have nonempty : ∀ group ∈ (Segment.ofText text).map (convertSegment icons), group ≠ [] := by
    intro group member
    obtain ⟨segment, inText, rfl⟩ := List.mem_map.1 member
    exact convertSegment_ne_nil inText
  rw [convert_eq_flatten normal, ← Text.unlines_map_unlines nonempty, List.map_map]
  exact congrArg Text.unlines (List.map_congr_left fun segment member =>
    unlines_convertSegment normal member)

/-- A blank line before a fence does not let the callout go on to the quote after it. -/
theorem convert_segments_callout :
    let icons := IconTable.standard
    let text : Text := "> [!note]\n> a\n\n~~~\n> [!b]\n~~~\n> c"
    '\r' ∉ text ∧ convert icons text = Text.unlines
      [convert icons "> [!note]\n> a\n", "~~~\n> [!b]\n~~~", convert icons "> c"] := by
  intro icons text
  have normal : '\r' ∉ text := by decide
  have segments : Segment.ofText text =
      [⟨false, ["> [!note]".toList, "> a".toList, []]⟩,
        ⟨true, ["~~~".toList, "> [!b]".toList, "~~~".toList]⟩, ⟨false, ["> c".toList]⟩] := by
    decide
  have converted := (convert_segments icons normal).1
  rw [segments] at converted
  exact ⟨normal, converted⟩

end Callout

end CampaignPress
