/-
This file shows that converting callouts accounts for every line of a text. A
division of a text sets lines that stay as they are apart from callouts, each of
them a header with the longest run of lines that go on with it. A text has one
division, and its converted form is that division written out: what stays
stays in its place, and a callout becomes one box, made of its own lines only.
-/
import CampaignPress.Proofs.Prose.Passage

namespace CampaignPress

namespace Callout

/-! ### Divisions -/

/-- Whether a line goes on with the callout above it, given the lines below. -/
def goesOn (line : Text) (below : List Text) : Bool :=
  (isQuoted line && (ofHeader? line).isNone) || (Text.isBlankText line && nextIsQuoted below)

/-- The longest run of lines that go on with a callout, given the lines below the run. -/
inductive IsRun (below : List Text) : List Text → Prop where
  | nil (longest : ∀ line rest, below = line :: rest → goesOn line rest = false) : IsRun below []
  | cons {line : Text} {run : List Text} (next : goesOn line (run ++ below))
      (more : IsRun below run) : IsRun below (line :: run)

/-- The line of a body that a line of a callout becomes. -/
def bodyLine (line : Text) : Text := if isQuoted line then unquote line else []

/-- The division of lines, each with the word whether it is fenced, into lines that stay and
callouts. -/
inductive Divided : List (Bool × Text) → List Passage → Prop where
  | nil : Divided [] []
  | fenced {line : Text} {rest : List (Bool × Text)} {parts : List Passage}
      (divided : Divided rest parts) : Divided ((true, line) :: rest) (.line line :: parts)
  | line {line : Text} {rest : List (Bool × Text)} {parts : List Passage}
      (other : ofHeader? line = none) (divided : Divided rest parts) :
      Divided ((false, line) :: rest) (.line line :: parts)
  | callout {header : Text} {opened : Callout} {run : List Text} {rest : List (Bool × Text)}
      {parts : List Passage} (opens : ofHeader? header = some opened)
      (longest : IsRun (rest.map Prod.snd) run) (divided : Divided rest parts) :
      Divided ((false, header) :: (run.map (Prod.mk false) ++ rest))
        (.callout { opened with body := run.map bodyLine } (header :: run) :: parts)

/-! ### One division -/

theorem map_snd_append (run : List Text) (rest : List (Bool × Text)) :
    (run.map (Prod.mk false) ++ rest).map Prod.snd = run ++ rest.map Prod.snd := by
  rw [List.map_append, List.map_map]
  exact congrArg (· ++ _) (List.map_id run)

theorem IsRun.unique {run other : List Text} {rest rest' : List (Bool × Text)}
    (first : IsRun (rest.map Prod.snd) run) (second : IsRun (rest'.map Prod.snd) other)
    (same : run.map (Prod.mk false) ++ rest = other.map (Prod.mk false) ++ rest') :
    run = other ∧ rest = rest' := by
  have below := congrArg (List.map Prod.snd) same
  rw [map_snd_append, map_snd_append] at below
  induction first generalizing other with
  | nil longest =>
    cases second with
    | nil => exact ⟨rfl, same⟩
    | cons next more => exact nomatch next.symm.trans (longest _ _ below)
  | cons next more inductionHypothesis =>
    cases second with
    | nil longest => exact nomatch next.symm.trans (longest _ _ below.symm)
    | cons next' more' =>
      obtain ⟨rfl, later⟩ := List.cons.inj below
      obtain ⟨rfl, restSame⟩ := inductionHypothesis more' (List.cons.inj same).2 later
      exact ⟨rfl, restSame⟩

/-- Lines have at most one division. -/
theorem Divided.unique {lines : List (Bool × Text)} {parts other : List Passage}
    (first : Divided lines parts) (second : Divided lines other) : parts = other := by
  induction first generalizing other with
  | nil =>
    cases second
    rfl
  | fenced _ inductionHypothesis =>
    cases second with
    | fenced divided => rw [inductionHypothesis divided]
  | line plain _ inductionHypothesis =>
    cases second with
    | line _ divided => rw [inductionHypothesis divided]
    | callout opens => exact nomatch plain.symm.trans opens
  | @callout header opened run rest parts opens longest _ inductionHypothesis =>
    generalize whole : (false, header) :: (run.map (Prod.mk false) ++ rest) = lines at second
    cases second with
    | nil => exact nomatch whole
    | fenced => exact nomatch whole
    | line plain =>
      obtain ⟨same, -⟩ := List.cons.inj whole
      rw [← (Prod.mk.inj same).2, opens] at plain
      exact nomatch plain
    | callout opens' longest' divided =>
      obtain ⟨same, later⟩ := List.cons.inj whole
      obtain ⟨rfl, rfl⟩ := longest.unique longest' later
      obtain ⟨-, rfl⟩ := Prod.mk.inj same
      obtain rfl := Option.some.inj (opens.symm.trans opens')
      rw [inductionHypothesis divided]

/-! ### Divisions of prose -/

theorem isQuoted_of_ofHeader? {line : Text} {opened : Callout}
    (opens : ofHeader? line = some opened) : isQuoted line := by
  obtain ⟨rest, quoted, -⟩ := Option.bind_eq_some_iff.1 opens
  rw [Text.after?_eq_some_iff.1 quoted]
  rfl

theorem body_of_ofHeader? {line : Text} {opened : Callout}
    (opens : ofHeader? line = some opened) : opened.body = [] := by
  rw [ofHeader?] at opens
  obtain ⟨quoted, begun, opens⟩ := Option.bind_eq_some_iff.1 opens
  obtain ⟨inner, bracketed, opens⟩ := Option.bind_eq_some_iff.1 opens
  obtain ⟨-, -, opens⟩ := Option.bind_eq_some_iff.1 opens
  obtain ⟨signed, ended, opens⟩ := Option.bind_eq_some_iff.1 opens
  split at opens
  obtain ⟨title, found, same⟩ := Option.bind_eq_some_iff.1 opens
  rw [← Option.some.inj same]

theorem isBlankText_of_isQuoted {line : Text} (quoted : isQuoted line) :
    Text.isBlankText line = false := by
  cases line with
  | nil => exact nomatch quoted
  | cons c rest =>
    obtain rfl : '>' = c := by simpa [isQuoted, Text.startsWith] using quoted
    rfl

/-- No header goes on with the callout above it. -/
theorem goesOn_of_ofHeader? {line : Text} {opened : Callout}
    (opens : ofHeader? line = some opened) (below : List Text) : goesOn line below = false := by
  rw [goesOn, opens, isBlankText_of_isQuoted (isQuoted_of_ofHeader? opens)]
  simp

/-- The callout so far takes in the longest run of lines that go on with it. -/
theorem exists_run (current : Callout) (source lines : List Text) :
    ∃ run below, lines = run ++ below ∧ IsRun below run ∧
      passagesFrom (some (current, source)) lines =
        .callout { current with body := current.body ++ run.map bodyLine } (source ++ run) ::
          passages below := by
  induction lines generalizing current source with
  | nil =>
    refine ⟨[], [], rfl, .nil (by simp), ?_⟩
    simp [passagesFrom, passages]
  | cons line rest inductionHypothesis =>
    have ends (stops : goesOn line rest = false) : IsRun (line :: rest) [] := by
      refine .nil fun _ _ same => ?_
      obtain ⟨rfl, rfl⟩ := List.cons.inj same
      exact stops
    have goes (next : goesOn line rest) :
        ∃ run below, line :: rest = run ++ below ∧ IsRun below run ∧
          passagesFrom (some (current.add (bodyLine line), source ++ [line])) rest =
            .callout { current with body := current.body ++ run.map bodyLine } (source ++ run) ::
              passages below := by
      obtain ⟨run, below, rfl, longest, same⟩ :=
        inductionHypothesis (current.add (bodyLine line)) (source ++ [line])
      refine ⟨line :: run, below, rfl, .cons next longest, ?_⟩
      rw [same]
      simp [add]
    rw [passagesFrom]
    cases opens : ofHeader? line with
    | some callout =>
      refine ⟨[], line :: rest, rfl, ends (goesOn_of_ofHeader? opens rest), ?_⟩
      simp [passages, passagesFrom, opens]
    | none =>
      dsimp only
      split
      · rename_i quoted
        have body : bodyLine line = unquote line := if_pos quoted
        rw [← body]
        exact goes (by simp [goesOn, quoted, opens])
      · rename_i unquoted
        have body : bodyLine line = [] := if_neg unquoted
        split
        · rename_i blank
          rw [← body]
          exact goes (by rw [goesOn, blank, Bool.or_true])
        · rename_i filled
          refine ⟨[], line :: rest, rfl, ends ?_, ?_⟩
          · simp only [Bool.not_eq_true] at unquoted filled
            rw [goesOn, unquoted, filled]
            rfl
          · simp [passages, passagesFrom, opens]

/-- Lines that end every callout above them: the first one is neither quoted nor blank. -/
def Stops (lines : List Text) : Prop :=
  ∀ line rest, lines = line :: rest → isQuoted line = false ∧ Text.isBlankText line = false

theorem goesOn_append {more : List Text} (stops : Stops more) (line : Text) (below : List Text) :
    goesOn line (below ++ more) = goesOn line below := by
  have same : nextIsQuoted (below ++ more) = nextIsQuoted below := by
    cases below with
    | cons next below => rfl
    | nil =>
      cases more with
      | nil => rfl
      | cons next more => exact (stops next more rfl).1
  rw [goesOn, goesOn, same]

theorem IsRun.append {run below more : List Text} (longest : IsRun below run)
    (stops : Stops more) : IsRun (below ++ more) run := by
  induction longest with
  | nil ends =>
    refine .nil fun line rest same => ?_
    cases below with
    | nil =>
      obtain ⟨unquoted, filled⟩ := stops line rest same
      rw [goesOn, unquoted, filled]
      rfl
    | cons next below =>
      obtain ⟨rfl, rfl⟩ := List.cons.inj same
      exact (goesOn_append stops next below).trans (ends _ _ rfl)
  | cons next _ inductionHypothesis =>
    refine .cons ?_ inductionHypothesis
    rwa [← List.append_assoc, goesOn_append stops]

/-- The passages of prose divide it, if the line below ends every callout. -/
theorem divided_passages {rest : List (Bool × Text)} {parts : List Passage}
    (stops : Stops (rest.map Prod.snd)) (divided : Divided rest parts) (lines : List Text) :
    Divided (lines.map (Prod.mk false) ++ rest) (passages lines ++ parts) := by
  induction size : lines.length using Nat.strongRecOn generalizing lines with
  | ind length inductionHypothesis =>
    cases lines with
    | nil => exact divided
    | cons line lines =>
      rw [passages, passagesFrom]
      cases opens : ofHeader? line with
      | none => exact .line opens (inductionHypothesis _ (by simp [← size]) lines rfl)
      | some opened =>
        obtain ⟨run, below, rfl, longest, same⟩ := exists_run opened [line] lines
        have later := inductionHypothesis _ (by simp [← size]) below rfl
        have whole : IsRun ((below.map (Prod.mk false) ++ rest).map Prod.snd) run := by
          rw [map_snd_append]
          exact longest.append stops
        have part := Divided.callout opens whole later
        dsimp only
        rw [same, body_of_ofHeader? opens, List.map_cons, List.map_append, List.cons_append,
          List.append_assoc]
        exact part

theorem divided_prose (lines : List Text) :
    Divided (lines.map (Prod.mk false)) (passages lines) := by
  have stops : Stops (([] : List (Bool × Text)).map Prod.snd) := fun _ _ same => nomatch same
  have divided := divided_passages stops .nil lines
  rwa [List.append_nil, List.append_nil] at divided

/-! ### Divisions of texts -/

/-- The passages of a segment; in a fence every line stays. -/
def Passage.ofSegment (segment : Segment) : List Passage :=
  if segment.fenced then segment.lines.map .line else passages segment.lines

def Passage.ofText (text : Text) : List Passage :=
  (Segment.ofText text).flatMap Passage.ofSegment

theorem flatMap_labelled_prose (lines : List Text) :
    (Segment.prose lines).flatMap Segment.labelled = lines.map (Prod.mk false) := by
  rw [Segment.prose]
  split
  · rename_i empty
    rw [List.isEmpty_iff.1 empty]
    rfl
  · exact List.flatMap_singleton _ _

theorem flatMap_ofSegment_prose (lines : List Text) :
    (Segment.prose lines).flatMap Passage.ofSegment = passages lines := by
  rw [Segment.prose]
  split
  · rename_i empty
    rw [List.isEmpty_iff.1 empty]
    rfl
  · exact List.flatMap_singleton _ _

theorem map_snd_flatMap_labelled (segments : List Segment) :
    (segments.flatMap Segment.labelled).map Prod.snd = segments.flatMap Segment.lines := by
  rw [List.map_flatMap]
  refine List.flatMap_congr fun segment _ => ?_
  rw [Segment.labelled, List.map_map]
  exact List.map_id _

theorem divided_fenced {rest : List (Bool × Text)} {parts : List Passage}
    (divided : Divided rest parts) (lines : List Text) :
    Divided (lines.map (Prod.mk true) ++ rest) (lines.map .line ++ parts) := by
  induction lines with
  | nil => exact divided
  | cons line lines inductionHypothesis => exact .fenced inductionHypothesis

theorem divided_groupFrom (fence : Option Fence) (lines rest : List Text) :
    Divided ((Segment.groupFrom fence lines rest).flatMap Segment.labelled)
      ((Segment.groupFrom fence lines rest).flatMap Passage.ofSegment) := by
  induction rest generalizing fence lines with
  | nil =>
    cases fence with
    | none =>
      rw [Segment.groupFrom, flatMap_labelled_prose, flatMap_ofSegment_prose]
      exact divided_prose lines
    | some fence => exact divided_fenced .nil lines
  | cons line rest inductionHypothesis =>
    cases fence with
    | none =>
      rw [Segment.groupFrom_none_cons]
      cases opens : Fence.opened? line with
      | none => exact inductionHypothesis none (lines ++ [line])
      | some fence =>
        dsimp only
        rw [List.flatMap_append, List.flatMap_append, flatMap_labelled_prose,
          flatMap_ofSegment_prose]
        refine divided_passages (fun next below same => ?_) (inductionHypothesis _ _) lines
        rw [map_snd_flatMap_labelled, Segment.flatMap_lines_groupFrom] at same
        obtain ⟨rfl, -⟩ := List.cons.inj same
        exact ⟨isQuoted_of_opened opens, isBlankText_of_opened opens⟩
    | some fence =>
      rw [Segment.groupFrom_some_cons]
      split
      · rw [List.flatMap_cons, List.flatMap_cons]
        exact divided_fenced (inductionHypothesis none []) (lines ++ [line])
      · exact inductionHypothesis _ _

/-- A text is divided into its passages. -/
theorem divided_ofText (text : Text) :
    Divided ((Segment.ofText text).flatMap Segment.labelled) (Passage.ofText text) :=
  divided_groupFrom none [] (Text.lines text)

theorem flatMap_source_ofText (text : Text) :
    (Passage.ofText text).flatMap Passage.source = Text.lines text := by
  rw [Passage.ofText, List.flatMap_assoc, ← Segment.flatMap_lines_ofText]
  refine List.flatMap_congr fun segment _ => ?_
  rw [Passage.ofSegment]
  split
  · rw [List.flatMap_map]
    exact List.flatMap_singleton' _
  · exact flatMap_source_passages segment.lines

theorem map_converted_ofText (icons : IconTable) (text : Text) :
    (Passage.ofText text).map (Passage.converted icons) =
      ((Segment.ofText text).map (convertSegment icons)).flatten := by
  rw [Passage.ofText, List.map_flatMap, ← List.flatMap_def]
  refine List.flatMap_congr fun segment member => ?_
  rw [Passage.ofSegment, convertSegment]
  split
  · rw [List.map_map]
    exact List.map_id _
  · rename_i prose
    exact (convertFrom_eq_map_passagesFrom icons none
      (Segment.opened?_of_mem_ofText member (Bool.eq_false_of_not_eq_true prose))).symm

end Callout

end CampaignPress
