/-
This file takes prose apart into passages: a passage is a plain line, or a callout
with the lines of its body. Passages written one after the other are the lines
that they were taken from; the conversion of callouts converts each of them alone,
and a passage has no character that none of its lines has.
-/
import CampaignPress.Proofs.Prose.Body
import CampaignPress.Proofs.Prose.Box
import CampaignPress.Proofs.Prose.Callout

namespace CampaignPress

namespace Segment

/-! ### Lines of prose -/

theorem carries_plain : Carries fun fence lines =>
    fence = none → ∀ line ∈ lines, Fence.opened? line = none where
  start _ _ none' := absurd none' List.not_mem_nil
  plain plain opens _ :=
    List.forall_mem_append.2 ⟨plain rfl, List.forall_mem_singleton.2 opens⟩
  opening _ := nofun
  inside _ _ := nofun

theorem opened?_of_mem_ofText {text : Text} {segment : Segment} (member : segment ∈ ofText text)
    (prose : segment.fenced = false) : ∀ line ∈ segment.lines, Fence.opened? line = none := by
  rcases carries_plain.of_mem_ofLines member with ended | ⟨_, _, -, rfl⟩
  · cases ended with
    | prose plain => exact plain rfl
    | closed => exact nomatch prose
  · exact nomatch prose

end Segment

namespace Callout

/-! ### Passages -/

/-- A part of prose: a line outside of callouts, or a callout with the lines it is read from. -/
inductive Passage where
  | line (line : Text)
  | callout (callout : Callout) (source : List Text)
  deriving DecidableEq, Repr

namespace Passage

def source : Passage → List Text
  | .line content => [content]
  | .callout _ lines => lines

def callout? : Passage → Option Callout
  | .line _ => none
  | .callout found _ => some found

/-- What comes out for a passage. -/
def converted (icons : IconTable) : Passage → Text
  | .line content => content
  | .callout found _ => (found.toHtml icons).write

end Passage

/-- The passages of lines of prose, given the callout so far and its lines. -/
def passagesFrom : (current : Option (Callout × List Text)) → List Text → List Passage
  | none, [] => []
  | some (callout, source), [] => [.callout callout source]
  | none, line :: rest =>
    match ofHeader? line with
    | some callout => passagesFrom (some (callout, [line])) rest
    | none => .line line :: passagesFrom none rest
  | some (current, source), line :: rest =>
    match ofHeader? line with
    | some callout => .callout current source :: passagesFrom (some (callout, [line])) rest
    | none =>
      if isQuoted line then passagesFrom (some (current.add (unquote line), source ++ [line])) rest
      else if Text.isBlankText line && nextIsQuoted rest then
        passagesFrom (some (current.add [], source ++ [line])) rest
      else .callout current source :: .line line :: passagesFrom none rest

def passages (lines : List Text) : List Passage := passagesFrom none lines

/-- The callouts of a text, none of which stands in a fence. -/
def ofText (text : Text) : List Callout :=
  (Segment.ofText text).flatMap fun segment =>
    if segment.fenced then [] else (passages segment.lines).filterMap Passage.callout?

/-- No line of prose is lost or moved. -/
theorem flatMap_source_passagesFrom (current : Option (Callout × List Text)) (lines : List Text) :
    (passagesFrom current lines).flatMap Passage.source =
      (current.map Prod.snd).getD [] ++ lines := by
  induction lines generalizing current with
  | nil =>
    rcases current with _ | ⟨callout, source⟩
    · rfl
    · rw [List.append_nil]
      exact List.flatMap_singleton _ _
  | cons line rest inductionHypothesis =>
    rcases current with _ | ⟨callout, source⟩
    · rw [passagesFrom]
      split
      · exact inductionHypothesis _
      · rw [List.flatMap_cons, inductionHypothesis]
        rfl
    · rw [passagesFrom]
      split
      · rw [List.flatMap_cons, inductionHypothesis]
        rfl
      · split
        · rw [inductionHypothesis]
          exact List.append_assoc _ _ _
        · split
          · rw [inductionHypothesis]
            exact List.append_assoc _ _ _
          · rw [List.flatMap_cons, List.flatMap_cons, inductionHypothesis]
            rfl

theorem flatMap_source_passages (lines : List Text) :
    (passages lines).flatMap Passage.source = lines :=
  flatMap_source_passagesFrom none lines

/-- The state of the conversion in which a callout is being read. -/
def State.ofCurrent : Option (Callout × List Text) → State
  | none => .outside
  | some (callout, _) => .inside callout

/-- Prose is converted passage by passage. -/
theorem convertFrom_eq_map_passagesFrom (icons : IconTable)
    (current : Option (Callout × List Text)) {lines : List Text}
    (plain : ∀ line ∈ lines, Fence.opened? line = none) :
    convertFrom icons (.ofCurrent current) lines =
      (passagesFrom current lines).map (Passage.converted icons) := by
  induction lines generalizing current with
  | nil => rcases current with _ | ⟨callout, source⟩ <;> rfl
  | cons line rest inductionHypothesis =>
    rw [List.forall_mem_cons] at plain
    have outside := inductionHypothesis none plain.2
    have inside (callout : Callout) (source : List Text) :=
      inductionHypothesis (some (callout, source)) plain.2
    rw [State.ofCurrent] at outside
    simp only [State.ofCurrent] at inside
    rcases current with _ | ⟨callout, source⟩
    · rw [State.ofCurrent, convertFrom_outside, passagesFrom, afterPlain_of_not_opened plain.1]
      cases ofHeader? line with
      | some callout => exact inside callout [line]
      | none =>
        dsimp only
        rw [List.map_cons, outside]
        rfl
    · rw [State.ofCurrent, convertFrom_inside, passagesFrom, afterPlain_of_not_opened plain.1]
      cases ofHeader? line with
      | some next =>
        dsimp only
        rw [List.map_cons, inside next [line]]
        rfl
      | none =>
        dsimp only
        split
        · exact inside _ _
        · split
          · exact inside _ _
          · rw [List.map_cons, List.map_cons, outside]
            rfl

section Lacks

variable {d : Char} (control : d.toNat < 32)
include control

theorem lacks_of_mem_passagesFrom {current : Option (Callout × List Text)} {lines : List Text}
    (started : ∀ begun ∈ current, begun.1.Lacks d) (other : ∀ line ∈ lines, d ∉ line)
    {callout : Callout} {source : List Text}
    (member : .callout callout source ∈ passagesFrom current lines) : callout.Lacks d := by
  induction lines generalizing current with
  | nil =>
    rcases current with _ | ⟨current, soFar⟩
    · exact absurd member List.not_mem_nil
    · obtain ⟨rfl, rfl⟩ := Passage.callout.inj (List.mem_singleton.1 member)
      exact started _ rfl
  | cons line rest inductionHypothesis =>
    rw [List.forall_mem_cons] at other
    have opened {next : Callout} (lacks : next.Lacks d) {read : List Text}
        (later : .callout callout source ∈ passagesFrom (some (next, read)) rest) :
        callout.Lacks d :=
      inductionHypothesis (by simpa using lacks) other.2 later
    have closed (later : .callout callout source ∈ passagesFrom none rest) : callout.Lacks d :=
      inductionHypothesis (by simp) other.2 later
    rcases current with _ | ⟨current, soFar⟩
    · rw [passagesFrom] at member
      split at member
      · rename_i next header
        exact opened (lacks_of_ofHeader? other.1 control header) member
      · rcases List.mem_cons.1 member with same | later
        · exact nomatch same
        · exact closed later
    · have lacks : current.Lacks d := started _ rfl
      rw [passagesFrom] at member
      split at member
      · rename_i next header
        rcases List.mem_cons.1 member with same | later
        · obtain ⟨rfl, rfl⟩ := Passage.callout.inj same
          exact lacks
        · exact opened (lacks_of_ofHeader? other.1 control header) later
      · split at member
        · exact opened (Lacks.add (not_mem_unquote other.1) lacks) member
        · split at member
          · exact opened (Lacks.add List.not_mem_nil lacks) member
          · rcases List.mem_cons.1 member with same | later
            · obtain ⟨rfl, rfl⟩ := Passage.callout.inj same
              exact lacks
            · rcases List.mem_cons.1 later with same | later
              · exact nomatch same
              · exact closed later

/-- A control character in a callout of prose stands in a line of the prose. -/
theorem lacks_of_mem_passages {lines : List Text} (other : ∀ line ∈ lines, d ∉ line)
    {callout : Callout} {source : List Text}
    (member : .callout callout source ∈ passages lines) : callout.Lacks d :=
  lacks_of_mem_passagesFrom control (by simp) other member

end Lacks

end Callout

end CampaignPress
