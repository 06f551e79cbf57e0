/-
This file reads what stands in square brackets: links, images and mentions of
footnotes. The readers for what is inside the brackets are given to the rules.
-/
import CampaignPress.Markdown.Inline.Simple

namespace CampaignPress.Markdown.Inline

/-- What the rules need for the text inside brackets. -/
structure Inner where
  /-- Passes over one token. -/
  skip : InlineState → InlineState
  /-- Reads up to the limit of a state. -/
  read : InlineState → InlineState
  /-- Reads a text of its own. -/
  readText : Text → List Reference → Footnotes → List Token × Footnotes

/-! ### Labels -/

/-- The place of the bracket that closes a label; `depth` brackets are open, and `room` bounds
the tokens left. A strict label holds no link. -/
def findLabelEnd (skip : InlineState → InlineState) (strict : Bool) :
    (room depth : Nat) → InlineState → Option Nat × InlineState
  | 0, _, state => (none, state)
  | room + 1, depth, state =>
    if state.limit ≤ state.place then (none, state)
    else if state.here? = some ']' && depth = 1 then (some state.place, state)
    else
      let depth := if state.here? = some ']' then depth - 1 else depth
      let opens : Bool := state.here? = some '['
      let before := state.place
      let state := skip state
      if opens then
        if state.place = before + 1 then findLabelEnd skip strict room (depth + 1) state
        else if strict then (none, state)
        else findLabelEnd skip strict room depth state
      else findLabelEnd skip strict room depth state

/-- The place of the bracket that closes the label opened at a place. The reader stays where it
is. -/
def labelEnd (skip : InlineState → InlineState) (strict : Bool) (start : Nat)
    (state : InlineState) : Option Nat × InlineState :=
  let (found, after) :=
    findLabelEnd skip strict (state.source.size + 1) 1 (state.moveTo (start + 1))
  (found, after.moveTo state.place)

/-! ### Targets -/

structure FoundTarget where
  address : Text
  title : Text
  /-- The place after the address and the title. -/
  after : Nat

/-- The target after an opening parenthesis, if the text goes on at all. -/
def readTarget (state : InlineState) (place : Nat) : Option FoundTarget :=
  let start := state.skipWhile isGapOrBreak place
  if state.limit ≤ start then none
  else
    match Target.cutAddress? (state.within start) with
    | none => some ⟨[], [], start⟩
    | some (raw, rest) =>
      let address := Address.normalize raw
      if !Address.isAllowed address then some ⟨[], [], start⟩
      else
        let stop := state.limit - rest.length
        let next := state.skipWhile isGapOrBreak stop
        if next = stop || state.limit ≤ next then some ⟨address, [], next⟩
        else
          match Target.readTitle? (state.within next) with
          | some (title, rest) =>
            some ⟨address, title, state.skipWhile isGapOrBreak (state.limit - rest.length)⟩
          | none => some ⟨address, [], next⟩

/-- The target of a reference after the label between two places; a second label, which follows
at a third place, counts before it. -/
def readReference (inner : Inner) (start stop place : Nat) (state : InlineState) :
    Option FoundTarget × InlineState :=
  if state.references.isEmpty then (none, state)
  else
    let (second, state) :=
      if state.has place '[' then labelEnd inner.skip false place state else (none, state)
    let written := match second with
      | some close => state.slice (place + 1) close
      | none => []
    let after := match second with
      | some close => close + 1
      | none => stop + 1
    let label := referenceLabel (if written.isEmpty then state.slice start stop else written)
    match state.references.find? (·.label = label) with
    | some reference => (some ⟨reference.address, reference.title, after⟩, state)
    | none => (none, state)

/-! ### Links -/

/-- Writes a link around the text between two places. -/
def writeLink (inner : Inner) (start stop : Nat) (target : FoundTarget) (state : InlineState) :
    InlineState :=
  let opened := ({ state with place := start, limit := stop } : InlineState).push
    (openLink target.address target.title)
  { (inner.read opened).push closeLink with limit := state.limit }

def link (inner : Inner) : InlineRule := fun silent state =>
  if state.here? = some '[' then
    let start := state.place + 1
    match labelEnd inner.skip true state.place state with
    | (none, state) => (false, state)
    | (some stop, state) =>
      let finish (target : FoundTarget) (state : InlineState) : Bool × InlineState :=
        let state := if silent then state else writeLink inner start stop target state
        (true, state.moveTo target.after)
      let byReference (place : Nat) : Bool × InlineState :=
        match readReference inner start stop place state with
        | (some target, state) => finish target state
        | (none, state) => (false, state)
      if state.has (stop + 1) '(' then
        match readTarget state (stop + 2) with
        | none => (false, state)
        | some target =>
          if state.has target.after ')' then
            finish { target with after := target.after + 1 } state
          else byReference (target.after + 1)
      else byReference (stop + 1)
  else (false, state)

/-! ### Images -/

/-- Writes an image whose description stands between two places. -/
def writeImage (inner : Inner) (start stop : Nat) (target : FoundTarget) (state : InlineState) :
    InlineState :=
  let content := state.slice start stop
  let (children, footnotes) := inner.readText content state.references state.footnotes
  let titled := if target.title.isEmpty then [] else [("title".toList, target.title)]
  let token : Token :=
    { kind := .image, tag := "img", content
      attributes := ("src".toList, target.address) :: ("alt".toList, []) :: titled
      children := some children }
  ({ state with footnotes } : InlineState).push token

def image (inner : Inner) : InlineRule := fun silent state =>
  if state.here? = some '!' && state.has (state.place + 1) '[' then
    let start := state.place + 2
    match labelEnd inner.skip false (state.place + 1) state with
    | (none, state) => (false, state)
    | (some stop, state) =>
      let finish (target : FoundTarget) (state : InlineState) : Bool × InlineState :=
        let state := if silent then state else writeImage inner start stop target state
        (true, state.moveTo target.after)
      if state.has (stop + 1) '(' then
        match readTarget state (stop + 2) with
        | none => (false, state)
        | some target =>
          if state.has target.after ')' then
            finish { target with after := target.after + 1 } state
          else (false, state)
      else
        match readReference inner start stop (stop + 1) state with
        | (some target, state) => finish target state
        | (none, state) => (false, state)
  else (false, state)

/-! ### Footnotes -/

/-- A note that stands where it is mentioned. It has its number before the notes inside it. -/
def inlineNote (inner : Inner) : InlineRule := fun silent state =>
  if state.here? = some '^' && state.has (state.place + 1) '[' &&
      state.place + 2 < state.limit then
    match labelEnd inner.skip false (state.place + 1) state with
    | (none, state) => (false, state)
    | (some stop, state) =>
      let written :=
        if silent then state
        else
          let content := state.slice (state.place + 2) stop
          let number := state.footnotes.list.length
          let (tokens, footnotes) := inner.readText content state.references state.footnotes
          let token : Token := { kind := .noteReference, mark := { number } }
          let state := ({ state with footnotes } : InlineState).push token
          { state with footnotes := state.footnotes.put number (.inline content tokens) }
      (true, written.moveTo (stop + 1))
  else (false, state)

/-- A mention of a note that is defined under a label without blanks. -/
def noteMention : InlineRule := fun silent state =>
  state.attempt <|
    if state.here? = some '[' && state.has (state.place + 1) '^' &&
        !state.footnotes.labels.isEmpty then
      let label := (state.within (state.place + 2)).takeWhile fun c =>
        c ≠ ' ' && c ≠ '\n' && c ≠ ']'
      let stop := state.place + 2 + label.length
      if state.has stop ']' && !label.isEmpty &&
          (state.footnotes.labels.any (·.1 = label)) then
        let written :=
          if silent then state
          else
            let (mark, footnotes) := state.footnotes.mention label
            let token : Token := { kind := .noteReference, mark }
            ({ state with footnotes } : InlineState).push token
        some (written.moveTo (stop + 1))
      else none
    else none

end CampaignPress.Markdown.Inline
