/-
This file holds what a reader of running text knows at a place: the text around
it, the tokens so far, and the marks that may turn out to be emphasis.
-/
import CampaignPress.Markdown.Character
import CampaignPress.Markdown.Footnote
import CampaignPress.Markdown.Target

namespace CampaignPress.Markdown

/-- A run of marks that may begin or end emphasis; each mark of a run is one delimiter. -/
structure Delimiter where
  mark : Char
  /-- The length of the run, zero where lengths do not matter. -/
  length : Nat
  token : Nat
  /-- The delimiter that ends the emphasis that this one begins. -/
  closer : Option Nat
  opens : Bool
  closes : Bool
  deriving Inhabited

structure InlineState where
  source : Array Char
  place : Nat
  /-- Where the text ends that is read now. -/
  limit : Nat
  /-- Plain text that has no token yet, with the last character first. -/
  pending : Text := []
  pendingLevel : Int := 0
  level : Int := 0
  tokens : Array Token := #[]
  /-- The delimiters of the text itself, and of every link in it. -/
  groups : Array (Array Delimiter) := #[#[]]
  /-- The group that delimiters go to now, and the groups around it. -/
  group : Nat := 0
  outer : List Nat := []
  /-- For lengths of runs of backticks, the last places where one stands. -/
  backticks : List (Nat × Nat) := []
  backticksKnown : Bool := false
  /-- For places where a token was passed over, the place after it. -/
  passed : List (Nat × Nat) := []
  references : List Reference
  footnotes : Footnotes

/-- Nesting goes to this depth. -/
def deepestLevel : Int := 20

namespace InlineState

def begin (text : Text) (references : List Reference) (footnotes : Footnotes) : InlineState :=
  { source := text.toArray, place := 0, limit := text.length, references, footnotes }

/-! ### Looking -/

def charAt? (state : InlineState) (place : Nat) : Option Char := state.source[place]?

/-- Whether a character stands at a place before the limit. -/
def has (state : InlineState) (place : Nat) (c : Char) : Bool :=
  place < state.limit && state.charAt? place = some c

def here? (state : InlineState) : Option Char := state.charAt? state.place

def slice (state : InlineState) (start stop : Nat) : Text :=
  (state.source.extract start stop).toList

/-- The text from a place on, beyond the limit too. -/
def rest (state : InlineState) (place : Nat) : Text :=
  state.slice place state.source.size

/-- The text from a place to the limit. -/
def within (state : InlineState) (place : Nat) : Text := state.slice place state.limit

/-- The first place from a given one to the limit where a test fails. -/
def skipWhile (test : Char → Bool) (state : InlineState) (place : Nat) : Nat :=
  place + ((state.within place).takeWhile test).length

/-! ### Writing -/

def flush (state : InlineState) : InlineState :=
  if state.pending.isEmpty then state
  else
    { state with
      pending := []
      tokens := state.tokens.push
        { kind := .text, content := state.pending.reverse, level := state.pendingLevel } }

/-- Adds a token after the plain text before it. Between an opening and its closing token
delimiters go to a group of their own. -/
def push (token : Token) (state : InlineState) : InlineState :=
  let state := state.flush
  match token.nesting with
  | .stands =>
    { state with
      tokens := state.tokens.push { token with level := state.level }
      pendingLevel := state.level }
  | .opens =>
    { state with
      tokens := state.tokens.push { token with level := state.level }
      level := state.level + 1
      pendingLevel := state.level + 1
      outer := state.group :: state.outer
      group := state.groups.size
      groups := state.groups.push #[] }
  | .closes =>
    { state with
      tokens := state.tokens.push { token with level := state.level - 1 }
      level := state.level - 1
      pendingLevel := state.level - 1
      group := state.outer.headD 0
      outer := state.outer.tail }

def addPending (text : Text) (state : InlineState) : InlineState :=
  { state with pending := text.reverse ++ state.pending }

def addDelimiter (delimiter : Delimiter) (state : InlineState) : InlineState :=
  { state with groups := state.groups.modify state.group (·.push delimiter) }

def moveTo (place : Nat) (state : InlineState) : InlineState := { state with place }

/-! ### Runs of marks -/

structure Run where
  opens : Bool
  closes : Bool
  length : Nat

/-- The run of marks at the present place: whether it can begin or end emphasis depends on the
characters beside it. -/
def run (mark : Char) (splitsWords : Bool) (state : InlineState) : Run :=
  let stop := state.skipWhile (· = mark) state.place
  let before := if state.place = 0 then ' ' else (state.charAt? (state.place - 1)).getD ' '
  let after := if stop < state.limit then (state.charAt? stop).getD ' ' else ' '
  let markBefore := isPunctuation before
  let markAfter := isPunctuation after
  let blankBefore := isEmphasisBlank before
  let blankAfter := isEmphasisBlank after
  let left := !(blankAfter || (markAfter && !(blankBefore || markBefore)))
  let right := !(blankBefore || (markBefore && !(blankAfter || markAfter)))
  { opens := left && (splitsWords || !right || markBefore)
    closes := right && (splitsWords || !left || markAfter)
    length := stop - state.place }

end InlineState

/-- A rule of running text tells whether it applies at the present place, and what it makes of
the state; a silent rule moves the place alone. -/
abbrev InlineRule := (silent : Bool) → InlineState → Bool × InlineState

namespace InlineState

/-- A rule that changes nothing where it does not apply. -/
def attempt (state : InlineState) (result : Option InlineState) : Bool × InlineState :=
  match result with
  | some changed => (true, changed)
  | none => (false, state)

end InlineState

end CampaignPress.Markdown
