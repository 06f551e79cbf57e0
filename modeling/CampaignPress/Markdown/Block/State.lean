/-
This file holds what a reader of blocks knows: the lines, the block that it is
in, and the tokens so far.
-/
import CampaignPress.Markdown.Block.Line
import CampaignPress.Markdown.Footnote
import CampaignPress.Markdown.Target

namespace CampaignPress.Markdown

structure BlockState where
  lines : Array Line
  /-- Paragraphs go on up to this line, beyond the end of the block around them. -/
  limit : Nat
  /-- The line to read next. -/
  line : Nat := 0
  /-- The column of the block around, which its lines must reach. -/
  indent : Int := 0
  /-- The column of the list around. -/
  listIndent : Option Int := none
  /-- Whether no empty line stands between the blocks so far. -/
  tight : Bool := false
  level : Int := 0
  tokens : Array Token := #[]
  references : List Reference := []
  footnotes : Footnotes := {}

/-- A reader of the blocks from the present line to a given one. -/
abbrev BlockReader := (stop : Nat) → BlockState → BlockState

/-- A rule of blocks reads the block at the present line, if it is of its kind. -/
abbrev BlockRule := (stop : Nat) → BlockState → Option BlockState

namespace BlockState

def ofText (text : Text) : BlockState :=
  let lines := (Line.allOf (Text.lines text)).toArray
  { lines, limit := lines.size }

/-! ### Lines -/

/-- The line with a number; behind the last one there are only empty ones. -/
def lineAt (state : BlockState) (number : Nat) : Line := state.lines.getD number {}

def here (state : BlockState) : Line := state.lineAt state.line

/-- Whether a line is indented as code. -/
def isCode (state : BlockState) (line : Line) : Bool := 4 ≤ line.indent - state.indent

def setLine (number : Nat) (line : Line) (state : BlockState) : BlockState :=
  { state with lines := state.lines.setIfInBounds number line }

/-- The lines between two numbers, each without `width` columns. -/
def outdented (state : BlockState) (start stop : Nat) (width : Int) : List Text :=
  (List.range' start (stop - start)).map fun number => (state.lineAt number).outdented width

/-- The text between two lines, with the last line break. -/
def textBetween (state : BlockState) (start stop : Nat) (width : Int) : Text :=
  Text.unlines (state.outdented start stop width) ++
    if start < stop then (state.lineAt (stop - 1)).lineBreak else []

/-- The first line from a given one on, before the limit, that is not empty. -/
def skipEmpty (state : BlockState) : (room number : Nat) → Nat
  | 0, number => number
  | room + 1, number =>
    if number < state.limit && (state.lineAt number).isEmpty then
      state.skipEmpty room (number + 1)
    else number

/-! ### Tokens -/

def push (token : Token) (state : BlockState) : BlockState :=
  let token := { token with block := true }
  match token.nesting with
  | .stands => { state with tokens := state.tokens.push { token with level := state.level } }
  | .opens =>
    { state with
      tokens := state.tokens.push { token with level := state.level }
      level := state.level + 1 }
  | .closes =>
    { state with
      tokens := state.tokens.push { token with level := state.level - 1 }
      level := state.level - 1 }

def openTag (tag : Text) (attributes : List (Text × Text)) (state : BlockState) : BlockState :=
  state.push { kind := .tag, tag, nesting := .opens, attributes }

def closeTag (tag : Text) (state : BlockState) : BlockState :=
  state.push { kind := .tag, tag, nesting := .closes }

/-- Adds a line of running text, whose tokens are read later. -/
def pushInline (content : Text) (state : BlockState) : BlockState :=
  state.push { kind := .inline, content, children := some [] }

/-- Adds an element that holds running text alone. -/
def pushElement (tag : Text) (content : Text) (state : BlockState) : BlockState :=
  (((state.openTag tag []).pushInline content).closeTag tag)

def moveTo (number : Nat) (state : BlockState) : BlockState := { state with line := number }

end BlockState

end CampaignPress.Markdown
