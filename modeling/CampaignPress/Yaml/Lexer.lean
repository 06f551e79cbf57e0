/-
This file cuts a text into tokens. Deeper and shallower indentation opens and
ends blocks; a scalar turns out to be a key only at the colon behind it, so the
place of a possible key is kept until then.
-/
import CampaignPress.Yaml.Property
import CampaignPress.Yaml.Scalar

namespace CampaignPress.Yaml

/-- A token that may be a key. Where a key is needed, what follows must be a colon. -/
structure PossibleKey where
  position : Nat
  needed : Bool
  start : Cursor

structure Lexer where
  cursor : Cursor
  tokens : Array Token := #[]
  /-- The number of open brackets. -/
  flow : Nat := 0
  /-- The column of the block around, and those of the blocks around it. -/
  indent : Int := -1
  outer : List Int := []
  keyAllowed : Bool := true
  /-- The possible keys by the number of brackets around them. -/
  keys : List (Nat × PossibleKey) := []

namespace Lexer

/-- A key stands on one line and is no longer than this. -/
def longestKey : Nat := 1024

def inFlow (lexer : Lexer) : Bool := 0 < lexer.flow

def column (lexer : Lexer) : Int := lexer.cursor.column

def push (token : Token) (lexer : Lexer) : Lexer :=
  { lexer with tokens := lexer.tokens.push token }

def moveTo (cursor : Cursor) (lexer : Lexer) : Lexer := { lexer with cursor }

/-! ### Keys -/

def isStale (cursor : Cursor) (key : PossibleKey) : Bool :=
  key.start.line ≠ cursor.line || key.start.index + longestKey < cursor.index

/-- Drops the keys that no colon can follow any more. -/
def dropStale (lexer : Lexer) : Except Error Lexer :=
  let (stale, fresh) := lexer.keys.partition fun entry => isStale lexer.cursor entry.2
  if stale.any (·.2.needed) then .error .malformed else .ok { lexer with keys := fresh }

/-- Drops the possible key between the present brackets. -/
def dropKey (lexer : Lexer) : Except Error Lexer :=
  match lexer.keys.lookup lexer.flow with
  | none => .ok lexer
  | some key =>
    if key.needed then .error .malformed
    else .ok { lexer with keys := lexer.keys.filter (·.1 ≠ lexer.flow) }

/-- Notes that the next token may be a key. -/
def noteKey (lexer : Lexer) : Except Error Lexer := do
  if !lexer.keyAllowed then return lexer
  let needed := !lexer.inFlow && lexer.indent = lexer.column
  let lexer ← lexer.dropKey
  return { lexer with
    keys := (lexer.flow, ⟨lexer.tokens.size, needed, lexer.cursor⟩) :: lexer.keys }

/-! ### Blocks -/

/-- Ends the blocks that are indented deeper than a column. -/
def unwind (column : Int) : (room : Nat) → Lexer → Lexer
  | 0, lexer => lexer
  | room + 1, lexer =>
    if column < lexer.indent then
      unwind column room
        { lexer with
          tokens := lexer.tokens.push .blockEnd
          indent := lexer.outer.headD (-1)
          outer := lexer.outer.tail }
    else lexer

/-- Between brackets indentation means nothing. -/
def unwindTo (column : Int) (lexer : Lexer) : Lexer :=
  if lexer.inFlow then lexer else unwind column (lexer.outer.length + 1) lexer

/-- Begins a block at a column with a token at a position, if the column is deeper than the
block around. -/
def beginBlock (token : Token) (column : Int) (position : Nat) (lexer : Lexer) : Lexer :=
  if !lexer.inFlow && lexer.indent < column then
    { lexer with
      tokens := lexer.tokens.insertIdxIfInBounds position token
      indent := column
      outer := lexer.indent :: lexer.outer }
  else lexer

/-! ### Tokens -/

/-- A line that begins or ends a document, or holds a directive, ends all blocks. -/
def toTop (lexer : Lexer) : Except Error Lexer := do
  let lexer ← (lexer.unwindTo (-1)).dropKey
  return { lexer with keyAllowed := false }

def documentMark (token : Token) (lexer : Lexer) : Except Error Lexer := do
  let lexer ← lexer.toTop
  return (lexer.push token).moveTo (lexer.cursor.skip 3)

def directiveLine (lexer : Lexer) : Except Error Lexer := do
  let lexer ← lexer.toTop
  let (directive, after) ← directive lexer.cursor.step
  return (lexer.push (.directive directive)).moveTo after

def openBracket (token : Token) (lexer : Lexer) : Except Error Lexer := do
  let lexer ← lexer.noteKey
  return { lexer.push token with
    cursor := lexer.cursor.step, flow := lexer.flow + 1, keyAllowed := true }

/-- A bracket that was not opened is refused. -/
def closeBracket (token : Token) (lexer : Lexer) : Except Error Lexer := do
  let lexer ← lexer.dropKey
  if lexer.flow = 0 then throw .malformed
  return { lexer.push token with
    cursor := lexer.cursor.step, flow := lexer.flow - 1, keyAllowed := false }

def comma (lexer : Lexer) : Except Error Lexer := do
  let lexer ← lexer.dropKey
  return { lexer.push .flowEntry with cursor := lexer.cursor.step, keyAllowed := true }

/-- A dash or a question mark begins a block where a key may stand. -/
def indicator (block token : Token) (lexer : Lexer) : Except Error Lexer := do
  if !lexer.inFlow && !lexer.keyAllowed then throw .malformed
  let lexer ← (lexer.beginBlock block lexer.column lexer.tokens.size).dropKey
  return (lexer.push token).moveTo lexer.cursor.step

def dash (lexer : Lexer) : Except Error Lexer :=
  (lexer.indicator .blockSequence .entry).map fun lexer => { lexer with keyAllowed := true }

def question (lexer : Lexer) : Except Error Lexer :=
  (lexer.indicator .blockMapping .key).map fun lexer =>
    { lexer with keyAllowed := !lexer.inFlow }

/-- A colon makes the possible key before it a key. -/
def colon (lexer : Lexer) : Except Error Lexer :=
  match lexer.keys.lookup lexer.flow with
  | some key =>
    let marked := { lexer with
      tokens := lexer.tokens.insertIdxIfInBounds key.position .key
      keys := lexer.keys.filter (·.1 ≠ lexer.flow)
      keyAllowed := false }
    let marked := marked.beginBlock .blockMapping key.start.column key.position
    .ok ((marked.push .value).moveTo lexer.cursor.step)
  | none =>
    (lexer.indicator .blockMapping .value).map fun lexer =>
      { lexer with keyAllowed := !lexer.inFlow }

/-- Adds a token that may be a key and that no other key may follow. -/
def mayBeKey (read : Cursor → Except Error (Token × Cursor)) (lexer : Lexer) :
    Except Error Lexer := do
  let lexer ← lexer.noteKey
  let (token, after) ← read lexer.cursor
  return { lexer.push token with cursor := after, keyAllowed := false }

def quoted (quote : Char) (cursor : Cursor) : Except Error (Token × Cursor) := do
  let (content, after) ← quotedText quote (cursor.rest.length + 1) cursor.step
  return (.scalar false content, after)

/-- A plain scalar that ends at the beginning of a line lets a key follow. -/
def plain (lexer : Lexer) : Except Error Lexer := do
  let lexer ← lexer.noteKey
  let (content, broken, after) :=
    plainText lexer.inFlow (lexer.indent + 1) (lexer.cursor.rest.length + 1) [] false lexer.cursor
  return { lexer.push (.scalar true content) with cursor := after, keyAllowed := broken }

def block (folded : Bool) (lexer : Lexer) : Except Error Lexer := do
  let lexer ← lexer.dropKey
  let (content, after) ← blockText folded lexer.indent lexer.cursor.step
  return { lexer.push (.scalar false content) with cursor := after, keyAllowed := true }

/-! ### Reading -/

/-- Passes over spaces, comments and line breaks; outside of brackets a key may follow a break. -/
def skipBlank : (room : Nat) → Lexer → Lexer
  | 0, lexer => lexer
  | room + 1, lexer =>
    let cursor := skipSpaces lexer.cursor
    let cursor := if cursor.here? = some '#' then cursor.skipWhile (!isBreak ·) else cursor
    match cursor.cutBreak? with
    | some (_, cursor) =>
      skipBlank room { lexer with cursor, keyAllowed := lexer.keyAllowed || !lexer.inFlow }
    | none => { lexer with cursor }

/-- The signs that a plain scalar does not begin with. -/
def isSign (c : Char) : Bool := "-?:,[]\x7b\x7d#&*!|>'\"%@\x60".toList.elem c

/-- Whether a plain scalar begins here: a dash, and outside of brackets a question mark and a
colon, may begin one right before a character. -/
def beginsPlain (lexer : Lexer) (c : Char) : Bool :=
  (!isGapOrBreak c && !isSign c) ||
    (!lexer.cursor.endsAt isGapOrBreak 1 && (c = '-' || (!lexer.inFlow && (c = '?' || c = ':'))))

/-- Reads the token that begins with a character. -/
def token (lexer : Lexer) (c : Char) : Except Error Lexer :=
  let gapAfter := lexer.cursor.endsAt isGapOrBreak 1
  let atStart : Bool := lexer.cursor.column = 0
  if c = '%' && atStart then lexer.directiveLine
  else if atStart && lexer.cursor.separates "---" then lexer.documentMark .documentStart
  else if atStart && lexer.cursor.separates "..." then lexer.documentMark .documentEnd
  else if c = '[' then lexer.openBracket .flowSequence
  else if c = '\x7b' then lexer.openBracket .flowMapping
  else if c = ']' then lexer.closeBracket .flowSequenceEnd
  else if c = '\x7d' then lexer.closeBracket .flowMappingEnd
  else if c = ',' then lexer.comma
  else if c = '-' && gapAfter then lexer.dash
  else if c = '?' && (lexer.inFlow || gapAfter) then lexer.question
  else if c = ':' && (lexer.inFlow || gapAfter) then lexer.colon
  else if c = '*' then lexer.mayBeKey fun cursor => do
    let (name, after) ← anchorName cursor.step
    return (.alias name, after)
  else if c = '&' then lexer.mayBeKey fun cursor => do
    let (name, after) ← anchorName cursor.step
    return (.anchor name, after)
  else if c = '!' then lexer.mayBeKey fun cursor => do
    let (name, after) ← tagName cursor
    return (.tag name, after)
  else if c = '|' && !lexer.inFlow then lexer.block false
  else if c = '>' && !lexer.inFlow then lexer.block true
  else if c = '\x27' || c = '"' then lexer.mayBeKey (quoted c)
  else if lexer.beginsPlain c then lexer.plain
  else .error .malformed

/-- Reads the tokens that are left. -/
def run : (room : Nat) → Lexer → Except Error (List Token)
  | 0, lexer => .ok lexer.tokens.toList
  | room + 1, lexer => do
    let lexer ← (skipBlank (lexer.cursor.rest.length + 1) lexer).dropStale
    let lexer := lexer.unwindTo lexer.column
    match lexer.cursor.here? with
    | none =>
      let lexer ← (lexer.unwindTo (-1)).dropKey
      return lexer.tokens.toList
    | some c => run room (← lexer.token c)

end Lexer

/-- The tokens of a text. -/
def tokensOf (text : Text) : Except Error (List Token) :=
  if text.all isAllowed then
    let start : Cursor := { rest := text }
    let cursor := if start.here? = some '\uFEFF' then start.step else start
    Lexer.run (text.length + 1) { cursor }
  else .error .malformed

end CampaignPress.Yaml
