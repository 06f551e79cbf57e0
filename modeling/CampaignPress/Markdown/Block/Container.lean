/-
This file holds the rules of blocks that hold other blocks: quotes, lists and
the definitions of footnotes. Each of them changes the lines for the blocks
inside it, reads those, and puts the lines back.
-/
import CampaignPress.Markdown.Block.Start

namespace CampaignPress.Markdown.Block

/-! ### Quotes -/

/-- A line behind the mark of a quote. One gap after the mark belongs to it; a wide tab is left
in place, and only one of its columns counts. -/
def behindQuoteMark (line : Line) : Line :=
  let rest := line.content.drop 1
  let column := line.indent + 1
  let (hasGap, keepsTab) : Bool × Bool := match rest with
    | ' ' :: _ => (true, false)
    | '\t' :: _ => (true, (line.base + column) % 4 ≠ 3)
    | _ => (false, false)
  let dropped := if hasGap && !keepsTab then 1 else 0
  let text := rest.drop dropped
  let start := column + dropped
  let lead := line.base + if keepsTab then 1 else 0
  let (stop, content) := Line.skipGaps (start + lead) text
  { line with
    text
    shift := text.length - content.length
    indent := stop - lead - start
    base := line.indent + 1 + if hasGap then 1 else 0 }

/-- The lines of a quote from a given one on, and the line behind it. `afterEmpty` says that
the line before is empty. A line without a mark goes on with a paragraph, and its indentation
counts for nothing. Where another block ends the quote, paragraphs end there too. -/
def quoteLines (stop : Nat) : (room number : Nat) → (afterEmpty : Bool) → BlockState →
    Nat × BlockState
  | 0, number, _, state => (number, state)
  | room + 1, number, afterEmpty, state =>
    let line := state.lineAt number
    if stop ≤ number || line.isEmpty then (number, state)
    else if beginsQuote line.content && state.indent ≤ line.indent then
      let inside := behindQuoteMark line
      quoteLines stop room (number + 1) inside.isEmpty (state.setLine number inside)
    else if afterEmpty then (number, state)
    else if endsQuote state false line then
      let outdented := { line with indent := line.indent - state.indent }
      (number, { state.setLine number outdented with limit := number })
    else
      quoteLines stop room (number + 1) false (state.setLine number { line with indent := -1 })

def quote (inner : BlockReader) : BlockRule := fun stop state =>
  if !state.isCode state.here && beginsQuote state.here.content then
    let first := behindQuoteMark state.here
    let (after, marked) := quoteLines stop (stop - state.line) (state.line + 1) first.isEmpty
      (state.setLine state.line first)
    let read := inner after (({ marked with indent := 0 } : BlockState).openTag "blockquote" [])
    some
      { read.closeTag "blockquote" with
        lines := state.lines, limit := state.limit, indent := state.indent }
  else none

/-! ### Lists -/

/-- The line of an item behind its mark, and the column of its content. The content begins one
column after the mark if it is further away than four, or if there is none. -/
def behindItemMark (mark : ItemMark) (line : Line) : Line × Int :=
  let start := line.indent + (mark.length : Int)
  let rest := line.content.drop mark.length
  let (stop, content) := Line.skipGaps (start + line.base) rest
  let width := stop - line.base - start
  let width := if content.isEmpty || 4 < width then 1 else width
  ({ line with
      shift := line.text.length - content.length
      indent := stop - line.base },
    start + width)

/-- An item read, and whether it leaves its list tight: no empty line stands inside it. -/
def item (inner : BlockReader) (mark : ItemMark) (stop : Nat) (state : BlockState) :
    Bool × BlockState :=
  let start := state.line
  let (line, column) := behindItemMark mark state.here
  let opened : BlockState :=
    { state.openTag "li" [] with
      listIndent := some state.indent, indent := column, tight := true }
  let opened := opened.setLine start line
  let read :=
    if line.isEmpty && (state.lineAt (start + 1)).isEmpty then
      opened.moveTo (min (start + 2) stop)
    else inner stop opened
  (read.tight,
    { (read.setLine start state.here).closeTag "li" with
      listIndent := state.listIndent, indent := state.indent, tight := state.tight })

/-- The mark of the next item of a list, if the list goes on. -/
def nextMark? (mark : ItemMark) (stop : Nat) (state : BlockState) : Option ItemMark := do
  let line := state.here
  guard (state.line < stop && state.indent ≤ line.indent && !state.isCode line &&
    !endsItem state line)
  let next ← if mark.number.isSome then orderedMark? line.content else bulletMark? line.content
  guard (next.sign = mark.sign)
  return next

/-- Reads the items of a list, and tells whether all leave it tight and none but the last ends
with an empty line. -/
def items (inner : BlockReader) (stop : Nat) : (room : Nat) → (mark : ItemMark) → BlockState →
    Bool × BlockState
  | 0, _, state => (true, state)
  | room + 1, mark, state =>
    let start := state.line
    let (tight, read) := item inner mark stop state
    match nextMark? mark stop read with
    | none => (tight, read)
    | some next =>
      let endsEmpty := 1 < read.line - start && (read.lineAt (read.line - 1)).isEmpty
      let (others, read) := items inner stop room next read
      (tight && others && !endsEmpty, read)

/-- Hides the paragraphs of the items of a tight list. -/
def hideParagraphs (start : Nat) (state : BlockState) : BlockState :=
  let level := state.level + 2
  { state with
    tokens := state.tokens.mapIdx fun position token =>
      if start < position && token.isParagraph && token.level = level then
        { token with hidden := true }
      else token }

def list (inner : BlockReader) : BlockRule := fun stop state => do
  guard (!state.isCode state.here && beginsList state false state.here)
  let mark ← itemMark? state.here.content
  let tag : Text := if mark.number.isSome then "ol" else "ul"
  let attributes : List (Text × Text) := match mark.number with
    | none => []
    | some number => if number = 1 then [] else [("start", Nat.toDigits 10 number)]
  let (tight, read) := items inner stop (stop - state.line) mark (state.openTag tag attributes)
  let closed := read.closeTag tag
  return if tight then hideParagraphs state.tokens.size closed else closed

/-! ### Footnotes -/

/-- The line of a definition behind its label. -/
def behindLabel (state : BlockState) (rest : Text) (line : Line) : Line :=
  let start := line.indent + ((line.content.length : Int) - (rest.length : Int))
  let (stop, content) := Line.skipGaps start rest
  let width := stop - start
  { line with
    text := rest
    shift := rest.length - content.length
    indent := if width < state.indent + 4 then width + state.indent + 4 else width }

/-- The content of a definition is indented by four columns. -/
def definition (inner : BlockReader) : BlockRule := fun stop state => do
  guard (!state.isCode state.here)
  let (label, rest) ← noteLabel? state.here.content
  let opening : Token :=
    { kind := .noteDefinition, nesting := .opens, level := state.level, mark := { label } }
  let opened : BlockState :=
    { state with
      tokens := state.tokens.push opening
      level := state.level + 1
      indent := state.indent + 4
      footnotes := state.footnotes.define label }
  let read := inner stop (opened.setLine state.line (behindLabel state rest state.here))
  let closing : Token := { kind := .noteDefinition, nesting := .closes, level := state.level }
  return { read.setLine state.line state.here with
    tokens := read.tokens.push closing
    level := state.level
    indent := state.indent }

end CampaignPress.Markdown.Block
