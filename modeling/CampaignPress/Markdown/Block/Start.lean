/-
This file tells from the content of a line which block it begins, and which
blocks may end the one before them.
-/
import CampaignPress.Markdown.Block.State
import CampaignPress.Markdown.Tag

namespace CampaignPress.Markdown.Block

/-! ### Fences -/

/-- A run of marks and what follows it. -/
structure FenceMark where
  mark : Char
  length : Nat
  info : Text

/-- The run of marks at the beginning of a line. -/
def fenceMark? : Text → Option FenceMark
  | [] => none
  | c :: rest =>
    let length := (rest.takeWhile (· = c)).length + 1
    if (c = '`' || c = '~') && 3 ≤ length then some ⟨c, length, rest.drop (length - 1)⟩ else none

/-- The fence that a line opens. After backticks the line holds no other backtick. -/
def openedFence? (content : Text) : Option FenceMark :=
  (fenceMark? content).filter fun fence => fence.mark ≠ '`' || !fence.info.elem '`'

def FenceMark.isClosedBy (fence : FenceMark) (content : Text) : Bool :=
  match fenceMark? content with
  | some other => other.mark = fence.mark && fence.length ≤ other.length && other.info.all isGap
  | none => false

/-! ### Quotes and breaks -/

def beginsQuote (content : Text) : Bool := content.head? = some '>'

/-- Three or more marks of one kind, with gaps between them, make a thematic break. -/
def isBreak (content : Text) : Bool :=
  match content with
  | [] => false
  | mark :: _ =>
    (mark = '*' || mark = '-' || mark = '_') &&
      content.all (fun c => c = mark || isGap c) && 3 ≤ content.count mark

/-! ### List items -/

/-- How a list item is marked. -/
structure ItemMark where
  /-- The last character of the mark; the items of a list agree in it. -/
  sign : Char
  number : Option Nat
  length : Nat

def endsMark (rest : Text) : Bool := rest.isEmpty || rest.head?.any isGap

/-- One to nine digits, and a point or a parenthesis. -/
def orderedMark? (content : Text) : Option ItemMark :=
  let digits := content.takeWhile Text.isAsciiDigit
  match content.drop digits.length with
  | sign :: rest =>
    if (sign = '.' || sign = ')') && !digits.isEmpty && digits.length ≤ 9 && endsMark rest then
      some ⟨sign, some (Numeral.ofDigits 10 (digits.map Text.hexValue)), digits.length + 1⟩
    else none
  | [] => none

def bulletMark? : Text → Option ItemMark
  | sign :: rest =>
    if (sign = '*' || sign = '-' || sign = '+') && endsMark rest then some ⟨sign, none, 1⟩
    else none
  | [] => none

def itemMark? (content : Text) : Option ItemMark := (orderedMark? content).or (bulletMark? content)

/-- Whether a line may begin a list. Far right of the lists around it goes on with a paragraph;
a paragraph is ended only by an item with content, and the number one. -/
def beginsList (state : BlockState) (endsParagraph : Bool) (line : Line) : Bool :=
  let tooFar := state.listIndent.any fun outer => 4 ≤ line.indent - outer
  if tooFar && line.indent < state.indent then false
  else match itemMark? line.content with
    | none => false
    | some mark =>
      !(endsParagraph && state.indent ≤ line.indent) ||
        (mark.number.all (· = 1) && !(line.content.drop mark.length).all isGap)

/-! ### Headings -/

/-- The rank of a heading and its text, without the marks at its end. -/
def heading? (content : Text) : Option (Nat × Text) :=
  let marks := content.takeWhile (· = '#')
  let rest := content.drop marks.length
  if 1 ≤ marks.length && marks.length ≤ 6 && endsMark rest then
    let text := Text.dropEnd isGap rest
    let open? := Text.dropEnd (· = '#') text
    let text := if open?.getLast?.any isGap then open? else text
    some (marks.length, trim text)
  else none

/-- The rank of the heading that a line underlines. -/
def underline? (content : Text) : Option Nat :=
  match content with
  | mark :: rest =>
    if (mark = '=' || mark = '-') && (rest.dropWhile (· = mark)).all isGap then
      some (if mark = '=' then 1 else 2)
    else none
  | [] => none

/-! ### Footnotes -/

/-- The label of the footnote that a line defines, and what follows the colon. -/
def noteLabel? (content : Text) : Option (Text × Text) := do
  let rest ← Text.after? "[^" content
  let inLabel (c : Char) := c ≠ ' ' && c ≠ ']'
  let label := rest.takeWhile inLabel
  guard (!label.isEmpty)
  let after ← Text.after? "]:" (rest.drop label.length)
  return (label, after)

/-! ### Tables -/

inductive Alignment where
  | none
  | left
  | right
  | center
  deriving DecidableEq, Repr

/-- What a cell of the second line says of its column. -/
def alignment? (cell : Text) : Option Alignment :=
  let left : Bool := cell.head? = some ':'
  let right : Bool := cell.getLast? = some ':'
  let dashes := (if right then cell.dropLast else cell).drop (if left then 1 else 0)
  if dashes.isEmpty || !dashes.all (· = '-') then Option.none
  else some <| match left, right with
    | true, true => .center
    | true, false => .left
    | false, true => .right
    | false, false => .none

def isRuling (c : Char) : Bool := c = '|' || c = '-' || c = ':'

/-- Whether the second line of a table is made of rulings alone. A dash and a gap begin a list
item instead. -/
def isRulingLine : Text → Bool
  | first :: second :: rest =>
    isRuling first && (isRuling second || isGap second) && !(first = '-' && isGap second) &&
      rest.all fun c => isRuling c || isGap c
  | _ => false

/-- The columns that the second line of a table lays out. Only its first and its last cell may
be empty. -/
def columns? (content : Text) : Option (List Alignment) := do
  guard (isRulingLine content)
  let cells := (Text.splitOn '|' content).map trim
  let cells := if cells.head?.any List.isEmpty then cells.drop 1 else cells
  let cells := if cells.getLast?.any List.isEmpty then cells.dropLast else cells
  cells.mapM alignment?

/-- The cells of a line, cut at bars; a bar after a backslash belongs to the cell. -/
def cutCells : (cell : Text) → (escaped : Bool) → Text → List Text
  | cell, _, [] => [cell.reverse]
  | cell, escaped, c :: rest =>
    if c = '|' then
      if escaped then cutCells ('|' :: cell.drop 1) false rest
      else cell.reverse :: cutCells [] false rest
    else cutCells (c :: cell) (c = '\\') rest

/-- The cells of a row, without the empty ones outside its first and its last bar. -/
def rowCells (content : Text) : List Text :=
  let cells := cutCells [] false (trim content)
  let cells := if cells.head? = some [] then cells.drop 1 else cells
  if cells.getLast? = some [] then cells.dropLast else cells

/-- The columns of the table that a line begins: their alignments and their heads. -/
def tableAt? (state : BlockState) (number stop : Nat) : Option (List Alignment × List Text) := do
  let first := state.lineAt number
  let second := state.lineAt (number + 1)
  guard (number + 2 ≤ stop && state.indent ≤ second.indent && !state.isCode second)
  let alignments ← columns? second.content
  let content := trim first.content
  guard (content.elem '|' && !state.isCode first)
  let heads := rowCells content
  guard (!heads.isEmpty && heads.length = alignments.length)
  return (alignments, heads)

/-! ### What ends a block -/

/-- Blocks that end an item of a list. -/
def endsItem (state : BlockState) (line : Line) : Bool :=
  !state.isCode line &&
    ((openedFence? line.content).isSome || beginsQuote line.content || isBreak line.content)

/-- Whether a line begins HTML that may stand right below a paragraph. -/
def beginsHtml (content : Text) : Bool :=
  content.head? = some '<' && (Tag.regionOf? content).any (· ≠ .single)

/-- Blocks that end a quote, or a table. -/
def endsQuote (state : BlockState) (endsParagraph : Bool) (line : Line) : Bool :=
  endsItem state line ||
    (!state.isCode line &&
      (beginsList state endsParagraph line || beginsHtml line.content ||
        (heading? line.content).isSome))

/-- Blocks that end a paragraph, or with the flag off the lines of a reference; they may take
the lines up to `stop`. -/
def endsParagraph (state : BlockState) (isParagraph : Bool) (stop number : Nat) : Bool :=
  let line := state.lineAt number
  (tableAt? state number stop).isSome || endsQuote state isParagraph line ||
    (!state.isCode line && (noteLabel? line.content).isSome)

/-- Whether a paragraph goes on with a line: an indented line and one that only continues end
nothing. -/
def continues (state : BlockState) (isParagraph : Bool) (number : Nat) : Bool :=
  let line := state.lineAt number
  number < state.limit && !line.isEmpty &&
    (state.isCode line || line.indent < 0 ||
      !endsParagraph state isParagraph state.limit number)

/-- The line behind a paragraph that has been read up to a line. -/
def paragraphEnd (state : BlockState) (isParagraph : Bool) : (room number : Nat) → Nat
  | 0, number => number
  | room + 1, number =>
    if continues state isParagraph number then paragraphEnd state isParagraph room (number + 1)
    else number

end CampaignPress.Markdown.Block
