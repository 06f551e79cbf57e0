/-
This file holds the lines that blocks are read from. A line knows its indentation
in columns, where a tab goes on to the next multiple of four, and the columns
that the marks of outer blocks take before it.
-/
import CampaignPress.Markdown.Character

namespace CampaignPress.Markdown

structure Line where
  /-- The line behind the marks of outer quotes, without its line break. -/
  text : Text := []
  /-- The characters before the content. -/
  shift : Nat := 0
  /-- The column of the content; lines that only continue a paragraph have less than none. -/
  indent : Int := 0
  /-- The columns before the text, for the width of tabs. -/
  base : Int := 0
  /-- Whether a line break follows. -/
  ended : Bool := false
  deriving Inhabited

namespace Line

/-! ### Reading lines -/

def nextStop (column : Int) : Int := column + (4 - column % 4)

/-- The column behind gaps that begin at a column, and what follows them. -/
def skipGaps : (column : Int) → Text → Int × Text
  | column, [] => (column, [])
  | column, c :: rest =>
    if c = '\t' then skipGaps (nextStop column) rest
    else if c = ' ' then skipGaps (column + 1) rest
    else (column, c :: rest)

def ofText (ended : Bool) (text : Text) : Line :=
  let (indent, content) := skipGaps 0 text
  { text, shift := text.length - content.length, indent, ended }

/-- The lines of a text. Gaps after the last line break are no line. -/
def allOf : (lines : List Text) → List Line
  | [] => []
  | [last] => if last.all isGap then [] else [ofText false last]
  | line :: rest => ofText true line :: allOf rest

/-! ### Parts -/

/-- What follows the indentation. -/
def content (line : Line) : Text := line.text.drop line.shift

def isEmpty (line : Line) : Bool := line.text.length ≤ line.shift

/-- A line without some columns of indentation. The characters before the content count as
one column each, and what is left of a tab becomes spaces. -/
def cutColumns (width base : Int) : (shift : Nat) → (column : Int) → Text → Text
  | _, column, [] => List.replicate (column - width).toNat ' '
  | shift, column, c :: rest =>
    if width ≤ column then List.replicate (column - width).toNat ' ' ++ c :: rest
    else if c = '\t' then
      cutColumns width base (shift - 1) (column + (4 - (column + base) % 4)) rest
    else if c = ' ' || 0 < shift then cutColumns width base (shift - 1) (column + 1) rest
    else c :: rest

/-- The text of a line without `width` columns of indentation. -/
def outdented (width : Int) (line : Line) : Text :=
  cutColumns width line.base line.shift 0 line.text

/-- The line break that follows a line. -/
def lineBreak (line : Line) : Text := if line.ended then ['\n'] else []

end Line

end CampaignPress.Markdown
