/-
This file follows a YAML text from left to right, counting lines and columns,
and says what its reading may come to grief on.
-/
import CampaignPress.Text.Quoted

namespace CampaignPress.Yaml

inductive Error where
  /-- The text does not follow the format, or has values that the format does not know. -/
  | malformed
  /-- A value is written as it should be, but there is no such value. -/
  | impossible (message : Text)
  /-- A number is called for where there is no character. -/
  | noNumber
  /-- A truth value is called for where there is another word. -/
  | noTruth (word : Text)
  /-- A time is called for where there is other text. -/
  | noTime
  /-- A real number has so many groups of sixty that the last one counts too much. -/
  | tooLarge
  deriving DecidableEq, Repr

def Error.message : Error → Text
  | .malformed => []
  | .impossible message => message
  | .noNumber => "string index out of range"
  | .noTruth word => Text.quoted word
  | .noTime => "\x27NoneType\x27 object has no attribute \x27groupdict\x27"
  | .tooLarge => "int too large to convert to float"

/-! ### Characters -/

def isBreak (c : Char) : Bool :=
  c = '\n' || c = '\r' || c = '\x85' || c = '\u2028' || c = '\u2029'

def isSpaceOrBreak (c : Char) : Bool := c = ' ' || isBreak c

def isGapOrBreak (c : Char) : Bool := c = '\t' || isSpaceOrBreak c

/-- The characters of names of anchors and handles. -/
def isNameChar (c : Char) : Bool := Text.isAsciiAlphanumeric c || c = '-' || c = '_'

/-- The characters that a text may hold at all. -/
def isAllowed (c : Char) : Bool :=
  let code := c.toNat
  code = 9 || code = 10 || code = 13 || (32 ≤ code && code ≤ 126) || code = 133 ||
    (160 ≤ code && code ≤ 65533) || 65536 ≤ code

/-! ### Places -/

/-- A place in a text: what follows it, and where it is. -/
structure Cursor where
  rest : Text
  index : Nat := 0
  line : Nat := 0
  column : Nat := 0

namespace Cursor

def here? (cursor : Cursor) : Option Char := cursor.rest.head?

def at? (cursor : Cursor) (distance : Nat) : Option Char := cursor.rest[distance]?

/-- Whether the character at a distance passes a test; the end of the text passes every one. -/
def endsAt (test : Char → Bool) (cursor : Cursor) (distance : Nat) : Bool :=
  (cursor.at? distance).all test

/-- One character further. A mark of byte order takes no column. -/
def step (cursor : Cursor) : Cursor :=
  match cursor.rest with
  | [] => cursor
  | c :: rest =>
    let index := cursor.index + 1
    if isBreak c && !(c = '\r' && rest.head? = some '\n') then
      { rest, index, line := cursor.line + 1, column := 0 }
    else
      { rest, index, line := cursor.line
        column := if c = '\uFEFF' then cursor.column else cursor.column + 1 }

def skip (count : Nat) (cursor : Cursor) : Cursor := count.repeat step cursor

/-- The characters that pass a test, and the place behind them. -/
def take (test : Char → Bool) (cursor : Cursor) : Text × Cursor :=
  let taken := cursor.rest.takeWhile test
  (taken, cursor.skip taken.length)

def skipWhile (test : Char → Bool) (cursor : Cursor) : Cursor := (cursor.take test).2

/-- The line break at a place, as it is read, and the place behind it. -/
def cutBreak? (cursor : Cursor) : Option (Text × Cursor) :=
  match cursor.rest with
  | '\r' :: '\n' :: _ => some (['\n'], cursor.skip 2)
  | c :: _ =>
    if c = '\u2028' || c = '\u2029' then some ([c], cursor.step)
    else if isBreak c then some (['\n'], cursor.step)
    else none
  | [] => none

/-- The line break at a place, or nothing. -/
def cutBreak (cursor : Cursor) : Text × Cursor := cursor.cutBreak?.getD ([], cursor)

/-- Whether a line that separates documents begins at a place. -/
def separates (mark : Text) (cursor : Cursor) : Bool :=
  Text.startsWith cursor.rest mark && cursor.endsAt isGapOrBreak 3

def separatesAny (cursor : Cursor) : Bool := cursor.separates "---" || cursor.separates "..."

end Cursor

end CampaignPress.Yaml
