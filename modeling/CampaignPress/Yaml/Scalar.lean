/-
This file reads the texts of scalars: in quotes, plain, or as a block of lines.
Lines of one scalar are joined by spaces unless they are kept apart.
-/
import CampaignPress.Numeral
import CampaignPress.Yaml.Cursor

namespace CampaignPress.Yaml

/-! ### Quotes -/

/-- What joins the lines around a break: a space for a single break, else the further breaks. -/
def joint (lineBreak further : Text) : Text :=
  if lineBreak ≠ ['\n'] then lineBreak ++ further
  else if further.isEmpty then [' ']
  else further

/-- The breaks of the empty lines after a line, up to the next character with a meaning. -/
def quotedBreaks : (room : Nat) → Cursor → Except Error (Text × Cursor)
  | 0, cursor => .ok ([], cursor)
  | room + 1, cursor =>
    if cursor.separatesAny then .error .malformed
    else
      let cursor := cursor.skipWhile fun c => c = ' ' || c = '\t'
      match cursor.cutBreak? with
      | none => .ok ([], cursor)
      | some (lineBreak, cursor) => do
        let (further, cursor) ← quotedBreaks room cursor
        return (lineBreak ++ further, cursor)

/-- The characters that letters after a backslash stand for. -/
def escapes : List (Char × Char) :=
  [('0', '\x00'), ('a', '\x07'), ('b', '\x08'), ('t', '\t'), ('\t', '\t'), ('n', '\n'),
    ('v', '\x0b'), ('f', '\x0c'), ('r', '\r'), ('e', '\x1b'), (' ', ' '), ('"', '"'),
    ('\\', '\\'), ('/', '/'), ('N', '\x85'), ('_', '\xa0'), ('L', '\u2028'), ('P', '\u2029')]

def codeWidths : List (Char × Nat) := [('x', 2), ('u', 4), ('U', 8)]

/-- What a backslash with the characters after it stands for. -/
def escaped (cursor : Cursor) : Except Error (Text × Cursor) :=
  match cursor.here? with
  | none => .error .malformed
  | some c =>
    match escapes.lookup c, codeWidths.lookup c with
    | some meant, _ => .ok ([meant], cursor.step)
    | none, some width =>
      let digits := cursor.step.rest.take width
      if digits.length < width || !digits.all Text.isHexDigit then .error .malformed
      else
        let code := Numeral.ofDigits 16 (digits.map Text.hexValue)
        if 0x110000 ≤ code then .error (.impossible "chr() arg not in range(0x110000)")
        else .ok ([Char.ofNat code], cursor.skip (width + 1))
    | none, none =>
      match cursor.cutBreak? with
      | some (_, cursor) => quotedBreaks (cursor.rest.length + 1) cursor
      | none => .error .malformed

/-- The text of a scalar behind its opening quote. -/
def quotedText (quote : Char) : (room : Nat) → Cursor → Except Error (Text × Cursor)
  | 0, _ => .error .malformed
  | room + 1, cursor =>
    let goOn (content : Text) (cursor : Cursor) : Except Error (Text × Cursor) := do
      let (rest, cursor) ← quotedText quote room cursor
      return (content ++ rest, cursor)
    match cursor.here? with
    | none => .error .malformed
    | some c =>
      if c = quote then
        if c = '\x27' && cursor.at? 1 = some '\x27' then goOn [c] (cursor.skip 2)
        else .ok ([], cursor.step)
      else if c = '\\' && quote = '"' then do
        let (content, cursor) ← escaped cursor.step
        goOn content cursor
      else if c = ' ' || c = '\t' || isBreak c then
        let (gap, cursor) := cursor.take fun c => c = ' ' || c = '\t'
        match cursor.cutBreak? with
        | none => if cursor.rest.isEmpty then .error .malformed else goOn gap cursor
        | some (lineBreak, cursor) => do
          let (further, cursor) ← quotedBreaks (cursor.rest.length + 1) cursor
          goOn (joint lineBreak further) cursor
      else goOn [c] cursor.step

/-! ### Plain text -/

/-- Whether a plain scalar ends at a place. -/
def endsPlain (inFlow : Bool) (c : Char) (next : Option Char) : Bool :=
  let inBrackets (c : Char) : Bool := inFlow && ",[]\x7b\x7d".toList.elem c
  isGapOrBreak c || (c = ':' && next.all fun n => isGapOrBreak n || inBrackets n) ||
    inBrackets c || (inFlow && c = '?')

/-- The longest piece of a plain scalar without gaps. -/
def plainPiece (inFlow : Bool) : Text → Text
  | [] => []
  | c :: rest => if endsPlain inFlow c rest.head? then [] else c :: plainPiece inFlow rest

/-- The breaks of empty lines inside a plain scalar, unless a document ends there. -/
def plainBreaks : (room : Nat) → Cursor → Option Text × Cursor
  | 0, cursor => (some [], cursor)
  | room + 1, cursor =>
    if cursor.here? = some ' ' then plainBreaks room cursor.step
    else match cursor.cutBreak? with
      | none => (some [], cursor)
      | some (lineBreak, cursor) =>
        if cursor.separatesAny then (none, cursor)
        else
          let (further, cursor) := plainBreaks room cursor
          (further.map (lineBreak ++ ·), cursor)

/-- The gap after a piece. -/
structure Gap where
  /-- What joins the pieces around it; none if no piece can follow. -/
  joint : Option Text
  /-- Whether it goes on to another line. -/
  broken : Bool
  after : Cursor

def plainGap (cursor : Cursor) : Gap :=
  let (spaces, cursor) := cursor.take (· = ' ')
  match cursor.cutBreak? with
  | none => ⟨if spaces.isEmpty then none else some spaces, false, cursor⟩
  | some (lineBreak, cursor) =>
    if cursor.separatesAny then ⟨none, true, cursor⟩
    else
      let (further, cursor) := plainBreaks (cursor.rest.length + 1) cursor
      ⟨further.map (joint lineBreak), true, cursor⟩

/-- A plain scalar, whether it ends at the beginning of a line, and the place behind it. In
blocks its lines are indented by at least `indent` columns. -/
def plainText (inFlow : Bool) (indent : Int) : (room : Nat) → (gap : Text) → (broken : Bool) →
    Cursor → Text × Bool × Cursor
  | 0, _, broken, cursor => ([], broken, cursor)
  | room + 1, gap, broken, cursor =>
    let piece := if cursor.here? = some '#' then [] else plainPiece inFlow cursor.rest
    if piece.isEmpty then ([], broken, cursor)
    else
      let next := plainGap (cursor.skip piece.length)
      let stops : Bool := next.after.here? = some '#' ||
        (!inFlow && (next.after.column : Int) < indent)
      match next.joint with
      | some joint =>
        if stops then (gap ++ piece, next.broken, next.after)
        else
          let (rest, broken, after) := plainText inFlow indent room joint next.broken next.after
          (gap ++ piece ++ rest, broken, after)
      | none => (gap ++ piece, next.broken, next.after)

/-! ### Blocks -/

/-- What becomes of the line breaks at the end of a block. -/
inductive Chomping where
  | clip
  | strip
  | keep
  deriving DecidableEq, Repr

def chomping? (c : Option Char) : Option Chomping :=
  if c = some '+' then some .keep else if c = some '-' then some .strip else none

def increment? (c : Option Char) : Option Nat :=
  (c.filter Text.isAsciiDigit).map Text.hexValue

/-- The marks after the sign of a block, in either order. -/
def blockMarks (cursor : Cursor) : Except Error (Chomping × Option Nat × Cursor) := do
  let (chomping, increment, cursor) : Option Chomping × Option Nat × Cursor :=
    match chomping? cursor.here? with
    | some chomping =>
      let increment := increment? (cursor.at? 1)
      (some chomping, increment, cursor.skip (if increment.isSome then 2 else 1))
    | none =>
      match increment? cursor.here? with
      | none => (none, none, cursor)
      | some increment =>
        let chomping := chomping? (cursor.at? 1)
        (chomping, some increment, cursor.skip (if chomping.isSome then 2 else 1))
  if increment = some 0 || !cursor.endsAt isSpaceOrBreak 0 then throw .malformed
  return (chomping.getD .clip, increment, cursor)

/-- The place behind a line on which only spaces and a comment are left. -/
def skipLineEnd (cursor : Cursor) : Except Error Cursor :=
  let cursor := cursor.skipWhile (· = ' ')
  let cursor := if cursor.here? = some '#' then cursor.skipWhile (!isBreak ·) else cursor
  if cursor.endsAt isBreak 0 then .ok cursor.cutBreak.2 else .error .malformed

/-- The breaks of the empty lines before a block, and the widest indentation on the way. -/
def leadingBreaks : (room widest : Nat) → Cursor → Text × Nat × Cursor
  | 0, widest, cursor => ([], widest, cursor)
  | room + 1, widest, cursor =>
    if cursor.here? = some ' ' then
      leadingBreaks room (max widest cursor.step.column) cursor.step
    else match cursor.cutBreak? with
      | none => ([], widest, cursor)
      | some (lineBreak, cursor) =>
        let (further, widest, cursor) := leadingBreaks room widest cursor
        (lineBreak ++ further, widest, cursor)

/-- Passes over indentation up to a column. -/
def skipIndent (indent : Nat) : (room : Nat) → Cursor → Cursor
  | 0, cursor => cursor
  | room + 1, cursor =>
    if cursor.column < indent && cursor.here? = some ' ' then skipIndent indent room cursor.step
    else cursor

/-- The breaks of empty lines in a block, up to a line with content. -/
def blockBreaks (indent : Nat) : (room : Nat) → Cursor → Text × Cursor
  | 0, cursor => ([], cursor)
  | room + 1, cursor =>
    let cursor := skipIndent indent indent cursor
    match cursor.cutBreak? with
    | none => ([], cursor)
    | some (lineBreak, cursor) =>
      let (further, cursor) := blockBreaks indent room cursor
      (lineBreak ++ further, cursor)

def isGap (c : Option Char) : Bool := c = some ' ' || c = some '\t'

/-- The lines of a block from a place at the beginning of one, where `breaks` stand before it:
the text, the last break, the breaks after it, and the place behind. -/
def blockLines (folded : Bool) (indent : Nat) : (room : Nat) → (lineBreak breaks : Text) → Cursor →
    Text × Text × Text × Cursor
  | 0, lineBreak, breaks, cursor => ([], lineBreak, breaks, cursor)
  | room + 1, lineBreak, breaks, cursor =>
    if cursor.column ≠ indent || cursor.rest.isEmpty then ([], lineBreak, breaks, cursor)
    else
      let (line, after) := cursor.take (!isBreak ·)
      let (next, after) := after.cutBreak
      let (further, after) := blockBreaks indent (after.rest.length + 1) after
      let goesOn : Bool := after.column = indent && !after.rest.isEmpty
      let joined : Text :=
        if !goesOn then []
        else if folded && next = ['\n'] && !isGap cursor.here? && !isGap after.here? then
          if further.isEmpty then [' '] else []
        else next
      let (rest, last, trailing, after) := blockLines folded indent room next further after
      (breaks ++ line ++ joined ++ rest, last, trailing, after)

/-- A block behind its sign. Its lines are indented deeper than the block around it. -/
def blockText (folded : Bool) (around : Int) (cursor : Cursor) : Except Error (Text × Cursor) := do
  let (chomping, increment, cursor) ← blockMarks cursor
  let cursor ← skipLineEnd cursor
  let least := (max 1 (around + 1)).toNat
  let room := cursor.rest.length + 1
  let (indent, breaks, start) : Nat × Text × Cursor :=
    match increment with
    | none =>
      let (breaks, widest, start) := leadingBreaks room 0 cursor
      (max least widest, breaks, start)
    | some increment =>
      let indent := least + increment - 1
      let (breaks, start) := blockBreaks indent room cursor
      (indent, breaks, start)
  let (content, lineBreak, breaks, after) := blockLines folded indent room [] breaks start
  let ending := match chomping with
    | .strip => []
    | .clip => lineBreak
    | .keep => lineBreak ++ breaks
  return (content ++ ending, after)

end CampaignPress.Yaml
