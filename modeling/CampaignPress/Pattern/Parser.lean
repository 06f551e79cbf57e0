/-
This file reads patterns from their usual notation. A text that breaks its rules
is no pattern. Characters are not read by their names, for which there is no table.
-/
import CampaignPress.Numeral
import CampaignPress.Pattern.Basic

namespace CampaignPress

namespace Pattern

/-! ### Reading -/

structure Flags where
  anyCase : Bool := false
  /-- Whether lines have ends of their own. -/
  byLine : Bool := false
  /-- Whether any character may be a line break. -/
  withBreaks : Bool := false
  /-- Whether blanks and comments mean nothing. -/
  spaced : Bool := false
  /-- Whether nothing may be repeated. -/
  single : Bool := false
  /-- Whether classes are those of ASCII, where this is said. -/
  ascii? : Option Bool := none

def Flags.asciiOnly (flags : Flags) : Bool := flags.ascii?.getD false

structure Reading where
  rest : Text
  /-- The spans of the groups so far; one that is not closed has none. -/
  groups : List (Option Span) := []
  /-- The names of groups, with their numbers. -/
  names : List (Text × Nat) := []
  flags : Flags := {}
  /-- The number of groups before a part that is looked back at. -/
  groupsBefore? : Option Nat := none
  /-- The greatest number of a group that a condition asks for. -/
  asked : Nat := 0

abbrev Reader (α : Type) := StateT Reading Option α

namespace Reader

def refuse {α : Type} : Reader α := fun _ => none

def peek : Reader (Option Char) := do return (← get).rest.head?

def advance (count : Nat) : Reader Unit :=
  modify fun reading => { reading with rest := reading.rest.drop count }

def next? : Reader (Option Char) := do
  let c ← peek
  advance 1
  return c

def accept (text : Text) : Reader Bool := do
  match Text.after? text (← get).rest with
  | some rest =>
    modify fun reading => { reading with rest }
    return true
  | none => return false

def takeWhile (test : Char → Bool) : Reader Text := do
  let taken := (← get).rest.takeWhile test
  advance taken.length
  return taken

/-- What follows a sign that no backslash stands before. -/
def afterSign? (sign : Char) : Text → Option Text
  | [] => none
  | [c] => if c = sign then some [] else none
  | c :: d :: rest =>
    if c = '\\' then afterSign? sign rest
    else if c = sign then some (d :: rest)
    else afterSign? sign (d :: rest)

/-! ### Escapes -/

/-- What a backslash and the characters after it mean in a set. -/
inductive Escape where
  | char (code : Nat)
  | class (name : Class) (isNegated : Bool)

def classes : List (Char × Class × Bool) :=
  [('d', .digit, false), ('D', .digit, true), ('s', .blank, false), ('S', .blank, true),
    ('w', .word, false), ('W', .word, true)]

def controls : List (Char × Char) :=
  [('a', '\x07'), ('f', '\x0c'), ('n', '\n'), ('r', '\r'), ('t', '\t'), ('v', '\x0b'),
    ('\\', '\\')]

def codeWidths : List (Char × Nat) := [('x', 2), ('u', 4), ('U', 8)]

def isOctal (c : Char) : Bool := '0' ≤ c && c ≤ '7'

/-- A code of a number of hexadecimal digits. -/
def hexCode (width : Nat) : Reader Nat := do
  let digits := ((← get).rest.take width).takeWhile Text.isHexDigit
  if digits.length < width then refuse
  advance width
  let code := Numeral.ofDigits 16 (digits.map Text.hexValue)
  if 0x110000 ≤ code then refuse
  return code

/-- An octal code of at most some digits, of which the first is given. -/
def octalCode (first : Char) (more : Nat) : Reader Nat := do
  let digits := ((← get).rest.take more).takeWhile isOctal
  advance digits.length
  let code := Numeral.ofDigits 8 ((first :: digits).map Text.hexValue)
  if 255 < code then refuse
  return code

/-- Escapes that mean the same everywhere, behind their letter. -/
def commonEscape? (c : Char) : Reader (Option Escape) := do
  match classes.lookup c, controls.lookup c, codeWidths.lookup c with
  | some (name, isNegated), _, _ => return some (.class name isNegated)
  | _, some control, _ => return some (.char control.toNat)
  | _, _, some width => return some (.char (← hexCode width))
  | _, _, _ => return none

/-- An escape in a set. -/
def setEscape : Reader Escape := do
  match ← next? with
  | none => refuse
  | some c =>
    match ← commonEscape? c with
    | some escape => return escape
    | none =>
      if c = 'b' then return .char 8
      else if isOctal c then return .char (← octalCode c 2)
      else if Text.isAsciiAlphanumeric c then refuse
      else return .char c.toNat

/-! ### Sets -/

/-- One end of a range, or a class. -/
def setEnd (c : Char) : Reader Escape := if c = '\\' then setEscape else return .char c.toNat

def entryOf : Escape → Entry
  | .char code => .char code
  | .class name isNegated => .class name isNegated

/-- The entries of a set behind its opening bracket; `room` bounds their count. A closing
bracket that comes first is an entry. -/
def setEntries : (room : Nat) → (first : Bool) → Reader (List Entry)
  | 0, _ => refuse
  | room + 1, first => do
    match ← next? with
    | none => refuse
    | some c =>
      if c = ']' && !first then return []
      else
        let low ← setEnd c
        if ← accept ['-'] then
          match ← next? with
          | none => refuse
          | some d =>
            if d = ']' then return [entryOf low, .char '-'.toNat]
            else
              match low, ← setEnd d with
              | .char low, .char high =>
                if high < low then refuse
                else return .range low high :: (← setEntries room false)
              | _, _ => refuse
        else return entryOf low :: (← setEntries room false)

def setOf (entries : List Entry) (isNegated : Bool) : Reader Pattern := do
  let flags := (← get).flags
  return .oneOf
    { isNegated, entries := entries.eraseDups, anyCase := flags.anyCase,
      asciiOnly := flags.asciiOnly }

def bracketed : Reader Pattern := do
  let isNegated ← accept ['^']
  let entries ← setEntries ((← get).rest.length + 1) true
  setOf entries isNegated

/-! ### Single pieces -/

def literal (code : Nat) : Reader Pattern := setOf [.char code] false

/-- Refuses a group that a part that is looked back at may not refer to. -/
def checkGroup (number : Nat) : Reader Unit := do
  let reading ← get
  match reading.groupsBefore? with
  | none => return ()
  | some before =>
    if before < number || ((reading.groups[number - 1]?).join).isNone then refuse

/-- The text of a group that is closed. -/
def groupText (number : Nat) : Reader Pattern := do
  let reading ← get
  if number = 0 || ((reading.groups[number - 1]?).join).isNone then refuse
  checkGroup number
  return .same number reading.flags.anyCase reading.flags.asciiOnly

/-- A number after a backslash: an octal code, or a group. -/
def numbered (first : Char) : Reader Pattern := do
  let more := (← get).rest.take 2
  match more with
  | [a, b] =>
    if isOctal first && isOctal a && isOctal b then
      literal (← octalCode first 2)
    else reference first more
  | _ => reference first more
where
  reference (first : Char) (more : Text) : Reader Pattern := do
    let second := (more.take 1).takeWhile Text.isAsciiDigit
    advance second.length
    groupText (Numeral.ofDigits 10 ((first :: second).map Text.hexValue))

/-- What a backslash and the characters after it mean outside of sets. -/
def escaped : Reader Pattern := do
  let flags := (← get).flags
  match ← next? with
  | none => refuse
  | some c =>
    match ← commonEscape? c with
    | some (.char code) => literal code
    | some (.class name isNegated) => setOf [.class name isNegated] false
    | none =>
      if c = 'A' then return .edge .textStart
      else if c = 'Z' then return .edge .textEnd
      else if c = 'b' then return .edge (.wordEdge flags.asciiOnly)
      else if c = 'B' then return .edge (.noWordEdge flags.asciiOnly)
      else if c = '0' then literal (← octalCode c 2)
      else if Text.isAsciiDigit c then numbered c
      else if Text.isAsciiLetter c then refuse
      else literal c.toNat

/-! ### Repetition -/

structure Count where
  least : Nat
  most : Option Nat

/-- The count in braces whose opening one stands just before; other text in braces is no
count. -/
def braced : Reader (Option Count) := do
  let start ← get
  let low ← takeWhile Text.isAsciiDigit
  let hasComma ← accept [',']
  let high ← if hasComma then takeWhile Text.isAsciiDigit else pure low
  if start.rest.head? = some '\x7d' || !(← accept ['\x7d']) then
    set start
    return none
  else
    let number (digits : Text) : Nat := Numeral.ofDigits 10 (digits.map Text.hexValue)
    let most := if high.isEmpty then none else some (number high)
    if (most.any (· < number low)) || 4294967295 ≤ number low || most.any (4294967295 ≤ ·) then
      refuse
    else return some ⟨number low, most⟩

/-- The count that a sign of repetition stands for. -/
def countOf (sign : Char) : Reader (Option Count) :=
  match sign with
  | '?' => return some ⟨0, some 1⟩
  | '*' => return some ⟨0, none⟩
  | '+' => return some ⟨1, none⟩
  | _ => braced

def isRepeat (c : Char) : Bool := c = '*' || c = '+' || c = '?' || c = '\x7b'

/-- Whether a piece may be followed by a sign of repetition. -/
def mayRepeat : Pattern → Bool
  | .edge _ => false
  | .many _ _ _ _ => false
  | _ => true

/-- How many repetitions are tried first, as a sign after the count says. -/
def greed : Reader Greed := do
  if ← accept ['?'] then return .fewest
  if ← accept ['+'] then return .all
  return .most

/-- The pieces before a sign of repetition, of which the last one comes first and is repeated. -/
def withCount (count : Count) : (before : List Pattern) → Reader (List Pattern)
  | [] => refuse
  | piece :: before => do
    if !mayRepeat piece || (← get).flags.single then refuse
    return .many count.least count.most (← greed) piece :: before

/-! ### Flags -/

/-- The flags with one more for a letter, or one fewer. -/
def flagOf (flags : Flags) (isOn : Bool) (c : Char) : Option Flags :=
  match c with
  | 'i' => some { flags with anyCase := isOn }
  | 'm' => some { flags with byLine := isOn }
  | 's' => some { flags with withBreaks := isOn }
  | 'x' => some { flags with spaced := isOn }
  | 't' => if isOn then some { flags with single := true } else none
  | 'a' => if isOn then some { flags with ascii? := some true } else none
  | 'u' => if isOn then some { flags with ascii? := some false } else none
  | _ => none

def setFlags (flags : Flags) (isOn : Bool) (letters : Text) : Reader Flags :=
  match letters.foldlM (fun flags c => flagOf flags isOn c) flags with
  | some flags => pure flags
  | none => refuse

/-! ### Groups -/

/-- A name of letters, digits and underscores that begins with no digit, up to a sign. -/
def nameTo (sign : Char) : Reader Text := do
  let name ← takeWhile Text.isWord
  if !(← accept [sign]) || name.isEmpty || name.head?.any Text.isDigit then refuse
  else return name

def anyOf : List Pattern → Pattern
  | [] => .empty
  | [branch] => branch
  | branch :: branches => .either branch (anyOf branches)

section Groups

variable (body : Reader (List Pattern))

/-- The branches of a part in parentheses, up to the closing one. -/
def closedBranches : Reader (List Pattern) := do
  let branches ← body
  if ← accept [')'] then return branches else refuse

def closed : Reader Pattern := do return anyOf (← closedBranches body)

/-- A part under other flags. -/
def under (flags : Flags) : Reader Pattern := do
  let before := (← get).flags
  modify fun reading => { reading with flags }
  let pattern ← closed body
  modify fun reading => { reading with flags := before }
  return pattern

/-- A part that gets the next number, and perhaps a name. -/
def numberedGroup (name : Option Text) : Reader Pattern := do
  let reading ← get
  let number := reading.groups.length + 1
  if name.any fun name => reading.names.any (·.1 = name) then refuse
  let names := match name with
    | some name => (name, number) :: reading.names
    | none => reading.names
  set { reading with groups := reading.groups ++ [none], names }
  let pattern ← closed body
  modify fun reading =>
    { reading with groups := reading.groups.set (number - 1) (some (pattern.span reading.groups)) }
  return .group number pattern

/-- The widest part that can be looked back at. -/
def widest : Nat := 4294967295

/-- A part that is looked back at. All its matches have one width. -/
def lookBehind (isNegated : Bool) : Reader Pattern := do
  let before := (← get).groupsBefore?
  modify fun reading =>
    { reading with groupsBefore? := some (before.getD reading.groups.length) }
  let pattern ← closed body
  modify fun reading => { reading with groupsBefore? := before }
  let span := pattern.span (← get).groups
  if span.greatest ≠ some span.least || widest < span.least then refuse
  return .behind isNegated span.least pattern

/-- The group that a condition names or numbers. -/
def conditionGroup : Reader Nat := do
  let name ← takeWhile (· ≠ ')')
  if !(← accept [')']) then refuse
  match (← get).names.lookup name with
  | some number => return number
  | none =>
    match Numeral.read? name with
    | some (.ok number) => if number ≤ 0 then refuse else return number.toNat
    | _ => refuse

/-- Two parts, or one, for whether a group has matched. -/
def conditional : Reader Pattern := do
  let number ← conditionGroup
  modify fun reading => { reading with asked := max reading.asked number }
  checkGroup number
  match ← closedBranches body with
  | [yes] => return .given number yes .empty
  | [yes, no] => return .given number yes no
  | _ => refuse

/-- Flags for a part, or at the very beginning for all that follows. -/
def flagged (atStart : Bool) : Reader (Option Pattern) := do
  let on ← takeWhile Text.isAsciiLetter
  let flags := (← get).flags
  if on.elem 'a' && on.elem 'u' then refuse
  let flagsOn ← setFlags flags true on
  if ← accept [')'] then
    let isBoth := flags.ascii?.any fun isAscii => flagsOn.ascii? ≠ some isAscii
    if !atStart || on.isEmpty || isBoth then refuse
    modify fun reading => { reading with flags := flagsOn }
    return none
  else if on.elem 't' then refuse
  else if ← accept ['-'] then
    let off ← takeWhile Text.isAsciiLetter
    if off.isEmpty || off.any on.elem || !(← accept [':']) then refuse
    return some (← under body (← setFlags flagsOn false off))
  else if on.isEmpty || !(← accept [':']) then refuse
  else return some (← under body flagsOn)

/-- What follows an opening parenthesis. Comments, and flags for all that follows, are no pieces. -/
def parenthesized (atStart : Bool) : Reader (Option Pattern) := do
  if !(← accept ['?']) then return some (← numberedGroup body none)
  else if ← accept [':'] then return some (← closed body)
  else if ← accept "P<" then
    let name ← nameTo '>'
    return some (← numberedGroup body (some name))
  else if ← accept "P=" then
    let name ← nameTo ')'
    match (← get).names.lookup name with
    | some number => return some (← groupText number)
    | none => refuse
  else if ← accept ['='] then return some (.ahead false (← closed body))
  else if ← accept ['!'] then return some (.ahead true (← closed body))
  else if ← accept "<=" then return some (← lookBehind body false)
  else if ← accept "<!" then return some (← lookBehind body true)
  else if ← accept ['>'] then return some (.fixed (← closed body))
  else if ← accept ['('] then return some (← conditional body)
  else if ← accept ['#'] then
    match afterSign? ')' (← get).rest with
    | some rest =>
      modify fun reading => { reading with rest }
      return none
    | none => refuse
  else flagged body atStart

/-! ### Sequences -/

/-- The piece that begins with a character, if that begins one. -/
def piece (atStart : Bool) (c : Char) : Reader (Option Pattern) := do
  let flags := (← get).flags
  match c with
  | '.' => return some (.any flags.withBreaks)
  | '^' => return some (.edge (if flags.byLine then .lineStart else .textStart))
  | '$' => return some (.edge (if flags.byLine then .lineEnd else .lastLineEnd))
  | '[' => return some (← bracketed)
  | '(' => parenthesized body atStart
  | '\\' => return some (← escaped)
  | c => return some (← literal c.toNat)

def spaces : Text := " \t\n\r\x0b\x0c"

/-- Pieces one after the other, up to a bar or a closing parenthesis, behind others of which the
last one comes first. -/
def sequence (isFirst : Bool) : (room : Nat) → (before : List Pattern) → Reader Pattern
  | 0, _ => refuse
  | room + 1, before => do
    let flags := (← get).flags
    match ← peek with
    | none => return joined before
    | some c =>
      if c = '|' || c = ')' then return joined before
      advance 1
      if flags.spaced && spaces.elem c then sequence isFirst room before
      else if flags.spaced && c = '#' then
        modify fun reading => { reading with rest := (afterSign? '\n' reading.rest).getD [] }
        sequence isFirst room before
      else if isRepeat c then
        match ← countOf c with
        | some count => sequence isFirst room (← withCount count before)
        | none => sequence isFirst room ((← literal c.toNat) :: before)
      else
        match ← piece body (isFirst && before.isEmpty) c with
        | some first => sequence isFirst room (first :: before)
        | none => sequence isFirst room before
where
  joined (before : List Pattern) : Pattern := before.foldl (fun later piece => .both piece later) .empty

/-- Branches between bars. -/
def branches : (isFirst : Bool) → (room : Nat) → Reader (List Pattern)
  | _, 0 => refuse
  | isFirst, room + 1 => do
    let first ← sequence body isFirst ((← get).rest.length + 1) []
    if ← accept ['|'] then return first :: (← branches false room)
    else return [first]

end Groups

/-- The branches of a pattern, with parentheses in parentheses to a depth. -/
def pattern : (isTop : Bool) → (depth : Nat) → Reader (List Pattern)
  | _, 0 => refuse
  | isTop, depth + 1 => do
    branches (pattern false depth) isTop ((← get).rest.length + 1)

end Reader

/-- The pattern that a text writes, if it writes one. -/
def ofText? (text : Text) : Option Pattern := do
  let (branches, reading) ← (Reader.pattern true (text.length + 1)).run { rest := text }
  if reading.rest.isEmpty && reading.asked ≤ reading.groups.length then
    some (Reader.anyOf branches)
  else none

end Pattern

end CampaignPress
