/-
This file tells what a plain scalar is by its looks: a truth value, a number, a
date, nothing at all, or text.
-/
import CampaignPress.Text.Class

namespace CampaignPress.Yaml

/-- What a node is, by its tag. -/
inductive Kind where
  | null
  | bool
  | int
  | float
  | timestamp
  | string
  | binary
  | sequence
  | mapping
  | set
  | pairs
  /-- The key that takes over the entries of other mappings. -/
  | merge
  /-- The key of a value that stands for its mapping. -/
  | standIn
  /-- A tag without a meaning. -/
  | unknown
  deriving DecidableEq, Repr

namespace Kind

/-! ### Parts of numerals -/

def cutSign : Text → Text
  | '+' :: rest => rest
  | '-' :: rest => rest
  | text => text

def isDigit (c : Char) : Bool := Text.isAsciiDigit c

def isDigitOrBar (c : Char) : Bool := isDigit c || c = '_'

def beginsWithDigit (text : Text) : Bool := text.head?.any isDigit

/-- One or two digits that count seconds or minutes. -/
def isSixtieth : Text → Bool
  | [c] => isDigit c
  | [t, c] => '0' ≤ t && t ≤ '5' && isDigit c
  | _ => false

/-! ### Looks -/

def truths : List Text :=
  ["yes", "Yes", "YES", "true", "True", "TRUE", "on", "On", "ON"]

def falsehoods : List Text :=
  ["no", "No", "NO", "false", "False", "FALSE", "off", "Off", "OFF"]

def isNull (text : Text) : Bool :=
  text.isEmpty || text = ['~'] || text = "null".toList || text = "Null".toList ||
    text = "NULL".toList

/-- An exponent always has a sign. -/
def isExponent : Text → Bool
  | [] => true
  | e :: sign :: digits =>
    (e = 'e' || e = 'E') && (sign = '+' || sign = '-') && !digits.isEmpty && digits.all isDigit
  | _ => false

def isPlainFloat (text : Text) : Bool :=
  let digits := cutSign text
  match digits.dropWhile isDigitOrBar with
  | '.' :: rest => beginsWithDigit digits && isExponent (rest.dropWhile isDigitOrBar)
  | _ => false

def isFraction : Text → Bool
  | '.' :: rest => beginsWithDigit rest && isExponent (rest.dropWhile isDigitOrBar)
  | _ => false

/-- Digits, and groups of sixtieths after colons. -/
def isGrouped (first : Text → Bool) (text : Text) : Bool :=
  match Text.splitOn ':' text with
  | digits :: group :: groups => first digits && (group :: groups).all isSixtieth
  | _ => false

def isBarred (digits : Text) : Bool := beginsWithDigit digits && digits.all isDigitOrBar

def isGroupedFloat (text : Text) : Bool :=
  match Text.cutAt '.' (cutSign text) with
  | some (groups, part) => isGrouped isBarred groups && part.all isDigitOrBar
  | none => false

def isInfinite (text : Text) : Bool :=
  let text := cutSign text
  text = ".inf".toList || text = ".Inf".toList || text = ".INF".toList

def isUndefined (text : Text) : Bool :=
  text = ".nan".toList || text = ".NaN".toList || text = ".NAN".toList

def isFloat (text : Text) : Bool :=
  isPlainFloat text || isFraction text || isGroupedFloat text || isInfinite text ||
    isUndefined text

/-- At least one digit or bar, all of which pass a test. -/
def isDigits (test : Char → Bool) (digits : Text) : Bool :=
  !digits.isEmpty && digits.all fun c => test c || c = '_'

def isWholeNumber (digits : Text) : Bool :=
  digits = ['0'] || (isBarred digits && digits.head? ≠ some '0')

def isInt (text : Text) : Bool :=
  let digits := cutSign text
  (match digits with
    | '0' :: 'b' :: rest => isDigits (fun c => c = '0' || c = '1') rest
    | '0' :: 'x' :: rest => isDigits Text.isHexDigit rest
    | '0' :: rest => isDigits (fun c => '0' ≤ c && c ≤ '7') rest
    | _ => false) ||
    isWholeNumber digits ||
    isGrouped (fun first => isBarred first && first.head? ≠ some '0') digits

/-! ### Times -/

/-- The parts of a date or a time as they are written. -/
structure TimeParts where
  year : Text
  month : Text
  day : Text
  clock : Option (Text × Text × Text)
  fraction : Text
  /-- The sign of the zone with its hours and minutes; without a sign the prime meridian. -/
  zone : Option (Option Char × Text × Text)

/-- Between `least` and `most` digits, and what follows them. -/
def cutDigits? (least most : Nat) (text : Text) : Option (Text × Text) :=
  let digits := (text.take most).takeWhile isDigit
  if least ≤ digits.length then some (digits, text.drop digits.length) else none

def isGap (c : Char) : Bool := c = ' ' || c = '\t'

/-- The zone at the end of a time, after gaps. -/
def zone? (text : Text) : Option (Option (Option Char × Text × Text)) :=
  match text.dropWhile isGap with
  | [] => if text.isEmpty then some none else none
  | ['Z'] => some (some (none, [], []))
  | sign :: rest =>
    if sign = '+' || sign = '-' then
      match cutDigits? 1 2 rest with
      | some (hours, []) => some (some (some sign, hours, []))
      | some (hours, ':' :: rest) =>
        match cutDigits? 2 2 rest with
        | some (minutes, []) => some (some (some sign, hours, minutes))
        | _ => none
      | _ => none
    else none

def timeParts? (text : Text) : Option TimeParts := do
  let (year, rest) ← cutDigits? 4 4 text
  let rest ← Text.after? "-" rest
  let (month, rest) ← cutDigits? 1 2 rest
  let rest ← Text.after? "-" rest
  let (day, rest) ← cutDigits? 1 2 rest
  if rest.isEmpty then return ⟨year, month, day, none, [], none⟩
  let rest ← match rest with
    | 'T' :: rest => some rest
    | 't' :: rest => some rest
    | c :: _ => if isGap c then some (rest.dropWhile isGap) else none
    | [] => none
  let (hour, rest) ← cutDigits? 1 2 rest
  let rest ← Text.after? ":" rest
  let (minute, rest) ← cutDigits? 2 2 rest
  let rest ← Text.after? ":" rest
  let (second, rest) ← cutDigits? 2 2 rest
  let (fraction, rest) : Text × Text := match rest with
    | '.' :: rest => (rest.takeWhile isDigit, rest.dropWhile isDigit)
    | rest => ([], rest)
  let zone ← zone? rest
  return ⟨year, month, day, some (hour, minute, second), fraction, zone⟩

/-- A date alone has two digits for the month and for the day. -/
def isTimestamp (text : Text) : Bool :=
  (timeParts? text).any fun parts =>
    parts.clock.isSome || (parts.month.length = 2 && parts.day.length = 2)

/-! ### Plain scalars -/

def ofPlain (text : Text) : Kind :=
  if truths.elem text || falsehoods.elem text then .bool
  else if isFloat text then .float
  else if isInt text then .int
  else if text = "<<".toList then .merge
  else if isNull text then .null
  else if isTimestamp text then .timestamp
  else if text = ['='] then .standIn
  else .string

/-! ### Tags -/

/-- The beginning of the tags that the format defines. -/
def standardTags : Text := "tag:yaml.org,2002:"

def names : List (Text × Kind) :=
  [("null", .null), ("bool", .bool), ("int", .int), ("float", .float),
    ("timestamp", .timestamp), ("str", .string), ("binary", .binary), ("seq", .sequence),
    ("map", .mapping), ("set", .set), ("omap", .pairs), ("pairs", .pairs), ("merge", .merge),
    ("value", .standIn)]

def ofTag (tag : Text) : Kind :=
  match Text.after? standardTags tag with
  | some name => (names.lookup name).getD .unknown
  | none => .unknown

end Kind

end CampaignPress.Yaml
