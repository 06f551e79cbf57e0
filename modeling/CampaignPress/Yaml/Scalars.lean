/-
This file gives scalars their values: truth values, numbers in several bases and
in groups of sixty, dates, and bytes.
-/
import CampaignPress.Text.Case
import CampaignPress.Value.Basic
import CampaignPress.Yaml.Cursor
import CampaignPress.Yaml.Kind

namespace CampaignPress.Yaml

namespace Scalar

/-! ### Numbers -/

/-- A numeral without its bars, as its sign and what follows. -/
def unsigned (text : Text) : Bool × Text := Numeral.cutSign (text.filter (· ≠ '_'))

def noNumeral (base : Nat) (digits : Text) : Error :=
  .impossible ("invalid literal for int() with base " ++ Nat.toDigits 10 base ++ ": " ++
    Text.quoted digits)

/-- The letters that stand behind a zero before the digits of a base. -/
def baseLetters : List (Nat × Text) := [(2, "bB"), (8, "oO"), (16, "xX")]

/-- The values of digits of any script, and of letters that go on from nine, in a base. -/
def digitsInBase? (base : Nat) (digits : Text) : Option (List Nat) :=
  digits.mapM fun c =>
    let value? := if Text.isHexDigit c then some (Text.hexValue c) else Text.decimalValue? c
    value?.filter (· < base)

/-- The number that a text writes in a base, perhaps with a sign and with the letter of the base. -/
def inBase (base : Nat) (text : Text) : Except Error Int :=
  let (negative, rest) := Numeral.cutSign (Text.trim text)
  let digits := match rest with
    | '0' :: letter :: more =>
      if ((baseLetters.lookup base).getD []).elem letter then more else rest
    | rest => rest
  match digitsInBase? base digits with
  | some (first :: others) =>
    if text.any Numeral.isSeparator then .error (noNumeral base text)
    else .ok (Numeral.signed negative (Numeral.ofDigits base (first :: others)))
  | _ => .error (noNumeral base text)

def decimal (digits : Text) : Except Error Int :=
  match Numeral.read? digits with
  | none => .error (noNumeral 10 digits)
  | some (.ok number) => .ok number
  | some (.error fault) => .error (.impossible fault.message)

/-- Groups between colons count sixty times as much as the group after them. -/
def inSixties (groups : Text) : Except Error Int := do
  let numbers ← (Text.splitOn ':' groups).mapM decimal
  return numbers.foldl (fun total number => 60 * total + number) 0

def int (text : Text) : Except Error Value := do
  let (negative, digits) := unsigned text
  let number : Int ← match digits with
    | [] => throw .noNumber
    | ['0'] => pure 0
    | '0' :: 'b' :: rest => inBase 2 rest
    | '0' :: 'x' :: rest => inBase 16 rest
    | '0' :: rest => inBase 8 ('0' :: rest)
    | digits => if digits.elem ':' then inSixties digits else decimal digits
  return .int (if negative then -number else number)

/-- The number that a word in small letters stands for. -/
def word? (text : Text) : Option Binary64 :=
  let (negative, word) := Numeral.cutSign text
  if word = "inf".toList || word = "infinity".toList then some (.infinite negative)
  else if word = "nan".toList then some .undefined
  else none

/-- A digit of any script as one of ASCII. -/
def asciiDigit (c : Char) : Char :=
  match Text.decimalValue? c with
  | some value => Char.ofNat (48 + value)
  | none => c

def real (digits : Text) : Except Error Binary64 :=
  let text := Text.trim digits
  let number? :=
    if digits.any Numeral.isSeparator then none
    else (word? text).or (Binary64.readDecimal? (text.map asciiDigit))
  match number? with
  | some number => .ok number
  | none =>
    .error (.impossible ("could not convert string to float: " ++ Text.quoted digits))

/-- The sum of groups, each times its power of sixty, from the last group on. -/
def sumOfSixties (groups : List Binary64) : Except Error Binary64 := do
  let (total, _) ← groups.reverse.foldlM add (Binary64.ofInt 0, 1)
  return total
where
  add (sum : Binary64 × Nat) (group : Binary64) : Except Error (Binary64 × Nat) :=
    match Binary64.ofInt sum.2 with
    | .infinite _ => .error .tooLarge
    | factor => .ok (sum.1.add (group.timesPositive factor), sum.2 * 60)

def float (text : Text) : Except Error Value := do
  if text.all (· = '_') then throw .noNumber
  let (negative, digits) := unsigned (Text.lower text)
  let number ←
    if digits = ".inf".toList then pure (.infinite false)
    else if digits = ".nan".toList then pure .undefined
    else if digits.elem ':' then (Text.splitOn ':' digits).mapM real >>= sumOfSixties
    else real digits
  return .float (if negative then number.neg else number)

/-! ### Truth values -/

def bool (text : Text) : Except Error Value :=
  let small := Text.lower text
  if Kind.truths.elem small then .ok (.bool true)
  else if Kind.falsehoods.elem small then .ok (.bool false)
  else .error (.noTruth small)

/-! ### Times -/

def natOf (digits : Text) : Nat := Numeral.ofDigits 10 (digits.map Text.hexValue)

/-- What is wrong with a date, if there is no such day. -/
def dateTrouble? (day : Date) : Option Text :=
  if day.exists? then none
  else if day.year < 1 then some ("year " ++ Nat.toDigits 10 day.year ++ " is out of range")
  else if day.month < 1 || 12 < day.month then some "month must be in 1..12"
  else some "day is out of range for month"

/-- What is wrong with the hour, the minute or the second. -/
def clockTrouble? (time : Moment) : Option Text :=
  if 24 ≤ time.hour then some "hour must be in 0..23"
  else if 60 ≤ time.minute then some "minute must be in 0..59"
  else if 60 ≤ time.second then some "second must be in 0..59"
  else none

/-- What is wrong with a zone a day or more away. -/
def zoneTrouble? (minutes : Int) : Option Text :=
  if minutes.natAbs < 24 * 60 then none
  else
    let days := minutes / (24 * 60)
    let seconds := (minutes % (24 * 60)) * 60
    let rest : Text := if seconds = 0 then [] else ", seconds=" ++ Numeral.digits seconds
    some ("offset must be a timedelta strictly between -timedelta(hours=24) and " ++
      "timedelta(hours=24), not datetime.timedelta(days=".toList ++ Numeral.digits days ++ rest ++
      ").")

def zoneMinutes (sign : Option Char) (hours minutes : Text) : Int :=
  let distance : Int := natOf hours * 60 + natOf minutes
  if sign = some '-' then -distance else distance

/-- The first six digits of a fraction of a second. -/
def microseconds (fraction : Text) : Nat := natOf ((fraction ++ "000000".toList).take 6)

def ofTrouble (trouble : Option Text) (value : Value) : Except Error Value :=
  match trouble with
  | some message => .error (.impossible message)
  | none => .ok value

def timestamp (text : Text) : Except Error Value :=
  match Kind.timeParts? text with
  | none => .error .noTime
  | some parts =>
    let day : Date := ⟨natOf parts.year, natOf parts.month, natOf parts.day⟩
    match parts.clock with
    | none => ofTrouble (dateTrouble? day) (.date day)
    | some (hour, minute, second) =>
      let zone := parts.zone.map fun (sign, hours, minutes) => zoneMinutes sign hours minutes
      let time : Moment :=
        { date := day, hour := natOf hour, minute := natOf minute, second := natOf second
          micro := microseconds parts.fraction, zone }
      ofTrouble ((zone.bind zoneTrouble?).or ((dateTrouble? day).or (clockTrouble? time)))
        (.moment time)

/-! ### Bytes -/

/-- The value of a digit in base 64. -/
def digit64? (c : Char) : Option Nat :=
  if 'A' ≤ c && c ≤ 'Z' then some (c.toNat - 65)
  else if 'a' ≤ c && c ≤ 'z' then some (c.toNat - 71)
  else if Text.isAsciiDigit c then some (c.toNat + 4)
  else if c = '+' then some 62
  else if c = '/' then some 63
  else none

/-- Bytes of four digits each. `count` digits of the present four have been read, with the bits
`left` of them unused, and `pads` padding signs; what is no digit is passed over. -/
def bytes64? : (count left pads : Nat) → Text → Option (List UInt8)
  | count, _, _, [] => if count = 0 then some [] else none
  | count, left, pads, c :: rest =>
    if c = '=' then
      if 2 ≤ count && 4 ≤ count + pads + 1 then some []
      else bytes64? count left (if 2 ≤ count then pads + 1 else pads) rest
    else match digit64? c with
      | none => bytes64? count left pads rest
      | some digit =>
        match count with
        | 0 => bytes64? 1 digit 0 rest
        | 1 => (bytes64? 2 (digit % 16) 0 rest).map ((left * 4 + digit / 16).toUInt8 :: ·)
        | 2 => (bytes64? 3 (digit % 4) 0 rest).map ((left * 16 + digit / 4).toUInt8 :: ·)
        | _ => (bytes64? 0 0 0 rest).map ((left * 64 + digit).toUInt8 :: ·)

def binary (text : Text) : Except Error Value :=
  match if text.all fun c => c.toNat < 128 then bytes64? 0 0 0 text else none with
  | some bytes => .ok (.bytes bytes)
  | none => .error .malformed

/-! ### All kinds -/

/-- The value of a scalar. -/
def value (kind : Kind) (content : Text) : Except Error Value :=
  match kind with
  | .null => .ok .null
  | .bool => bool content
  | .int => int content
  | .float => float content
  | .timestamp => timestamp content
  | .string => .ok (.text content)
  | .binary => binary content
  | _ => .error .malformed

end Scalar

end CampaignPress.Yaml
