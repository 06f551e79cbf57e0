/-
This file reads and writes whole numbers. Digits of any script are read, digits
of ASCII are written, and no numeral has more digits than the limit.
-/
import CampaignPress.Fault
import CampaignPress.Text.Class

namespace CampaignPress

namespace Numeral

/-! ### Reading -/

/-- The number that a list of digit values writes in a base. -/
def ofDigits (base : Nat) (digits : List Nat) : Nat :=
  digits.foldl (fun number digit => base * number + digit) 0

/-- The values of decimal digits, if every character is one. -/
def digitValues? (text : Text) : Option (List Nat) := text.mapM Text.decimalValue?

/-- The sign of a numeral and what follows it. -/
def cutSign : Text → Bool × Text
  | '-' :: rest => (true, rest)
  | '+' :: rest => (false, rest)
  | text => (false, text)

def signed (negative : Bool) (number : Nat) : Int :=
  if negative then -Int.ofNat number else Int.ofNat number

/-- The number of a sign and digits; more digits than the limit are a fault. -/
def ofSigned (negative : Bool) (digits : List Nat) : Except Fault Int :=
  if digitLimit < digits.length then .error (.numeralTooLong digits.length)
  else .ok (signed negative (ofDigits 10 digits))

/-- A numeral is an optional sign and at least one decimal digit, with nothing else. -/
def parts? (text : Text) : Option (Bool × List Nat) :=
  let (negative, digits) := cutSign text
  match digitValues? digits with
  | some (first :: others) => some (negative, first :: others)
  | _ => none

/-- The separators of records are blanks of a text, but none around a number. -/
def isSeparator (c : Char) : Bool := '\x1c' ≤ c && c ≤ '\x1f'

/-- The number that a text writes as a whole, if it is a numeral once it is trimmed. Separators
around the numeral are a fault; those behind it show only after its digits are counted. -/
def read? (text : Text) : Option (Except Fault Int) :=
  (parts? (Text.trim text)).map fun (negative, digits) => do
    if (text.takeWhile Text.isBlank).any isSeparator then throw (.noNumeral text)
    let number ← ofSigned negative digits
    if text.any isSeparator then throw (.noNumeral text)
    return number

/-- The number at the beginning of a text. The run of digits is taken in the wide
sense, so a raised digit in it makes the run unreadable; then, and where no digit
stands or there are too many, the given number takes its place. -/
def readLeading (otherwise : Int) (text : Text) : Int :=
  let (negative, rest) := cutSign (Text.trim text)
  match digitValues? (rest.takeWhile Text.isDigit) with
  | some (first :: others) =>
    match ofSigned negative (first :: others) with
    | .ok number => number
    | .error _ => otherwise
  | _ => otherwise

/-! ### Writing -/

/-- The ASCII digits of a number, at least `width` of them. -/
def padded (width number : Nat) : Text :=
  let digits := Nat.toDigits 10 number
  List.replicate (width - digits.length) '0' ++ digits

/-- The shortest numeral of a number, whatever its length. -/
def digits (number : Int) : Text :=
  if number < 0 then '-' :: Nat.toDigits 10 number.natAbs else Nat.toDigits 10 number.natAbs

/-- The numeral of a number; more digits than the limit are a fault. -/
def write (number : Int) : Except Fault Text :=
  if number.natAbs < Nat.pow 10 digitLimit then .ok (digits number) else .error .numberTooLong

end Numeral

end CampaignPress
