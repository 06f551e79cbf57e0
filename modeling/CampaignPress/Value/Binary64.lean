/-
This file holds the numbers of the binary64 format as exact values: a whole
number times a power of two. Reading a decimal rounds to the nearest such
number, and writing one uses the fewest digits that read back as it.
-/
import CampaignPress.Numeral

namespace CampaignPress

inductive Binary64 where
  /-- The number `mantissa * 2 ^ exponent`, with a sign that zero has too. -/
  | finite (negative : Bool) (mantissa : Nat) (exponent : Int)
  | infinite (negative : Bool)
  | undefined
  deriving DecidableEq, Repr

namespace Binary64

/-! ### Rounding -/

def leastExponent : Int := -1074

def greatestExponent : Int := 971

/-- The quotient rounded to a whole number, a half going to the even neighbour. -/
def roundQuotient (dividend divisor : Nat) : Nat :=
  let quotient := dividend / divisor
  let rest := dividend % divisor
  if 2 * rest > divisor || (2 * rest = divisor && quotient % 2 = 1) then quotient + 1
  else quotient

/-- The quotient of two numbers after division by a power of two, rounded. -/
def scaledQuotient (dividend divisor : Nat) (exponent : Int) : Nat :=
  if exponent < 0 then roundQuotient (dividend * Nat.pow 2 exponent.natAbs) divisor
  else roundQuotient dividend (divisor * Nat.pow 2 exponent.natAbs)

/-- The nearest number of the format to a quotient. -/
def ofQuotient (negative : Bool) (dividend divisor : Nat) : Binary64 :=
  if dividend = 0 then .finite negative 0 leastExponent
  else
    let estimate : Int := Int.ofNat dividend.log2 - Int.ofNat divisor.log2 - 53
    let whole : Nat :=
      if estimate < 0 then dividend * Nat.pow 2 estimate.natAbs / divisor
      else dividend / (divisor * Nat.pow 2 estimate.natAbs)
    let exponent := max leastExponent (if Nat.pow 2 53 ≤ whole then estimate + 1 else estimate)
    let rounded := scaledQuotient dividend divisor exponent
    let (mantissa, exponent) :=
      if rounded = Nat.pow 2 53 then (Nat.pow 2 52, exponent + 1) else (rounded, exponent)
    if greatestExponent < exponent then .infinite negative
    else .finite negative mantissa exponent

/-- The nearest number to `digits * 10 ^ exponent`. Exponents far outside the
format's range decide the answer by themselves. -/
def ofDecimal (negative : Bool) (digits : Nat) (exponent : Int) : Binary64 :=
  if digits = 0 then .finite negative 0 leastExponent
  else
    let magnitude := exponent + Int.ofNat (digits.log2 / 3)
    if 400 < exponent then .infinite negative
    else if magnitude < -400 then .finite negative 0 leastExponent
    else if exponent < 0 then ofQuotient negative digits (Nat.pow 10 exponent.natAbs)
    else ofQuotient negative (digits * Nat.pow 10 exponent.natAbs) 1

def ofInt (number : Int) : Binary64 := ofQuotient (number < 0) number.natAbs 1

/-! ### Order and exact value -/

/-- The exact value in units of the least positive number, which every number of
the format is a multiple of. -/
def units? : Binary64 → Option Int
  | .finite negative mantissa exponent =>
    some (Numeral.signed negative (mantissa * Nat.pow 2 (exponent - leastExponent).toNat))
  | _ => none

/-- A whole number in the same units. -/
def unitsOfInt (number : Int) : Int := number * Int.ofNat (Nat.pow 2 leastExponent.natAbs)

def neg : Binary64 → Binary64
  | .finite negative mantissa exponent => .finite (!negative) mantissa exponent
  | .infinite negative => .infinite (!negative)
  | .undefined => .undefined

/-! ### Sums and products -/

/-- The sum of two numbers, rounded. -/
def add : Binary64 → Binary64 → Binary64
  | .undefined, _ => .undefined
  | _, .undefined => .undefined
  | .infinite a, .infinite b => if a = b then .infinite a else .undefined
  | .infinite a, _ => .infinite a
  | _, .infinite b => .infinite b
  | left, right =>
    let units := left.units?.getD 0 + right.units?.getD 0
    ofQuotient (units < 0) units.natAbs (Nat.pow 2 leastExponent.natAbs)

/-- The product of a number and a positive one, rounded. -/
def timesPositive (number factor : Binary64) : Binary64 :=
  match number, factor with
  | .finite negative mantissa exponent, .finite _ other power =>
    let shift := exponent + power
    ofQuotient negative (mantissa * other * Nat.pow 2 shift.toNat) (Nat.pow 2 (-shift).toNat)
  | number, _ => number

/-! ### Writing -/

/-- The whole part of a number over a power of ten. -/
private def wholeOver (mantissa : Nat) (exponent ten : Int) : Nat :=
  let dividend := mantissa * Nat.pow 2 exponent.toNat * Nat.pow 10 (-ten).toNat
  let divisor := Nat.pow 2 (-exponent).toNat * Nat.pow 10 ten.toNat
  dividend / divisor

/-- Twice the part of a number over a power of ten that is not whole, against one. -/
private def halfOver (mantissa : Nat) (exponent ten : Int) : Ordering :=
  let dividend := mantissa * Nat.pow 2 exponent.toNat * Nat.pow 10 (-ten).toNat
  let divisor := Nat.pow 2 (-exponent).toNat * Nat.pow 10 ten.toNat
  compare (2 * (dividend % divisor)) divisor

/-- The power of ten just at or below a positive number. -/
private def leadingPower (mantissa : Nat) (exponent : Int) : Int :=
  let start := (Int.ofNat mantissa.log2 + exponent) * 30103 / 100000
  if wholeOver mantissa exponent (start + 1) = 0 then
    if wholeOver mantissa exponent start = 0 then start - 1 else start
  else start + 1

/-- The neighbours with a number of digits that read back; of two the nearer. -/
private def shortestOn (mantissa : Nat) (exponent : Int) (ten : Int) : Option Nat :=
  let below := wholeOver mantissa exponent ten
  let readsBack (digits : Nat) := ofDecimal false digits ten = .finite false mantissa exponent
  match decide (readsBack below), decide (readsBack (below + 1)) with
  | true, false => some below
  | false, true => some (below + 1)
  | false, false => none
  | true, true =>
    match halfOver mantissa exponent ten with
    | .lt => some below
    | .gt => some (below + 1)
    | .eq => some (if below % 2 = 0 then below else below + 1)

/-- The fewest digits that read back as a positive number, and their power of ten. -/
def shortest (mantissa : Nat) (exponent : Int) : Nat × Int :=
  let leading := leadingPower mantissa exponent
  let candidates := (List.range 17).filterMap fun more =>
    let ten := leading - Int.ofNat more
    (shortestOn mantissa exponent ten).map fun digits => (digits, ten)
  candidates.headD (mantissa, exponent)

/-- Digits around a point that stands `point` places after the first of them. -/
private def positional (digits : Text) (point : Int) : Text :=
  if point ≤ 0 then "0." ++ List.replicate (-point).toNat '0' ++ digits
  else
    let whole := digits.take point.toNat
    let filled := whole ++ List.replicate (point.toNat - whole.length) '0'
    let part := digits.drop point.toNat
    filled ++ "." ++ (if part.isEmpty then ['0'] else part)

/-- Digits with a power of ten of at least two places. -/
private def scientific (digits : Text) (power : Int) : Text :=
  let sign : Char := if power < 0 then '-' else '+'
  let part := digits.drop 1
  digits.take 1 ++ (if part.isEmpty then [] else '.' :: part) ++ "e" ++
    [sign] ++ Numeral.padded 2 power.natAbs

/-- Powers of ten from 10⁻⁴ to 10¹⁵ are written with a point, others with an exponent. -/
def write : Binary64 → Text
  | .undefined => "nan"
  | .infinite negative => if negative then "-inf" else "inf"
  | .finite negative mantissa exponent =>
    let sign : Text := if negative then "-" else ""
    if mantissa = 0 then sign ++ "0.0"
    else
      let (number, ten) := shortest mantissa exponent
      let digits := Text.dropEnd (· == '0') (Nat.toDigits 10 number)
      let power := ten + Int.ofNat (Nat.toDigits 10 number).length - 1
      sign ++ (if -4 ≤ power && power < 16 then positional digits (power + 1)
        else scientific digits power)

/-! ### Reading -/

/-- A decimal fraction: a sign, digits with at most one point among them, and
perhaps an exponent. -/
def readDecimal? (text : Text) : Option Binary64 :=
  let (negative, rest) := Numeral.cutSign text
  let whole := rest.takeWhile Text.isAsciiDigit
  let (part, rest) : Text × Text :=
    match rest.dropWhile Text.isAsciiDigit with
    | '.' :: more => (more.takeWhile Text.isAsciiDigit, more.dropWhile Text.isAsciiDigit)
    | other => ([], other)
  let digits := Numeral.ofDigits 10 ((whole ++ part).map Text.hexValue)
  let shift := Int.ofNat part.length
  if whole.isEmpty && part.isEmpty then none
  else match rest with
    | [] => some (ofDecimal negative digits (-shift))
    | e :: more =>
      if e = 'e' || e = 'E' then
        let (down, power) := Numeral.cutSign more
        if power.isEmpty || !power.all Text.isAsciiDigit then none
        else
          let exponent := Numeral.signed down (Numeral.ofDigits 10 (power.map Text.hexValue))
          some (ofDecimal negative digits (exponent - shift))
      else none

end Binary64

end CampaignPress
