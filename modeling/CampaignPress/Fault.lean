/-
This file lists what can go wrong while the content of a note is turned into
HTML. Malformed mechanics and queries are not among these: they leave a mark in
the page instead.
-/
import CampaignPress.Text.Quoted

namespace CampaignPress

/-- The most digits of a numeral that is read or written. -/
def digitLimit : Nat := 4300

/-- A fault ends the rendering of the note that holds it. -/
inductive Fault where
  /-- A placeholder in the text names a code span that does not exist. -/
  | missingSpan
  /-- A numeral to read has more digits than the limit. -/
  | numeralTooLong (digits : Nat)
  /-- A text to read as a number has more around its numeral than may be. -/
  | noNumeral (text : Text)
  /-- A number to write has more digits than the limit. -/
  | numberTooLong
  /-- Something nests deeper than there is room for on the stack. -/
  | tooDeep
  deriving DecidableEq, Repr

private def limitText : Text :=
  "Exceeds the limit (" ++ Nat.toDigits 10 digitLimit ++ " digits) for integer string conversion"

def Fault.message : Fault → Text
  | .missingSpan => "list index out of range"
  | .numeralTooLong digits =>
    limitText ++ ": value has " ++ Nat.toDigits 10 digits ++
      " digits; use sys.set_int_max_str_digits() to increase the limit"
  | .noNumeral text =>
    "invalid literal for int() with base 10: " ++ (Text.quoted text).take 200
  | .numberTooLong =>
    limitText ++ "; use sys.set_int_max_str_digits() to increase the limit"
  | .tooDeep => "maximum recursion depth exceeded"

end CampaignPress
