/-
This file writes the quoted form of a text: a single quote at each end, or a
double one where the text holds single quotes only, with escapes for what has
no visible form.
-/
import CampaignPress.Text.Class

namespace CampaignPress.Text

/-- A double quote is chosen only where it saves escapes. -/
def quoteFor (text : Text) : Char :=
  if text.elem '\x27' && !text.elem '"' then '"' else '\x27'

/-- The small hexadecimal digits of a number, at least `width` of them. -/
def hexPadded (width number : Nat) : Text :=
  let digits := Nat.toDigits 16 number
  List.replicate (width - digits.length) '0' ++ digits

def escapeCode (code : Nat) : Text :=
  if code < 0x100 then "\\x" ++ hexPadded 2 code
  else if code < 0x10000 then "\\u" ++ hexPadded 4 code
  else "\\U" ++ hexPadded 8 code

def quoteChar (quote c : Char) : Text :=
  if c = quote || c = '\\' then ['\\', c]
  else if c = '\n' then "\\n"
  else if c = '\r' then "\\r"
  else if c = '\t' then "\\t"
  else if isVisible c then [c]
  else escapeCode c.toNat

def quoted (text : Text) : Text :=
  let quote := quoteFor text
  quote :: text.flatMap (quoteChar quote) ++ [quote]

/-- The quoted form of a sequence of bytes, in which only ASCII has a visible form. -/
def quotedBytes (bytes : List UInt8) : Text :=
  let chars := bytes.map fun byte => Char.ofNat byte.toNat
  let quote := quoteFor chars
  let write (c : Char) : Text :=
    if c.toNat < 127 then quoteChar quote c else "\\x" ++ hexPadded 2 c.toNat
  'b' :: quote :: chars.flatMap write ++ [quote]

end CampaignPress.Text
