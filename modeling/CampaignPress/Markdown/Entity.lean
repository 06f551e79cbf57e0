/-
This file decodes what stands for another character: named and numbered
entities, and punctuation after a backslash.
-/
import CampaignPress.Markdown.Character
import CampaignPress.Markdown.EntityTable
import CampaignPress.Numeral
import CampaignPress.Text.Case

namespace CampaignPress.Markdown

namespace Entity

/-! ### Characters -/

private def ofHex (digits : Text) : Nat := Numeral.ofDigits 16 (digits.map Text.hexValue)

private def ofDecimal (digits : Text) : Nat := Numeral.ofDigits 10 (digits.map Text.hexValue)

/-- The characters that a name stands for. -/
def named? (name : Text) : Option Text := do
  let first ← name.head?
  let entries ← namedCharacters.lookup first
  let known := (Text.splitOn ';' entries).map Text.words
  let codes ← known.findSome? fun
    | key :: codes => if key = name then some codes else none
    | [] => none
  return codes.map fun code => Char.ofNat (ofHex code)

/-- Numbers of controls, of halves of pairs and of places without a character are refused. -/
def isCharacter (code : Nat) : Bool :=
  !((0xD800 ≤ code && code ≤ 0xDFFF) || (0xFDD0 ≤ code && code ≤ 0xFDEF) ||
    code % 0x10000 = 0xFFFF || code % 0x10000 = 0xFFFE || code ≤ 8 || code = 0x0B ||
    (0x0E ≤ code && code ≤ 0x1F) || (0x7F ≤ code && code ≤ 0x9F) || 0x10FFFF < code)

private def isBetween (least most : Nat) (digits : Text) : Bool :=
  least ≤ digits.length && digits.length ≤ most

/-- The number that follows a number sign, in base ten or sixteen, with at most as many
digits as given for each. -/
def number? (mostDecimal mostHex : Nat) (body : Text) : Option Nat :=
  match body with
  | x :: digits =>
    if x = 'x' || x = 'X' then
      if isBetween 1 mostHex digits && digits.all Text.isHexDigit then some (ofHex digits) else none
    else if isBetween 1 mostDecimal body && body.all Text.isAsciiDigit then some (ofDecimal body)
    else none
  | [] => none

/-! ### In running text -/

/-- The entity at the beginning of a text: what it stands for, and its length. A number that
is no character stands for the replacement character. -/
def cut? (text : Text) : Option (Text × Nat) :=
  match text with
  | '&' :: '#' :: rest => do
    let body := rest.takeWhile Text.isAsciiAlphanumeric
    let code ← number? 7 6 body
    match rest.drop body.length with
    | ';' :: _ =>
      return ([if isCharacter code then Char.ofNat code else '\ufffd'], body.length + 3)
    | _ => none
  | '&' :: rest => do
    let name := rest.takeWhile Text.isAsciiAlphanumeric
    match rest.drop name.length with
    | ';' :: _ => return (← named? name, name.length + 2)
    | _ => none
  | _ => none

/-! ### In addresses and titles -/

/-- What an entity in an address or a title stands for; a number that is no character is no
entity there. -/
def plain? (body : Text) : Option Text :=
  match body with
  | '#' :: digits =>
    match number? 8 8 digits with
    | some code => if isCharacter code then some [Char.ofNat code] else none
    | none => none
  | name => named? name

/-- The body of an entity between its ampersand and its semicolon. -/
def body? (rest : Text) : Option Text :=
  match rest with
  | first :: more =>
    if first = '#' || Text.isAsciiLetter first then
      let others := more.takeWhile Text.isAsciiAlphanumeric
      match more.drop others.length with
      | ';' :: _ => if isBetween 1 31 others then some (first :: others) else none
      | _ => none
    else none
  | [] => none

/-- Text with its escapes and entities decoded; `skip` characters have been decoded already. -/
def decodeFrom : (skip : Nat) → Text → Text
  | _, [] => []
  | skip + 1, _ :: rest => decodeFrom skip rest
  | 0, '\\' :: c :: rest =>
    if isAsciiPunctuation c then c :: decodeFrom 1 (c :: rest)
    else '\\' :: decodeFrom 0 (c :: rest)
  | 0, c :: rest =>
    match if c = '&' then body? rest else none with
    | some body =>
      match plain? body with
      | some characters => characters ++ decodeFrom (body.length + 1) rest
      | none => '&' :: body ++ ";" ++ decodeFrom (body.length + 1) rest
    | none => c :: decodeFrom 0 rest

def decode (text : Text) : Text := decodeFrom 0 text

end Entity

end CampaignPress.Markdown
