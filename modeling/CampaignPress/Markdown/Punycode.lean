/-
This file writes the labels of host names in ASCII and reads them back, by the
punycode scheme: the plain characters come first, and the places and code points
of the others follow as numbers of variable length.
-/
import CampaignPress.Text.Class

namespace CampaignPress.Markdown

namespace Punycode

def base : Nat := 36

/-- How the next step between numbers is estimated. -/
def adapt (delta points : Nat) (isFirst : Bool) : Nat :=
  let delta := if isFirst then delta / 700 else delta / 2
  let delta := delta + delta / points
  let rec shrink : Nat → Nat → Nat → Nat
    | 0, delta, k => k + 36 * delta / (delta + 38)
    | room + 1, delta, k =>
      if 455 < delta then shrink room (delta / 35) (k + base)
      else k + 36 * delta / (delta + 38)
  shrink delta delta 0

def threshold (k bias : Nat) : Nat :=
  if k ≤ bias + 1 then 1 else if bias + 26 ≤ k then 26 else k - bias

def digit (value : Nat) : Char :=
  if value < 26 then Char.ofNat (97 + value) else Char.ofNat (22 + value)

/-- A number in digits of growing weight; `room` bounds their count. -/
def writeNumber (bias : Nat) : (room number k : Nat) → Text
  | 0, _, _ => []
  | room + 1, number, k =>
    let t := threshold k bias
    if number < t then [digit number]
    else
      digit (t + (number - t) % (base - t)) ::
        writeNumber bias room ((number - t) / (base - t)) (k + base)

structure Encoder where
  delta : Nat
  bias : Nat
  handled : Nat
  written : Text

/-- Writes the places of one code point. -/
def Encoder.step (plain : Nat) (code : Nat) (encoder : Encoder) (c : Char) : Encoder :=
  if c.toNat < code then { encoder with delta := encoder.delta + 1 }
  else if c.toNat = code then
    { delta := 0
      bias := adapt encoder.delta (encoder.handled + 1) (encoder.handled = plain)
      handled := encoder.handled + 1
      written := encoder.written ++ writeNumber encoder.bias 64 encoder.delta base }
  else encoder

/-- Writes the remaining code points from the smallest on; `room` bounds their count. -/
def encodeFrom (label : Text) (plain : Nat) : (room code : Nat) → Encoder → Text
  | 0, _, encoder => encoder.written
  | room + 1, code, encoder =>
    match ((label.map Char.toNat).filter (code ≤ ·)).min? with
    | none => encoder.written
    | some next =>
      let started := { encoder with
        delta := encoder.delta + (next - code) * (encoder.handled + 1) }
      let done := label.foldl (Encoder.step plain next) started
      encodeFrom label plain room (next + 1) { done with delta := done.delta + 1 }

def encode (label : Text) : Text :=
  let plain := label.filter fun c => c.toNat < 128
  let start : Text := if plain.isEmpty then [] else plain ++ "-"
  encodeFrom label plain.length label.length 128 ⟨0, 72, plain.length, start⟩

/-! ### Reading -/

def digitValue? (c : Char) : Option Nat :=
  if 'a' ≤ c && c ≤ 'z' then some (c.toNat - 97)
  else if 'A' ≤ c && c ≤ 'Z' then some (c.toNat - 65)
  else if Text.isAsciiDigit c then some (c.toNat - 22)
  else none

/-- The number at the beginning of a text, and what follows it. -/
def readNumber? (bias : Nat) : (number weight k : Nat) → Text → Option (Nat × Text)
  | _, _, _, [] => none
  | number, weight, k, c :: rest => do
    let value ← digitValue? c
    let t := threshold k bias
    let number := number + value * weight
    if value < t then return (number, rest)
    else readNumber? bias number (weight * (base - t)) (k + base) rest

/-- Puts the remaining code points in their places; `room` bounds their count. -/
def decodeFrom? : (room bias code place : Nat) → (isFirst : Bool) → (read : Text) → Text →
    Option Text
  | _, _, _, _, _, read, [] => some read
  | 0, _, _, _, _, _, _ => none
  | room + 1, bias, code, place, isFirst, read, text => do
    let (number, rest) ← readNumber? bias 0 1 base text
    let total := place + number
    let points := read.length + 1
    let code := code + total / points
    guard (code < 0xD800 || (0xDFFF < code && code ≤ 0x10FFFF))
    let place := total % points
    let read := read.take place ++ Char.ofNat code :: read.drop place
    decodeFrom? room (adapt number points isFirst) code (place + 1) false read rest

def decode? (label : Text) : Option Text := do
  let (plain, rest) := (Text.cutAtLast '-' label).getD ([], label)
  guard (plain.all fun c => c.toNat < 128)
  decodeFrom? rest.length 72 128 0 true plain rest

end Punycode

end CampaignPress.Markdown
