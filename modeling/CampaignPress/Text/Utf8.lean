/-
This file reads and writes texts as bytes in UTF-8. Bytes that write no text
have a flaw, which says where the first unreadable character begins.
-/
import CampaignPress.Text.Quoted

namespace CampaignPress

namespace Text

/-! ### Writing -/

def utf8 (text : Text) : List UInt8 := text.flatMap String.utf8EncodeChar

/-! ### Reading -/

structure Utf8Flaw where
  cause : Text
  /-- The first byte of the character. -/
  lead : UInt8
  /-- The number of bytes before the character. -/
  start : Nat
  /-- The number of its bytes up to the flaw. -/
  width : Nat
  deriving DecidableEq, Repr

def Utf8Flaw.message (flaw : Utf8Flaw) : Text :=
  let number (n : Nat) : Text := Nat.toDigits 10 n
  let place : Text :=
    if flaw.width = 1 then
      " byte 0x" ++ hexPadded 2 flaw.lead.toNat ++ " in position " ++ number flaw.start
    else
      " bytes in position " ++ number flaw.start ++ "-" ++ number (flaw.start + flaw.width - 1)
  "\x27utf-8\x27 codec can\x27t decode" ++ place ++ ": " ++ flaw.cause

/-- What the first byte of a character says: its own part of the code, the number of bytes
that follow, and the bounds of the first of these. -/
structure Utf8Lead where
  code : Nat
  more : Nat
  low : Nat := 0x80
  high : Nat := 0xBF

/-- The bounds leave out codes that have a shorter form, and those beyond the last character. -/
def utf8Lead? (byte : Nat) : Option Utf8Lead :=
  if byte < 0x80 then some { code := byte, more := 0 }
  else if byte < 0xC2 then none
  else if byte < 0xE0 then some { code := byte - 0xC0, more := 1 }
  else if byte = 0xE0 then some { code := 0, more := 2, low := 0xA0 }
  else if byte = 0xED then some { code := 0xD, more := 2, high := 0x9F }
  else if byte < 0xF0 then some { code := byte - 0xE0, more := 2 }
  else if byte = 0xF0 then some { code := 0, more := 3, low := 0x90 }
  else if byte < 0xF4 then some { code := byte - 0xF0, more := 3 }
  else if byte = 0xF4 then some { code := 4, more := 3, high := 0x8F }
  else none

/-- The code that the bytes after the first one complete, with what follows them; else a cause
and the number of bytes that were good. -/
def utf8Follow (low high code taken : Nat) :
    (more : Nat) → List UInt8 → Except (Text × Nat) (Nat × List UInt8)
  | 0, bytes => .ok (code, bytes)
  | _ + 1, [] => .error ("unexpected end of data".toList, taken)
  | more + 1, byte :: bytes =>
    if low ≤ byte.toNat && byte.toNat ≤ high then
      utf8Follow 0x80 0xBF (code * 64 + (byte.toNat - 0x80)) (taken + 1) more bytes
    else .error ("invalid continuation byte".toList, taken)

theorem length_utf8Follow {low high code taken more : Nat} {bytes : List UInt8}
    {result : Nat × List UInt8}
    (found : utf8Follow low high code taken more bytes = .ok result) :
    result.2.length ≤ bytes.length := by
  induction more generalizing low high code taken bytes with
  | zero =>
    simp only [utf8Follow, Except.ok.injEq] at found
    subst found
    exact Nat.le_refl _
  | succ more further =>
    match bytes with
    | [] => simp [utf8Follow] at found
    | byte :: bytes =>
      simp only [utf8Follow] at found
      split at found
      · exact Nat.le_succ_of_le (further found)
      · cases found

/-- The text that bytes write, behind a number of bytes. -/
def ofUtf8From (start : Nat) : List UInt8 → Except Utf8Flaw Text
  | [] => .ok []
  | lead :: bytes =>
    match utf8Lead? lead.toNat with
    | none => .error ⟨"invalid start byte", lead, start, 1⟩
    | some first =>
      match _found : utf8Follow first.low first.high first.code 1 first.more bytes with
      | .error (cause, width) => .error ⟨cause, lead, start, width⟩
      | .ok (code, rest) =>
        match ofUtf8From (start + (first.more + 1)) rest with
        | .ok text => .ok (Char.ofNat code :: text)
        | .error flaw => .error flaw
termination_by bytes => bytes.length
decreasing_by
  have shorter : rest.length ≤ bytes.length := length_utf8Follow _found
  simp only [List.length_cons]
  omega

def ofUtf8 (bytes : List UInt8) : Except Utf8Flaw Text := ofUtf8From 0 bytes

end Text

end CampaignPress
