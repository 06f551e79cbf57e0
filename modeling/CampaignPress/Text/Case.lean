/-
This file writes a text in small or in capital letters. Every character is
mapped on its own but for the capital sigma, whose small form depends on
whether it ends a word.
-/
import CampaignPress.Text.Class
import CampaignPress.Text.CaseTable

namespace CampaignPress.Text

/-! ### Single characters -/

def spelled? (code : Nat) (table : List (Nat × List Nat)) : Option Text :=
  (table.find? (·.1 = code)).map fun entry => entry.2.map Char.ofNat

/-- The small form of a character that stands alone. -/
def lowerChar (c : Char) : Text :=
  if c.toNat < 128 then
    if 'A' ≤ c && c ≤ 'Z' then [Char.ofNat (c.toNat + 32)] else [c]
  else match spelled? c.toNat lowerSpelled with
    | some spelling => spelling
    | none => [((CaseRun.partner? c.toNat lowerRuns).map Char.ofNat).getD c]

/-- The capital form of a character. -/
def upperChar (c : Char) : Text :=
  if c.toNat < 128 then
    if 'a' ≤ c && c ≤ 'z' then [Char.ofNat (c.toNat - 32)] else [c]
  else match spelled? c.toNat upperSpelled with
    | some spelling => spelling
    | none => [((CaseRun.partner? c.toNat upperRuns).map Char.ofNat).getD c]

/-! ### Texts -/

/-- Whether the nearest character that is not passed over is a letter with a case. -/
def meetsCased (text : Text) : Bool :=
  match text.dropWhile fun c => inRanges c.toNat caseIgnorableRanges with
  | [] => false
  | c :: _ => inRanges c.toNat casedRanges

/-- A sigma that follows a cased letter, and that none follows, ends a word. -/
def lowerFrom : (passed : Text) → Text → Text
  | _, [] => []
  | passed, c :: rest =>
    let small :=
      if c = 'Σ' then
        if meetsCased passed && !meetsCased rest then ['ς'] else ['σ']
      else lowerChar c
    small ++ lowerFrom (c :: passed) rest

def lower (text : Text) : Text := lowerFrom [] text

def upper (text : Text) : Text := text.flatMap upperChar

/-! ### Matching without regard to case -/

/-- Whether a character counts as a given small ASCII letter when case is ignored. -/
def isLetterAnyCase (letter c : Char) : Bool :=
  c = letter || c.toNat + 32 = letter.toNat || (letter = 's' && c = 'ſ') ||
    (letter = 'i' && (c = 'İ' || c = 'ı')) || (letter = 'k' && c.toNat = 8490)

/-- The rest of a text after a given beginning of small ASCII letters, case ignored. -/
def afterAnyCase? : (beginning : Text) → Text → Option Text
  | [], text => some text
  | _ :: _, [] => none
  | b :: beginning, c :: text =>
    if isLetterAnyCase b c then afterAnyCase? beginning text else none

end CampaignPress.Text
