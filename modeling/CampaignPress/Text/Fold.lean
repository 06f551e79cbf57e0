/-
This file reduces text to plain ASCII: a character beyond ASCII is taken apart
by compatibility, and what is not ASCII is dropped.
-/
import CampaignPress.Text.Basic
import CampaignPress.Text.FoldTable

namespace CampaignPress.Text

def isAscii (c : Char) : Bool := c.toNat < 128

/-- The ASCII characters that are left of a character, in order. -/
def plainForm (c : Char) : Text :=
  if isAscii c then [c]
  else match plainRuns.find? fun run => run.1 ≤ c.toNat && c.toNat < run.1 + run.2.1 with
    | none => []
    | some (first, _, forms) => ((lines forms)[c.toNat - first]?.getD []).filter isAscii

def plain (text : Text) : Text := text.flatMap plainForm

theorem plain_eq_self {text : Text} (ascii : ∀ c ∈ text, isAscii c = true) :
    plain text = text := by
  induction text with
  | nil => rfl
  | cons c rest inductionHypothesis =>
    have head : plainForm c = [c] := by simp [plainForm, ascii c List.mem_cons_self]
    have tail := inductionHypothesis fun d member => ascii d (List.mem_cons_of_mem _ member)
    unfold plain at tail ⊢
    rw [List.flatMap_cons, head, tail]
    rfl

end CampaignPress.Text
