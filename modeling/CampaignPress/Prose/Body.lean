/-
This file prepares the text of a note for the markdown reader: the head is cut
off, fences are set apart, callouts converted and links rewritten.
-/
import CampaignPress.Prose.Callout
import CampaignPress.Prose.CodeSpan
import CampaignPress.Prose.Embed

namespace CampaignPress

namespace Prose

/-! ### The head of a note -/

/-- The line that ends the head of a note. -/
def headEnd : Text := "---\n"

/-- The head and the body of a note that begins with three dashes. The head stands between
the first two places where dashes end a line. -/
def cutHead? (text : Text) : Option (Text × Text) := do
  guard (Text.startsWith text "---")
  let (_, rest) ← Text.cutAtText headEnd text
  Text.cutAtText headEnd rest

/-- The text without its head. A note without a head keeps even its line breaks. -/
def bodyOf (text : Text) : Text :=
  match cutHead? (Text.joinBreaks text) with
  | some (_, body) => body
  | none => text

/-! ### Preparation -/

/-- A line break with a fence of backticks under it. -/
def fenceBelow : Text := "\n```"

/-- Puts a blank line between a line of text and a fence of backticks under it. The fence is
passed over, so a fence just below it stays where it is. -/
def separateFences : Text → Text
  | [] => []
  | c :: rest =>
    if c = '\n' then c :: separateFences rest
    else match _found : Text.after? fenceBelow rest with
      | some after => c :: '\n' :: fenceBelow ++ separateFences after
      | none => c :: separateFences rest
termination_by text => text.length
decreasing_by
  · simp
  · have := Text.length_after? _found
    simp only [List.length_cons]
    omega
  · simp

def prepare (text : Text) : Text := separateFences (Text.normalizeBreaks text)

/-- The text as the markdown reader gets it, and the targets of links without a note. -/
def rewrite (site : Site) (text : Text) : Except Fault (Text × List Text) :=
  map (rewriteAll site) (Callout.convert site.icons (prepare text))

end Prose

end CampaignPress
