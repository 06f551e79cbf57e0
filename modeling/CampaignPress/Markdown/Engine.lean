/-
This file says what pages ask of a markdown engine: it reads a text into tokens,
and writes tokens as HTML. Which engine that is, is left open.
-/
import CampaignPress.Markdown.Document
import CampaignPress.Markdown.Writer

namespace CampaignPress.Markdown

structure Engine where
  tokensOf : Text → List Token
  write : List Token → Text

/-- The engine of this library. -/
def Engine.standard : Engine := ⟨Markdown.tokensOf, Markdown.write⟩

end CampaignPress.Markdown
