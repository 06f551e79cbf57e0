/-
This file turns the text of a note into the HTML of its page.
-/
import CampaignPress.Page.Substitution
import CampaignPress.Prose.Body

namespace CampaignPress

structure Page where
  html : Text
  /-- The targets of links that no note answers to, with repeats. -/
  missing : List Text
  deriving DecidableEq, Repr

namespace Page

/-- The page of a text without its head. -/
def ofText (site : Site) (text : Text) : Except Fault Page := do
  let (rewritten, missing) ← Prose.rewrite site text
  let tokens ← substitute site (site.engine.tokensOf rewritten)
  return { html := site.engine.write tokens, missing }

end Page

end CampaignPress
