/-
This file says what the pages of a site have in common: where they live, the
notes they link to, the icons they show, and what they are made with.
-/
import CampaignPress.Icon
import CampaignPress.Index
import CampaignPress.Markdown.Engine
import CampaignPress.Stack

namespace CampaignPress

structure Site where
  /-- The beginning of every address on the site. -/
  base : Text := []
  /-- The folder of the images below the base. -/
  attachments : Text := "/attachments"
  notes : List Note := []
  index : Index := .empty
  icons : IconTable := .standard
  engine : Markdown.Engine := .standard
  stack : Stack := .standard

namespace Site

/-- The site of a list of notes. The base loses its last slashes, and the folder of the
images has exactly one slash, before it. -/
def ofNotes (notes : List Note) (base attachments : Text) (icons : IconTable)
    (engine : Markdown.Engine := .standard) (stack : Stack := .standard) : Site where
  base := Text.dropEnd (· == '/') base
  attachments := '/' :: Text.dropEnds (· == '/') attachments
  notes := notes
  index := .ofNotes notes
  icons := icons
  engine := engine
  stack := stack

end Site

end CampaignPress
