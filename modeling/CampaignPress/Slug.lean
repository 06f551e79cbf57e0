/-
This file turns names and paths into slugs, the addresses of pages on the site.
A slug is a path of segments in small ASCII letters, digits and underscores,
with single hyphens between words.
-/
import CampaignPress.Path
import CampaignPress.Text.Case
import CampaignPress.Text.Class
import CampaignPress.Text.Fold

namespace CampaignPress

namespace Slug

/-- The characters of a word in a slug. -/
def isKept (c : Char) : Bool := Text.isAsciiAlphanumeric c || c = '_'

def small (c : Char) : Char :=
  if 'A' ≤ c && c ≤ 'Z' then Char.ofNat (c.toNat + 32) else c

/-- The words of a name in plain small letters, joined by hyphens. -/
def segment (name : Text) : Text :=
  let words := (Text.splitWhere (fun c => !isKept c) (Text.plain name)).filter (!·.isEmpty)
  (Text.join "-" words).map small

/-- Paths of a vault may use either slash. -/
def forward (path : Text) : Text := Text.replaceChar '\\' '/' path

/-- A path or name without the ending of a note, in either case. -/
def dropNoteEnding (path : Text) : Text :=
  if Text.endsWith (Text.lower path) ".md" then path.take (path.length - 3) else path

/-- The slug of a path in the vault, or of the bare name of a note. -/
def ofPath (path : Text) : Text :=
  let inner := Text.dropEnds (· == '/') (Text.trim (forward path))
  let segments := (Text.splitOn '/' (dropNoteEnding inner)).map segment
  Text.join "/" (segments.filter (!·.isEmpty))

/-- The name of the file at a path, without the ending of a note. -/
def stem (path : Text) : Text := dropNoteEnding (Path.ofText (forward path)).name

end Slug

end CampaignPress
