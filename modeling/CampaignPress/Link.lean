/-
This file writes links to the pages of the site, as markdown and as HTML, and
strips a markdown link down to its text.
-/
import CampaignPress.Html

namespace CampaignPress

namespace Link

/-- The address of a page under the site's base. -/
def address (base slug : Text) : Text := Text.dropEnd (· == '/') base ++ "/" ++ slug

def markdown (base text slug : Text) : Text :=
  "[" ++ text ++ "](" ++ address base slug ++ ")"

/-- An anchor to a page; without a slug it leads nowhere. -/
def anchor (base classes text slug : Text) : Html :=
  let target := if slug.isEmpty then "#".toList else address base slug
  let marked := if classes.isEmpty then [] else [Html.Attribute.verbatim "class" classes]
  Html.element "a" (.escaped "href" target :: marked) [.text text]

/-! ### Stripping -/

/-- The text of a markdown link at the beginning of a text, and what follows the link.
The link's text holds no closing bracket, its target no closing parenthesis, and
neither is empty. -/
def cutMarkdown? : Text → Option (Text × Text)
  | '[' :: rest =>
    let text := rest.takeWhile (· ≠ ']')
    match text, rest.dropWhile (· ≠ ']') with
    | _ :: _, ']' :: '(' :: inner =>
      match inner.takeWhile (· ≠ ')'), inner.dropWhile (· ≠ ')') with
      | _ :: _, ')' :: after => some (text, after)
      | _, _ => none
    | _, _ => none
  | _ => none

/-- Every markdown link replaced by its text; `fuel` bounds the links and characters left. -/
def stripFrom : (fuel : Nat) → Text → Text
  | 0, text => text
  | _, [] => []
  | fuel + 1, c :: rest =>
    match cutMarkdown? (c :: rest) with
    | some (text, after) => text ++ stripFrom fuel after
    | none => c :: stripFrom fuel rest

/-- Every markdown link replaced by its text. -/
def strip (text : Text) : Text := stripFrom text.length text

end Link

end CampaignPress
