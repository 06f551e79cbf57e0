/-
This file puts HTML of its own in place of some tokens of a text: fences in a
reserved language, and inline code that is a directive.
-/
import CampaignPress.Mechanics.Inline
import CampaignPress.Query.Table
import CampaignPress.Site

namespace CampaignPress

namespace Page

open Markdown (Token)

/-! ### Fences -/

/-- Languages whose fences leave a place for the head of the note to fill. -/
def placeLanguages : List Text :=
  ["iron-vault-track", "iron-vault-character-meters", "iron-vault-character-assets",
    "iron-vault-character-impacts", "iron-vault-character-special-tracks"]

def placeHtml (language : Text) : Html := Html.classed "div" (language ++ "-placeholder") []

/-- The language of a fence, up to the first space of what follows its marks. -/
def languageOf (info : Text) : Text := (Text.trim info).takeWhile (· ≠ ' ')

/-- What a fence is shown as, if there is room for that on the stack. -/
def ifRoom (site : Site) (language source : Text) (html : Except Fault Html) : Except Fault Html :=
  if site.stack.shows language source then html else .error .tooDeep

/-- The HTML of a fence, if its language is reserved. -/
def fenceHtml? (site : Site) (language source : Text) : Option (Except Fault Html) :=
  if language = Mechanics.language then
    some (ifRoom site language source (Mechanics.blockHtml site.base site.index source))
  else if language = Query.language then
    some (ifRoom site language source (Query.blockHtml site.base site.notes source))
  else if placeLanguages.elem language then some (.ok (placeHtml language))
  else none

/-- A fence without the blanks at its end, or the HTML that takes its place. -/
def substituteFence (site : Site) (token : Token) : Except Fault Token :=
  let token := { token with content := Text.trimEnd token.content }
  match fenceHtml? site (languageOf token.info) token.content with
  | none => .ok token
  | some html => html.map fun html =>
    { kind := .htmlBlock, content := html.write ++ "\n", block := true }

/-! ### Directives -/

/-- Code with the mark of directives is shown as one, unless it is none after all. -/
def substituteCode (site : Site) (token : Token) : Except Fault Token :=
  if token.kind = .code && Text.startsWith token.content Directive.mark then
    match Directive.renderCode? site token.content with
    | none => .ok token
    | some html => html.map fun html => { kind := .htmlInline, content := html.write }
  else .ok token

/-! ### Tokens -/

def substituteToken (site : Site) (token : Token) : Except Fault Token :=
  match token.kind, token.children with
  | .fence, _ => substituteFence site token
  | .inline, some children => do
    return { token with children := some (← children.mapM (substituteCode site)) }
  | _, _ => .ok token

/-- Every token stands for itself or is replaced where it stands. -/
def substitute (site : Site) (tokens : List Token) : Except Fault (List Token) :=
  tokens.mapM (substituteToken site)

end Page

end CampaignPress
