/-
This file rewrites wiki links in prose: image embeds become images, note embeds
boxes with a link, and other wiki links markdown links.
-/
import CampaignPress.Link
import CampaignPress.Site
import CampaignPress.WikiLink

namespace CampaignPress

namespace Prose

/-! ### Scanning -/

/-- A text as it is read for links: plain characters and links. -/
inductive Piece where
  | plain (c : Char)
  | link (link : WikiLink)
  deriving DecidableEq, Repr

/-- An embed is a wiki link with an exclamation mark before it. -/
def cutEmbed? : Text → Option (WikiLink × Text)
  | '!' :: rest => WikiLink.cut? rest
  | _ => none

/-- The links that a cutter finds from left to right; `room` bounds the characters left. -/
def scanFrom (cut? : Text → Option (WikiLink × Text)) : (room : Nat) → Text → List Piece
  | 0, _ => []
  | _, [] => []
  | room + 1, c :: rest =>
    match cut? (c :: rest) with
    | some (link, after) => .link link :: scanFrom cut? room after
    | none => .plain c :: scanFrom cut? room rest

def scan (cut? : Text → Option (WikiLink × Text)) (text : Text) : List Piece :=
  scanFrom cut? text.length text

/-- The text in which every link that a cutter finds is written anew. -/
def rewriteLinks (cut? : Text → Option (WikiLink × Text)) (write : WikiLink → Text)
    (text : Text) : Text :=
  (scan cut? text).flatMap fun
    | .plain c => [c]
    | .link link => write link

/-- The links that a cutter finds, in order. -/
def linksOf (cut? : Text → Option (WikiLink × Text)) (text : Text) : List WikiLink :=
  (scan cut? text).filterMap fun
    | .plain _ => none
    | .link link => some link

/-! ### Images -/

def imageEndings : List Text := ["png", "jpg", "jpeg", "gif", "svg", "webp"]

/-- Whether a target ends in one of the endings of images, in any case, after a dot that
does not come first. -/
def isImageName (target : Text) : Bool :=
  match Text.cutAtLast '.' target with
  | some (before, ending) =>
    !before.isEmpty && imageEndings.any fun known => Text.afterAnyCase? known ending = some []
  | none => false

def cutImage? (text : Text) : Option (WikiLink × Text) :=
  match cutEmbed? text with
  | some (link, after) => if isImageName link.target then some (link, after) else none
  | none => none

/-- The address of an image: the words of its name, and its ending in small letters. -/
def imageAddress (site : Site) (name : Text) : Text :=
  let path := Path.ofText name
  site.base ++ site.attachments ++ "/" ++ Slug.segment path.stem ++ Text.lower path.ending

def isSize (option : Text) : Bool := !option.isEmpty && option.all Text.isDigit

def isAlignment (option : Text) : Bool :=
  option = "center".toList || option = "left".toList || option = "right".toList

/-- The style of an image: a width, and margins if it is centred. -/
def imageStyle (options : List Text) : Text :=
  let size := match options.find? isSize with
    | some size => "width: " ++ size ++ "px;"
    | none => []
  if options.find? isAlignment = some "center" then
    size ++ "display: block; margin: 0 auto;"
  else size

/-- An image without options is markdown, one with options is HTML. -/
def writeImage (site : Site) (link : WikiLink) : Text :=
  let name := Text.trim link.target
  let stem := (Path.ofText name).stem
  let address := imageAddress site name
  match link.shown with
  | none => "![" ++ stem ++ "](" ++ address ++ ")"
  | some options =>
    let style := imageStyle ((Text.splitOn '|' options).map Text.trim)
    "<img src=\"" ++ Html.escape address ++ "\" alt=\"" ++ Html.escape stem ++
      "\" style=\"" ++ style ++ "\" />"

def rewriteImages (site : Site) (text : Text) : Text :=
  rewriteLinks cutImage? (writeImage site) text

/-! ### Notes -/

/-- A target in parts: the note, trimmed where a section follows, and the section. -/
structure Target where
  note : Text
  heading? : Option Text
  deriving DecidableEq, Repr

def Target.ofLink (link : WikiLink) : Target :=
  let target := Text.trim link.target
  match Text.cutAt '#' target with
  | some (note, name) => ⟨Text.trim note, some name⟩
  | none => ⟨target, none⟩

/-- The heading that a target names, empty if it names none. -/
def Target.heading (target : Target) : Text := target.heading?.getD []

/-- The slug of a target, empty for a section of the note itself. -/
def Target.slug (site : Site) (target : Target) : Text :=
  if target.note.isEmpty then []
  else (site.index.slug? target.note).getD (Slug.ofPath target.note)

/-- The note of a target that no note of the site answers to. -/
def Target.missing? (site : Site) (target : Target) : Option Text :=
  if target.note.isEmpty || (site.index.slug? target.note).isSome then none
  else some target.note

def writeEmbed (site : Site) (link : WikiLink) : Text :=
  let address := Link.address site.base ((Target.ofLink link).slug site)
  "<div class=\"embed-link\"><a href=\"" ++ Html.escape address ++ "\">" ++
    Html.escape (link.shown.getD (Text.trim link.target)) ++ "</a></div>"

/-- A link to a section of the note itself has the anchor alone as its address. -/
def writeLink (site : Site) (link : WikiLink) : Text :=
  let target := Target.ofLink link
  if target.note.isEmpty then
    "[" ++ link.shown.getD target.heading ++ "](#" ++ Slug.segment target.heading ++ ")"
  else
    let address := Link.address site.base (target.slug site)
    let anchor := if target.heading.isEmpty then [] else '#' :: Slug.segment target.heading
    "[" ++ link.shown.getD target.note ++ "](" ++ address ++ anchor ++ ")"

def missingOf (site : Site) (links : List WikiLink) : List Text :=
  links.filterMap fun link => (Target.ofLink link).missing? site

/-- Rewrites note embeds, then other wiki links, and lists the targets without a note. -/
def rewriteNotes (site : Site) (text : Text) : Text × List Text :=
  let embedded := rewriteLinks cutEmbed? (writeEmbed site) text
  (rewriteLinks WikiLink.cut? (writeLink site) embedded,
    missingOf site (linksOf cutEmbed? text) ++ missingOf site (linksOf WikiLink.cut? embedded))

/-- Rewrites images, then links to notes. -/
def rewriteAll (site : Site) (text : Text) : Text × List Text :=
  rewriteNotes site (rewriteImages site text)

end Prose

end CampaignPress
