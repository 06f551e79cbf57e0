/-
This file writes tokens as HTML. Running text stands inside its block; every
other block tag has a line of its own.
-/
import CampaignPress.Html
import CampaignPress.Markdown.Entity
import CampaignPress.Markdown.Token

namespace CampaignPress.Markdown

namespace Writer

/-! ### Tags -/

def attributes (list : List (Text × Text)) : Text :=
  list.flatMap fun (name, value) => ' ' :: Html.escape name ++ "=\"" ++ Html.escape value ++ "\""

def openEnd (token : Token) : Text := if token.nesting = .stands then " /" else []

/-- A tag, without the line breaks around it. -/
def tag (token : Token) : Text :=
  (if token.nesting = .closes then "</" else "<") ++ token.tag ++ attributes token.attributes ++
    openEnd token ++ ">"

/-- Whether a line break follows a block tag: not before running text, nor in an empty
element. -/
def breaksAfter (token : Token) (next : Option Token) : Bool :=
  token.block &&
    match token.nesting, next with
    | .opens, some next =>
      !(next.kind = .inline || next.hidden || (next.nesting = .closes && next.tag = token.tag))
    | _, _ => true

/-- A tag among blocks. A hidden paragraph before an opening tag ends its line. -/
def blockTag (afterHidden : Bool) (token : Token) (next : Option Token) : Text :=
  if token.hidden then []
  else
    (if token.block && token.nesting ≠ .closes && afterHidden then ['\n'] else []) ++ tag token ++
      (if breaksAfter token next then ['\n'] else [])

/-! ### Code -/

def codeBlock (attributed content : Text) : Text :=
  "<pre><code" ++ attributed ++ ">" ++ Html.escape content ++ "</code></pre>\n"

/-- The first word after a fence names the language. -/
def fence (token : Token) : Text :=
  match words (Entity.decode token.info) with
  | [] => codeBlock (attributes token.attributes) token.content
  | language :: _ =>
    let named : Text × Text := ("class", "language-" ++ language)
    codeBlock (attributes (token.attributes ++ [named])) token.content

/-! ### Footnotes -/

def noteName (mark : NoteMark) : Text := Nat.toDigits 10 (mark.number + 1)

/-- The name of a mention; the first one has the name of its note. -/
def mentionName (mark : NoteMark) : Text :=
  noteName mark ++ if mark.mention = 0 then [] else ':' :: Nat.toDigits 10 mark.mention

def noteReference (mark : NoteMark) : Text :=
  "<sup class=\"footnote-ref\"><a href=\"#fn" ++ noteName mark ++ "\" id=\"fnref" ++
    mentionName mark ++ "\">[" ++ mentionName mark ++ "]</a></sup>"

def noteAnchor (mark : NoteMark) : Text :=
  " <a href=\"#fnref" ++ mentionName mark ++ "\" class=\"footnote-backref\">\u21a9\ufe0e</a>"

def note (token : Token) : Text :=
  if token.nesting = .closes then "</li>\n"
  else "<li id=\"fn" ++ noteName token.mark ++ "\" class=\"footnote-item\">"

def noteList (nesting : Nesting) : Text :=
  if nesting = .closes then "</ol>\n</section>\n"
  else
    "<hr class=\"footnotes-sep\" />\n<section class=\"footnotes\">\n<ol class=\"footnotes-list\">\n"

/-! ### Running text -/

mutual

/-- What a token adds to the description of an image: its text without the tags around it. -/
def description : Token → Text
  | { kind, content, children, .. } =>
    match kind with
    | .text => content
    | .special => content
    | .code => content
    | .htmlInline => content
    | .softBreak => "\n"
    | .hardBreak => "\n"
    | .image => descriptionOf children
    | _ => []

def descriptionOf : Option (List Token) → Text
  | none => []
  | some tokens => descriptions tokens

def descriptions : List Token → Text
  | [] => []
  | token :: tokens => description token ++ descriptions tokens

end

def image (token : Token) : Text :=
  tag (token.setAttribute "alt" (descriptionOf token.children))

/-- A token inside a line. -/
def inline (token : Token) : Text :=
  match token.kind with
  | .text => Html.escape token.content
  | .special => Html.escape token.content
  | .softBreak => "\n"
  | .hardBreak => "<br />\n"
  | .code => "<code" ++ attributes token.attributes ++ ">" ++ Html.escape token.content ++ "</code>"
  | .htmlInline => token.content
  | .image => image token
  | .noteReference => noteReference token.mark
  | _ => tag token

def line (token : Token) : Text := (token.children.getD []).flatMap inline

/-! ### Blocks -/

/-- A token among blocks, with the one after it. -/
def block (afterHidden : Bool) (token : Token) (next : Option Token) : Text :=
  match token.kind with
  | .inline => line token
  | .codeBlock => codeBlock (attributes token.attributes) token.content
  | .fence => fence token
  | .htmlBlock => token.content
  | .noteAnchor => noteAnchor token.mark
  | .noteList => noteList token.nesting
  | .note => note token
  | _ => blockTag afterHidden token next

def blocks : (afterHidden : Bool) → List Token → Text
  | _, [] => []
  | afterHidden, token :: rest =>
    block afterHidden token rest.head? ++ blocks token.hidden rest

end Writer

/-- The HTML of a list of tokens. -/
def write (tokens : List Token) : Text := Writer.blocks false tokens

end CampaignPress.Markdown
