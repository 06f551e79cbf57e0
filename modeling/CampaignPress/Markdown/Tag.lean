/-
This file recognises the tags of raw HTML: each reader takes a construct off the
beginning of a text and gives what follows it.
-/
import CampaignPress.Markdown.Character

namespace CampaignPress.Markdown

namespace Tag

/-! ### Parts of tags -/

def isNameChar (c : Char) : Bool := Text.isAsciiAlphanumeric c || c = '-'

/-- What follows the name of a tag. -/
def afterName? : Text → Option Text
  | c :: rest => if Text.isAsciiLetter c then some (rest.dropWhile isNameChar) else none
  | [] => none

def beginsAttribute (c : Char) : Bool := Text.isAsciiLetter c || c = '_' || c = ':'

def isAttributeChar (c : Char) : Bool :=
  Text.isAsciiAlphanumeric c || c = ':' || c = '.' || c = '_' || c = '-'

def isUnquoted (c : Char) : Bool := 32 < c.toNat && !("\"'=<>\x60".toList.elem c)

/-- What follows a quoted text whose opening quote stands just before. -/
def afterQuote? (quote : Char) (text : Text) : Option Text :=
  match text.dropWhile (· ≠ quote) with
  | _ :: rest => some rest
  | [] => none

/-- The length of a beginning without the characters at its end that fail a test. -/
def lengthUpTo (holds : Char → Bool) (text : Text) : Nat :=
  (Text.dropEnd (!holds ·) text).length

/-- What follows an unquoted value with the blanks before it. A blank beyond ASCII may belong to
the value; but before an equals sign the last blank parts the value from the next name. -/
def afterUnquoted? (text : Text) : Option Text :=
  let blanks := text.takeWhile isBlank
  let run := blanks ++ (text.drop blanks.length).takeWhile isUnquoted
  let namesNext := (trimStart (text.drop run.length)).head? = some '='
  let value := if namesNext then run.take (lengthUpTo isBlank run - 1) else run
  let length := lengthUpTo isUnquoted value
  if length = 0 then none else some (text.drop length)

/-- What follows the value of an attribute with the blanks before it. -/
def afterValue? (text : Text) : Option Text :=
  match trimStart text with
  | '"' :: rest => afterQuote? '"' rest
  | '\x27' :: rest => afterQuote? '\x27' rest
  | _ => afterUnquoted? text

/-- What follows an attribute with the blanks before it. -/
def afterAttribute? (text : Text) : Option Text :=
  match text, trimStart text with
  | first :: _, c :: rest =>
    if isBlank first && beginsAttribute c then
      let rest := rest.dropWhile isAttributeChar
      match trimStart rest with
      | '=' :: value => some ((afterValue? value).getD rest)
      | _ => some rest
    else none
  | _, _ => none

/-- What follows the attributes; `room` bounds their count. -/
def afterAttributes : (room : Nat) → Text → Text
  | 0, text => text
  | room + 1, text =>
    match afterAttribute? text with
    | some rest => afterAttributes room rest
    | none => text

/-! ### Tags -/

/-- What follows an opening tag. -/
def afterOpening? (text : Text) : Option Text := do
  let rest ← Text.after? "<" text
  let rest ← afterName? rest
  let rest := trimStart (afterAttributes rest.length rest)
  Text.after? ">" ((Text.after? "/" rest).getD rest)

def afterClosing? (text : Text) : Option Text := do
  let rest ← Text.after? "</" text
  let rest ← afterName? rest
  Text.after? ">" (trimStart rest)

/-! ### Other constructs -/

/-- What follows the first place where a text occurs. -/
def afterFirst? (ending text : Text) : Option Text := (Text.cutAtText ending text).map (·.2)

/-- What follows the body of a comment; `skip` characters have been passed already. Two
hyphens end it only together with a bracket. -/
def afterCommentBody? : (skip : Nat) → Text → Option Text
  | _, [] => none
  | skip + 1, _ :: rest => afterCommentBody? skip rest
  | 0, '-' :: '-' :: '>' :: rest => some rest
  | 0, '-' :: '-' :: c :: rest => afterCommentBody? 2 ('-' :: c :: rest)
  | 0, '-' :: c :: rest => if c = '-' then none else afterCommentBody? 1 (c :: rest)
  | 0, '-' :: [] => none
  | 0, _ :: rest => afterCommentBody? 0 rest

def afterComment? (text : Text) : Option Text :=
  (Text.after? "<!-->" text).or <| (Text.after? "<!--->" text).or <|
    (Text.after? "<!--" text).bind (afterCommentBody? 0)

def afterInstruction? (text : Text) : Option Text := (Text.after? "<?" text).bind (afterFirst? "?>")

def afterDeclaration? (text : Text) : Option Text := do
  match ← Text.after? "<!" text with
  | c :: rest => if Text.isAsciiLetter c then afterFirst? ">" rest else none
  | [] => none

def afterData? (text : Text) : Option Text :=
  (Text.after? "<![CDATA[" text).bind (afterFirst? "]]>")

/-- What follows any construct of HTML. -/
def afterAny? (text : Text) : Option Text :=
  (afterOpening? text).or <| (afterClosing? text).or <| (afterComment? text).or <|
    (afterInstruction? text).or <| (afterDeclaration? text).or (afterData? text)

/-! ### Blocks -/

/-- How the lines of an HTML block begin and end. -/
inductive Region where
  /-- Text kept as it is, up to the closing tag of one of the same elements. -/
  | literal
  | comment
  | instruction
  | declaration
  | data
  /-- A block tag, up to a blank line. -/
  | block
  /-- A line with any single tag, up to a blank line. -/
  | single
  deriving DecidableEq, Repr

def literalNames : List Text := ["script", "pre", "style", "textarea"]

def blockNames : List Text :=
  List.map String.toList [
    "address", "article", "aside", "base", "basefont", "blockquote", "body", "caption",
    "center", "col", "colgroup", "dd", "details", "dialog", "dir", "div", "dl", "dt",
    "fieldset", "figcaption", "figure", "footer", "form", "frame", "frameset", "h1", "h2",
    "h3", "h4", "h5", "h6", "head", "header", "hr", "html", "iframe", "legend", "li", "link",
    "main", "menu", "menuitem", "nav", "noframes", "ol", "optgroup", "option", "p", "param",
    "search", "section", "summary", "table", "tbody", "td", "tfoot", "th", "thead", "title",
    "tr", "track", "ul"]

/-- What follows a name whose ASCII letters stand in either case. -/
def afterNamed? : (name : Text) → Text → Option Text
  | [], text => some text
  | _ :: _, [] => none
  | n :: name, c :: text =>
    if c.toLower = n then afterNamed? name text else none

/-- Whether a name of a list is followed by its end. -/
def namesOne (names : List Text) (isEnd : Text → Bool) (text : Text) : Bool :=
  names.any fun name => (afterNamed? name text).any isEnd

def endsLiteral : Text → Bool
  | [] => true
  | c :: _ => isBlank c || c = '>'

def endsBlock : Text → Bool
  | '/' :: '>' :: _ => true
  | text => endsLiteral text

/-- The kind of HTML block that a line begins. -/
def regionOf? (line : Text) : Option Region :=
  let afterBracket := line.drop 1
  let afterSlash := (Text.after? "/" afterBracket).getD afterBracket
  if namesOne literalNames endsLiteral afterBracket then some .literal
  else if Text.startsWith line "<!--" then some .comment
  else if Text.startsWith line "<?" then some .instruction
  else if Text.startsWith line "<!" && (line.drop 2).head?.any Text.isAsciiLetter then
    some .declaration
  else if Text.startsWith line "<![CDATA[" then some .data
  else if namesOne blockNames endsBlock afterSlash then some .block
  else if ((afterOpening? line).or (afterClosing? line)).any isBlankText then some .single
  else none

def endsElement (text : Text) : Bool := Text.startsWith text ">"

/-- Whether a line holds the closing tag of a literal element. -/
def closesLiteral : Text → Bool
  | [] => false
  | c :: rest =>
    (match Text.after? "</" (c :: rest) with
      | some name => namesOne literalNames endsElement name
      | none => false) || closesLiteral rest

/-- Whether a line ends an HTML block. -/
def Region.endsAt (region : Region) (line : Text) : Bool :=
  match region with
  | .literal => closesLiteral line
  | .comment => Text.contains "-->" line
  | .instruction => Text.contains "?>" line
  | .declaration => Text.contains ">" line
  | .data => Text.contains "]]>" line
  | .block => line.isEmpty
  | .single => line.isEmpty

end Tag

end CampaignPress.Markdown
