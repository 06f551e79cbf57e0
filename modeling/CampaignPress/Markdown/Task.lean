/-
This file turns list items that begin with a box in brackets into tasks.
-/
import CampaignPress.Markdown.Token

namespace CampaignPress.Markdown

namespace Task

/-- What may stand behind a box: a blank among the first 128 characters. -/
def isBehindBox (c : Char) : Bool := c = ' ' || (9 ≤ c.toNat && c.toNat ≤ 13)

/-- The character in the box that a text begins with, and the blank behind it. -/
def box? : Text → Option (Char × Char)
  | '[' :: c :: ']' :: blank :: _ =>
    if (c = ' ' || c = 'x' || c = 'X') && isBehindBox blank then some (c, blank) else none
  | _ => none

/-- The box on the page; behind it in the text only a plain space counts. -/
def boxHtml (c blank : Char) : Text :=
  if blank ≠ ' ' then []
  else
    "<input class=\"task-list-item-checkbox\" " ++
      (if c = ' ' then [] else "checked=\"checked\" ".toList) ++
      "disabled=\"disabled\" type=\"checkbox\">"

/-- Puts the box before the text and takes its three characters off. -/
def markLine (c blank : Char) (line : Token) : Token :=
  let shorter (token : Token) : Token := { token with content := token.content.drop 3 }
  let rest := match line.children.getD [] with
    | [] => []
    | first :: others => shorter first :: others
  { shorter line with
    children := some ({ kind := .htmlInline, content := boxHtml c blank } :: rest) }

/-- The token that the one at a place stands right below. -/
def parentOf (tokens : Array Token) (level : Int) (place : Nat) : Option Nat :=
  (List.range place).reverse.find? fun other => (tokens.getD other default).level = level - 1

/-- Marks the line at a place as a task, if it opens a list item with a box. -/
def markAt (tokens : Array Token) (place : Nat) : Array Token :=
  let tokenAt (place : Nat) : Token := tokens.getD place default
  if (tokenAt place).kind = .inline && (tokenAt (place - 1)).opensParagraph &&
      (tokenAt (place - 2)).opensItem then
    match box? (tokenAt place).content with
    | none => tokens
    | some (c, blank) =>
      let tokens := tokens.modify place (markLine c blank)
      let tokens := tokens.modify (place - 2) (Token.setAttribute "class" "task-list-item")
      match parentOf tokens (tokenAt (place - 2)).level (place - 2) with
      | some parent => tokens.modify parent (Token.setAttribute "class" "contains-task-list")
      | none => tokens
  else tokens

def markAll (tokens : List Token) : List Token :=
  ((List.range' 2 (tokens.length - 3)).foldl markAt tokens.toArray).toList

end Task

end CampaignPress.Markdown
