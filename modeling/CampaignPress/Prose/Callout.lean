/-
This file converts callouts, quoted blocks whose first line names a kind, into
the nested boxes that the site's stylesheets know. The body stays markdown, set
off by blank lines.
-/
import CampaignPress.Html
import CampaignPress.Icon
import CampaignPress.Prose.Fence

namespace CampaignPress

structure Callout where
  kind : Text
  title : Text
  collapsible : Bool
  body : List Text
  deriving DecidableEq, Repr

namespace Callout

/-! ### Headers -/

/-- The text of a rest of a line, which holds no line break but at its end. -/
def restOfLine? (rest : Text) : Option Text :=
  match rest.dropWhile (· ≠ '\n') with
  | [] => some rest
  | ['\n'] => some (rest.takeWhile (· ≠ '\n'))
  | _ => none

/-- The callout that a line opens, without a body. The kind in capitals stands in for a
missing title, and either sign after the kind makes the box collapsible. -/
def ofHeader? (line : Text) : Option Callout := do
  let rest ← Text.after? ">" line
  let inner ← Text.after? "[!" (Text.trimStart rest)
  let name := inner.takeWhile (· ≠ ']')
  guard !name.isEmpty
  let rest ← Text.after? "]" (inner.dropWhile (· ≠ ']'))
  let (collapsible, rest) : Bool × Text :=
    match rest with
    | '-' :: rest => (true, rest)
    | '+' :: rest => (true, rest)
    | rest => (false, rest)
  let title ← restOfLine? (Text.trimStart rest)
  let kind := Text.lower (Text.trim name)
  let title := Text.trim title
  return ⟨kind, if title.isEmpty then Text.upper kind else title, collapsible, []⟩

def isQuoted (line : Text) : Bool := Text.startsWith line ">"

/-- A quoted line without its mark and one blank after it. -/
def unquote (line : Text) : Text :=
  match line with
  | '>' :: c :: rest => if Text.isBlank c then rest else c :: rest
  | '>' :: rest => rest
  | line => line

def add (callout : Callout) (line : Text) : Callout :=
  { callout with body := callout.body ++ [line] }

/-! ### Boxes -/

open Html (element classed plainText)

def breaks (number : Nat) : Html := [.verbatim (List.replicate number '\n')]

def titleBar (icons : IconTable) (callout : Callout) : Html :=
  let fold :=
    if callout.collapsible then
      classed "div" "callout-fold is-collapsed" [.verbatim icons.fold] ++ breaks 1
    else []
  element "div" [.verbatim "class" "callout-title", .verbatim "dir" "auto"]
    (breaks 1 ++ classed "div" "callout-icon" [.verbatim (icons.callout callout.kind)] ++
      breaks 1 ++ classed "div" "callout-title-inner" (plainText callout.title) ++ breaks 1 ++
      fold)

/-- Boxes that collapse begin closed. -/
def toHtml (icons : IconTable) (callout : Callout) : Html :=
  let body := breaks 2 ++ [.verbatim (Text.unlines callout.body)] ++ breaks 2
  let fold := if callout.collapsible then [.verbatim "data-callout-fold" "-"] else []
  let classes : Text :=
    if callout.collapsible then "callout is-collapsible is-collapsed" else "callout"
  let hidden := if callout.collapsible then [.verbatim "style" "display: none;"] else []
  element "div"
    ([.verbatim "data-callout-metadata" ""] ++ fold ++
      [.escaped "data-callout" callout.kind, .verbatim "class" classes])
    (breaks 1 ++ titleBar icons callout ++ breaks 1 ++
      element "div" (.verbatim "class" "callout-content" :: hidden) body ++ breaks 1)

/-! ### Conversion -/

inductive State where
  | outside
  | inside (callout : Callout)
  | fenced (fence : Fence)

/-- The box of a callout that ends here. -/
def State.ended (icons : IconTable) : State → List Text
  | .inside callout => [(callout.toHtml icons).write]
  | _ => []

/-- The state after a line that belongs to no callout. -/
def State.afterPlain (line : Text) : State :=
  match Fence.opened? line with
  | some fence => .fenced fence
  | none => .outside

def nextIsQuoted : List Text → Bool
  | [] => false
  | line :: _ => isQuoted line

/-- The converted lines. A blank line stays in a callout if the next line is quoted. -/
def convertFrom (icons : IconTable) : State → List Text → List Text
  | state, [] => state.ended icons
  | .fenced fence, line :: rest =>
    line :: convertFrom icons (if fence.closes line then .outside else .fenced fence) rest
  | .outside, line :: rest =>
    match ofHeader? line with
    | some callout => convertFrom icons (.inside callout) rest
    | none => line :: convertFrom icons (.afterPlain line) rest
  | .inside current, line :: rest =>
    match ofHeader? line with
    | some callout => (current.toHtml icons).write :: convertFrom icons (.inside callout) rest
    | none =>
      if isQuoted line then convertFrom icons (.inside (current.add (unquote line))) rest
      else if Text.isBlankText line && nextIsQuoted rest then
        convertFrom icons (.inside (current.add [])) rest
      else
        (current.toHtml icons).write :: line :: convertFrom icons (.afterPlain line) rest

/-- The text with every callout outside of fences converted. -/
def convert (icons : IconTable) (text : Text) : Text :=
  Text.unlines (convertFrom icons .outside (Text.lines (Text.normalizeBreaks text)))

end Callout

end CampaignPress
