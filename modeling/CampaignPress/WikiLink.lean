/-
This file cuts wiki links: a target in double square brackets, with a text to
show after a bar if there is one.
-/
import CampaignPress.Text.Basic

namespace CampaignPress

structure WikiLink where
  /-- The target holds no bar and no closing bracket, and is not empty. -/
  target : Text
  /-- The text to show holds no closing bracket and is not empty. -/
  shown : Option Text
  deriving DecidableEq, Repr

namespace WikiLink

/-- What follows the brackets that close a link. -/
def close? : Text → Option Text
  | ']' :: ']' :: rest => some rest
  | _ => none

/-- The link whose opening brackets stand just before a text, and what follows it. -/
def cutOpened? (text : Text) : Option (WikiLink × Text) := do
  let inTarget (c : Char) := c ≠ ']' && c ≠ '|'
  let target := text.takeWhile inTarget
  guard !target.isEmpty
  match text.dropWhile inTarget with
  | '|' :: more =>
    let shown := more.takeWhile (· ≠ ']')
    guard !shown.isEmpty
    let rest ← close? (more.dropWhile (· ≠ ']'))
    return (⟨target, some shown⟩, rest)
  | more =>
    let rest ← close? more
    return (⟨target, none⟩, rest)

/-- The link at the beginning of a text, and what follows it. -/
def cut? : Text → Option (WikiLink × Text)
  | '[' :: '[' :: rest => cutOpened? rest
  | _ => none

/-- The link that makes up a text as a whole. -/
def ofWhole? (text : Text) : Option WikiLink :=
  match cut? text with
  | some (link, []) => some link
  | _ => none

end WikiLink

end CampaignPress
