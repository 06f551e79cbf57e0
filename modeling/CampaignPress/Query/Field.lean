/-
This file finds the fields of notes that queries speak of, and compares their
values with the literals of conditions.
-/
import CampaignPress.Note

namespace CampaignPress

namespace Query

/-! ### Values -/

/-- A text in double square brackets without them. -/
def unwrapText (text : Text) : Text :=
  if Text.startsWith text "[[" && Text.endsWith text "]]" then (text.drop 2).dropLast.dropLast
  else text

/-- A value with its brackets off, if it is a text in double square brackets. -/
def unwrap : Value → Value
  | .text content => .text (unwrapText content)
  | value => value

/-- The text of a single value, with truth values in small letters. -/
def plainText : Value → Except Fault Text
  | .bool flag => .ok (if flag then "true" else "false")
  | value => value.toText

/-! ### Fields -/

/-- The value of a field of a note; some fields describe the file. -/
def resolve (note : Note) (field : Text) : Value :=
  if field = "file.link".toList || field = "file.name".toList then .text note.title
  else if field = "file.path".toList then .text (Slug.forward note.path)
  else if field = "file.folder".toList then .text note.folder
  else if field = "file.mtime".toList then .int 0
  else unwrap ((note.frontmatter.field? field).getD .null)

/-! ### Literals -/

/-- A text agrees with a literal in any case, both without brackets. -/
def textMatches (literal text : Text) : Bool :=
  Text.lower (unwrapText text) = Text.lower (unwrapText literal)

mutual

/-- Whether a value agrees with a literal. Several values agree if one of them does, and a
missing value agrees with nothing. -/
def agrees (literal : Text) : Value → Except Fault Bool
  | .null => .ok false
  | .list items => someAgrees literal items
  | .tuple items => someAgrees literal items
  | .set items => someAgrees literal items
  | value => do return textMatches literal (← plainText value)

def someAgrees (literal : Text) : List Value → Except Fault Bool
  | [] => .ok false
  | item :: items => do
    if ← agrees literal item then return true else someAgrees literal items

end

end Query

end CampaignPress
