/-
This file holds notes: what is known of one file of the vault before its text
is read.
-/
import CampaignPress.Slug
import CampaignPress.Value.Basic

namespace CampaignPress

structure Note where
  /-- The path below the vault names the note. -/
  path : Text
  slug : Text
  title : Text
  frontmatter : Frontmatter
  /-- The file that the text is read from, if there is one. -/
  source : Option Path

namespace Note

/-- The title is the one given, else the head's, else the name of the file. -/
def titleFor (path : Text) (frontmatter : Frontmatter) (title : Text) : Except Fault Text :=
  if !title.isEmpty then .ok title
  else match frontmatter.field? "title" with
    | some value => if value.isSomething then value.toText else .ok (Slug.stem path)
    | none => .ok (Slug.stem path)

/-- The note at a path, with the slug that the path gives. -/
def ofPath (path : Text) (frontmatter : Frontmatter) (title : Text) (source : Option Path) :
    Except Fault Note := do
  let title ← titleFor path frontmatter title
  return { path, slug := Slug.ofPath path, title, frontmatter, source }

/-- The path of the folder, empty for a note at the top of the vault. -/
def folder (note : Note) : Text :=
  match Text.cutAtLast '/' (Slug.forward note.path) with
  | some (folder, _) => folder
  | none => []

end Note

end CampaignPress
