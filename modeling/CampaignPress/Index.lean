/-
This file finds notes by name. A note is known by its title and by the name of
its file, both without regard to case; of two notes with one name the later
one is found.
-/
import CampaignPress.Note

namespace CampaignPress

structure Index where
  /-- The names and their notes, the latest first. -/
  entries : List (Text × Note)

namespace Index

def empty : Index := ⟨[]⟩

def namesOf (note : Note) : List Text := [Text.lower note.title, Text.lower (Slug.stem note.path)]

def insert (index : Index) (note : Note) : Index :=
  ⟨(namesOf note).foldl (fun entries name => (name, note) :: entries) index.entries⟩

def ofNotes (notes : List Note) : Index := notes.foldl insert empty

/-! ### Looking up -/

def find? (index : Index) (name : Text) : Option Note :=
  index.entries.lookup (Text.lower (Text.trim name))

def slug? (index : Index) (name : Text) : Option Text := (index.find? name).map Note.slug

/-- The slug of a name, by the rule where no note with a slug of its own is found. -/
def slugOf (index : Index) (name : Text) : Text :=
  match index.slug? name with
  | some (c :: slug) => c :: slug
  | _ => Slug.ofPath name

/-- The slug of a path, looked up by the name of its file; a blank path has none. -/
def slugOfPath (index : Index) (path : Text) : Text :=
  if Text.isBlankText path then []
  else match index.slug? (Slug.stem path) with
    | some (c :: slug) => c :: slug
    | _ => Slug.ofPath path

/-- The names that are known, in order and once each. -/
def names (index : Index) : List Text :=
  ((index.entries.map (·.1)).mergeSort Text.atMost).eraseDups

end Index

end CampaignPress
