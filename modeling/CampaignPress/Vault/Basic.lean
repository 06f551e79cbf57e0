/-
This file finds the notes of a vault. A note is a readable file below one of the
source folders whose name has the ending of a note; a file is passed over if its
name, or that of a folder above it, is one to exclude. Which names those are, how
the heads of notes are read and how deep the stack is, is left to the vault.
-/
import CampaignPress.Files
import CampaignPress.Note
import CampaignPress.Prose.Body
import CampaignPress.Setting
import CampaignPress.Stack
import CampaignPress.Yaml.Value

namespace CampaignPress

structure Vault where
  folder : Path
  sources : List Path
  /-- Each says of the name of a file or a folder whether it is to be passed over. -/
  excluded : List (Text → Bool)
  /-- Reads the heads of notes. -/
  yaml : Yaml.Loader := Yaml.read
  stack : Stack := .standard

namespace Vault

/-! ### Vaults -/

/-- Hidden files and folders, drawings, bases and the readme at any place. -/
def standardExclusions : List Text :=
  List.map String.toList ["^\\.", "\\.excalidraw\\.md$", "\\.base$", "^README\\.md$"]

/-- The vault in a folder. Without a list of sources all of it is one, and without a list of
exclusions the usual ones hold. -/
def of (folder : Path) (sources excluded : Value) : Except Setting.Error Vault := do
  let sources :=
    if sources.isSomething then sources else .list [.text ['.']]
  let sources ← (← Setting.items sources).mapM (Setting.below folder)
  let excluded ← match excluded with
    | .null => pure (standardExclusions.map .text)
    | excluded => Setting.items excluded
  return { folder, sources, excluded := (← excluded.mapM Setting.pattern).map Pattern.occursIn }

/-! ### Failures -/

inductive Error where
  | noSources (folders : List Path)
  | files (error : Files.Error)
  /-- A note from a source folder that is not written as part of the vault. -/
  | outside (note folder : Path)
  /-- The text of a note that was not read from a file. -/
  | noSource (path : Text)
  /-- A head whose values are not what their tags call for. -/
  | head (error : Yaml.Error)
  /-- A head whose title cannot be written. -/
  | title (cause : Fault)
  deriving DecidableEq, Repr

def Error.message : Error → Text
  | .noSources folders =>
    "No source directories found: " ++ Text.join ", " (folders.map Path.toText)
  | .files error => error.message
  | .outside note folder =>
    Text.quoted note.toText ++ " is not in the subpath of " ++ Text.quoted folder.toText ++
      " OR one path is relative and the other is absolute."
  | .noSource path => "Document has no source file: " ++ path
  | .head error => error.message
  | .title cause => cause.message

/-! ### Single notes -/

def noteEnding : Text := ".md"

/-- The meaning of a head, empty where it is none; a value in it that cannot be is a fault of the
note. -/
def parseHead (yaml : Yaml.Loader) (head : Text) : Except Error (Option Frontmatter) :=
  match yaml head with
  | .ok (.mapping entries) => .ok (some entries)
  | .ok _ => .ok (some [])
  | .error .malformed => .ok (some [])
  | .error (.impossible _) => .ok none
  | .error error => .error (.head error)

def headOf (yaml : Yaml.Loader) (text : Text) : Except Error (Option Frontmatter) :=
  match Prose.cutHead? text with
  | none => .ok (some [])
  | some (head, _) => parseHead yaml head

/-- Whether there is room on the stack to write the title that a head gives. -/
def hasTitle (stack : Stack) (head : Frontmatter) : Bool :=
  match head.field? "title" with
  | some value => !value.isSomething || stack.writes value
  | none => true

/-- The note that a file of the vault holds, if it can be read. -/
def load (vault : Vault) (files : Files) (path : Path) : Except Error (Option Note) :=
  let folder := files.absolute vault.folder
  let place := files.absolute path
  if !folder.isPrefixOf place then .ok none
  else match files.readText path with
    | .error _ => .ok none
    | .ok text => do
      let some head ← headOf vault.yaml text | return none
      if !hasTitle vault.stack head then throw (.title .tooDeep)
      let name := Text.join "/" (place.drop folder.length)
      return (Note.ofPath name head [] (some path)).toOption

/-! ### All notes -/

def isExcluded (vault : Vault) (names : List Text) : Bool :=
  names.any fun name => vault.excluded.any (· name)

/-- The files of a source folder that notes are read from. -/
def filesIn (vault : Vault) (files : Files) (source : Path) : Except Error (List Path) := do
  let found ← (files.below vault.stack.reaches source).mapError .files
  let found := found.filter fun names => Text.endsWith (names.getLast?.getD []) noteEnding
  let paths := found.map (Files.pathBelow source)
  let kept ← paths.filterM fun path =>
    match vault.folder.below? path with
    | some relative => .ok (!vault.isExcluded relative.names)
    | none => .error (.outside path vault.folder)
  return kept

/-- The notes with one more, in place of a note of the same path. -/
def putNote (notes : List Note) (note : Note) : List Note :=
  if notes.any (·.path = note.path) then
    notes.map fun other => if other.path = note.path then note else other
  else notes ++ [note]

/-- The source folders that are there. -/
def present (vault : Vault) (files : Files) : Except Error (List Path) := do
  let present ← (vault.sources.filterM files.leads).mapError .files
  if present.isEmpty then throw (.noSources vault.sources)
  return present

/-- All notes, in the order of their paths. -/
def notes (vault : Vault) (files : Files) : Except Error (List Note) := do
  let paths ← (← vault.present files).mapM (vault.filesIn files)
  let notes ← paths.flatten.mapM (vault.load files)
  let notes := (notes.filterMap id).foldl putNote []
  return notes.mergeSort fun left right => Text.atMost left.path right.path

/-! ### One note -/

/-- Whether a note goes by a name in small letters. -/
def isCalled (name : Text) (note : Note) : Bool :=
  Text.lower (Path.ofText note.path).stem = name || Text.lower note.title = name

/-- The note of a path, a file name or a title. A path that leads to a file decides alone. -/
def find (vault : Vault) (files : Files) (name : Text) : Except Error (Option Note) := do
  let path := Path.ofText name
  let isNote : Bool := path.ending = noteEnding
  let isThere ← if path.isAbsolute then (files.leads path).mapError .files else pure false
  if isThere && isNote then return ← vault.load files path
  let inVault := vault.folder.append path
  let isInVault ← (files.isFile inVault).mapError .files
  if isInVault && isNote then return ← vault.load files inVault
  let wanted := Text.lower (if isNote then path.stem else name)
  return (← vault.notes files).find? (isCalled wanted)

/-- The text of a note without its head. -/
def body (files : Files) (note : Note) : Except Error Text :=
  match note.source with
  | none => .error (.noSource note.path)
  | some path => ((files.readText path).map Prose.bodyOf).mapError .files

end Vault

end CampaignPress
