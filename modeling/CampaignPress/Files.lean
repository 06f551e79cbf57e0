/-
This file holds trees of files as values, with what can be asked of them and
done to them. Whatever is done gives the tree that it leaves behind, also where
it fails halfway. A tree holds folders and files, and no symbolic links.
-/
import CampaignPress.Fault
import CampaignPress.Path
import CampaignPress.Text.Utf8

namespace CampaignPress

/-! ### Trees of files -/

/-- What a place in a tree holds. -/
inductive Entry where
  | folder
  | file (content : List UInt8)
  deriving DecidableEq, Repr

def Entry.isFile : Entry → Bool
  | .file _ => true
  | .folder => false

/-- What no deed on a tree changes. -/
structure Files.Frame where
  /-- The folder that relative paths begin in. -/
  base : List Text := []
  /-- The most bytes that a file may have, if there is a bound. -/
  sizeLimit : Option Nat := none
  deriving DecidableEq, Repr

structure Files extends Files.Frame where
  /-- Everything below the root, by the names that lead there. -/
  entries : List (List Text × Entry) := []
  deriving DecidableEq, Repr

namespace Files

/-- The root is always a folder. -/
def at? (files : Files) (place : List Text) : Option Entry :=
  if place.isEmpty then some .folder else files.entries.lookup place

def putEntry (place : List Text) (entry : Entry) :
    List (List Text × Entry) → List (List Text × Entry)
  | [] => [(place, entry)]
  | (other, old) :: entries =>
    if other = place then (place, entry) :: entries
    else (other, old) :: putEntry place entry entries

/-- The tree with an entry in a place, where nothing else changes. -/
def put (files : Files) (place : List Text) (entry : Entry) : Files :=
  { files with entries := putEntry place entry files.entries }

/-- The tree without a place and what lies below it. -/
def remove (files : Files) (place : List Text) : Files :=
  { files with entries := files.entries.filter fun entry => !place.isPrefixOf entry.1 }

/-! ### Failures -/

inductive Cause where
  | missing
  | alreadyThere
  | notFolder
  | isFolder
  | nameTooLong
  deriving DecidableEq, Repr

def Cause.number : Cause → Nat
  | .missing => 2
  | .alreadyThere => 17
  | .notFolder => 20
  | .isFolder => 21
  | .nameTooLong => 36

def Cause.text : Cause → Text
  | .missing => "No such file or directory"
  | .alreadyThere => "File exists"
  | .notFolder => "Not a directory"
  | .isFolder => "Is a directory"
  | .nameTooLong => "File name too long"

inductive Error where
  | refused (cause : Cause) (path : Path)
  /-- A path to open holds a null character. -/
  | nullToOpen
  /-- The path of a folder to make holds a null character. -/
  | nullToMake
  /-- A file is no text. -/
  | noText (flaw : Text.Utf8Flaw)
  /-- A folder lies deeper than there is room for on the stack. -/
  | tooDeep
  /-- A file would have too many bytes. -/
  | tooLarge
  deriving DecidableEq, Repr

def Error.message : Error → Text
  | .refused cause path =>
    "[Errno " ++ Nat.toDigits 10 cause.number ++ "] " ++ cause.text ++ ": " ++
      Text.quoted path.toText
  | .nullToOpen => "embedded null byte"
  | .nullToMake => "mkdir: embedded null character in path"
  | .noText flaw => flaw.message
  | .tooDeep => Fault.tooDeep.message
  | .tooLarge => "[Errno 27] File too large"

/-! ### Places -/

/-- The most bytes of a name. -/
def nameLimit : Nat := 255

/-- The most bytes of a path. -/
def pathLimit : Nat := 4095

/-- The place that names lead to. All but the last must lead to folders; the last may lead
nowhere. -/
def walk (files : Files) : (place names : List Text) → Except Cause (List Text)
  | place, [] => .ok place
  | place, name :: names =>
    match files.at? place with
    | none => .error .missing
    | some (.file _) => .error .notFolder
    | some .folder =>
      if name = ['.', '.'] then files.walk place.dropLast names
      else if nameLimit < (Text.utf8 name).length then .error .nameTooLong
      else files.walk (place ++ [name]) names

def baseOf (files : Files) (path : Path) : List Text :=
  if path.isAbsolute then [] else files.base

def place (files : Files) (path : Path) : Except Cause (List Text) :=
  if pathLimit < (Text.utf8 path.toText).length then .error .nameTooLong
  else files.walk (files.baseOf path) path.names

/-- The names of a path from the root on, with double dots taken as steps back. In a tree without
links this is the place that the path leads to, if it leads anywhere. -/
def absolute (files : Files) (path : Path) : List Text :=
  path.names.foldl (fun place name => if name = ['.', '.'] then place.dropLast else place ++ [name])
    (files.baseOf path)

/-! ### Questions -/

def holdsNull (path : Path) : Bool := path.names.any (·.elem '\x00')

/-- What a path leads to. -/
def find (files : Files) (path : Path) : Except Cause Entry :=
  match files.place path with
  | .error cause => .error cause
  | .ok place =>
    match files.at? place with
    | some entry => .ok entry
    | none => .error .missing

/-- What a path leads to, if it leads anywhere. That a way is cut off is no failure. -/
def find? (files : Files) (path : Path) : Except Error (Option Entry) :=
  if holdsNull path then .ok none
  else match files.find path with
    | .ok entry => .ok (some entry)
    | .error .missing => .ok none
    | .error .notFolder => .ok none
    | .error cause => .error (.refused cause path)

def leads (files : Files) (path : Path) : Except Error Bool := do
  return (← files.find? path).isSome

def isFile (files : Files) (path : Path) : Except Error Bool := do
  return (← files.find? path).any Entry.isFile

def isFolder (files : Files) (path : Path) : Except Error Bool := do
  return (← files.find? path).any fun entry => !entry.isFile

def read (files : Files) (path : Path) : Except Error (List UInt8) :=
  if holdsNull path then .error .nullToOpen
  else match files.find path with
    | .ok (.file content) => .ok content
    | .ok .folder => .error (.refused .isFolder path)
    | .error cause => .error (.refused cause path)

/-- The text of a file, with every line break as one line feed. -/
def readText (files : Files) (path : Path) : Except Error Text := do
  let content ← files.read path
  match Text.ofUtf8 content with
  | .ok text => return Text.normalizeBreaks text
  | .error flaw => .error (.noText flaw)

/-- The names from a place on of everything below it. -/
def namesBelow (files : Files) (place : List Text) : List (List Text) :=
  files.entries.filterMap fun (other, _) =>
    if place.isPrefixOf other && place.length < other.length then some (other.drop place.length)
    else none

/-- The path of names below a path. -/
def pathBelow (path : Path) (names : List Text) : Path := { path with names := path.names ++ names }

/-- What keeps a folder below a path from being searched: it may lie too deep for the stack, or
have a path that is too long to open it. -/
def hindrance? (reaches : Nat → Bool) (path : Path) (names : List Text) : Option Error :=
  if !reaches names.length then some .tooDeep
  else if pathLimit < (Text.utf8 (pathBelow path names).toText).length then
    some (.refused .nameTooLong (pathBelow path names))
  else none

/-- The names from a folder on of everything below it. The folder is searched with all folders
below it, and one that cannot be searched ends the search. -/
def below (files : Files) (reaches : Nat → Bool) (path : Path) : Except Error (List (List Text)) := do
  if !(← files.isFolder path) then return []
  let place := files.absolute path
  let found := files.namesBelow place
  let folders := ([] :: found).filter fun names => files.at? (place ++ names) = some .folder
  match folders.findSome? (hindrance? reaches path) with
  | some error => throw error
  | none => return found

/-! ### Deeds -/

/-- A deed fails or not, and leaves a tree in either case. -/
abbrev Deed (α : Type) := ExceptT Error (StateM Files) α

/-- Makes a folder in a folder that is there. -/
def makeFolder (path : Path) : Deed Unit := do
  let files ← get
  if holdsNull path then throw .nullToMake
  match files.place path with
  | .error cause => throw (.refused cause path)
  | .ok place =>
    if (files.at? place).isSome then throw (.refused .alreadyThere path)
    else set (files.put place .folder)

/-- A failure to make a folder is none if the folder is there. -/
def unlessThere (path : Path) (error : Error) : Deed Unit := do
  match error with
  | .refused .missing _ => throw error
  | .refused _ _ =>
    match (← get).isFolder path with
    | .ok true => return ()
    | .ok false => throw error
    | .error further => throw further
  | _ => throw error

/-- Makes a folder, and first at most a number of the folders that it lies in. -/
def makeFoldersWithin : (depth : Nat) → Path → Deed Unit
  | 0, path => tryCatch (makeFolder path) (unlessThere path)
  | depth + 1, path =>
    tryCatch (makeFolder path) fun
      | .refused .missing _ => do
        makeFoldersWithin depth path.parent
        tryCatch (makeFolder path) (unlessThere path)
      | error => unlessThere path error

/-- Makes a folder, and first the folders that it lies in. -/
def makeFolders (path : Path) : Deed Unit := makeFoldersWithin path.names.length path

/-- As much of a content as a file may have. -/
def storable (files : Files) (content : List UInt8) : List UInt8 :=
  match files.sizeLimit with
  | some limit => content.take limit
  | none => content

/-- Writes a file, in place of the one that is there. That one is lost as soon as the file is open;
so of a content that is too large, a part is left. -/
def write (path : Path) (content : List UInt8) : Deed Unit := do
  let files ← get
  if holdsNull path then throw .nullToOpen
  match files.place path with
  | .error cause => throw (.refused cause path)
  | .ok place =>
    if files.at? place = some .folder then throw (.refused .isFolder path)
    else if files.at? place.dropLast = some .folder then do
      set (files.put place (.file (files.storable content)))
      if files.storable content ≠ content then throw .tooLarge
    else throw (.refused .missing path)

def writeText (path : Path) (text : Text) : Deed Unit := write path (Text.utf8 text)

end Files

end CampaignPress
