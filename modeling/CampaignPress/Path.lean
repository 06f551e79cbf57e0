/-
This file holds paths of files. A path is the names it passes through, below
the root or relative to a folder; empty names and single dots name nothing and
are left out, while double dots stay.
-/
import CampaignPress.Text.Basic

namespace CampaignPress

structure Path where
  /-- The slashes that the path begins with: none, one, or exactly two. -/
  root : Text
  names : List Text
  deriving DecidableEq, Repr

namespace Path

/-! ### Reading and writing -/

/-- Two leading slashes stay two; one, or three and more, are one. -/
def rootOf : Text → Text
  | '/' :: '/' :: '/' :: _ => "/"
  | '/' :: '/' :: _ => "//"
  | '/' :: _ => "/"
  | _ => []

def isName (name : Text) : Bool := !name.isEmpty && name ≠ ['.']

def ofText (text : Text) : Path :=
  { root := rootOf text, names := (Text.splitOn '/' text).filter isName }

/-- A path without root and names is the folder itself. -/
def toText (path : Path) : Text :=
  if path.root.isEmpty && path.names.isEmpty then "." else path.root ++ Text.join "/" path.names

def isAbsolute (path : Path) : Bool := !path.root.isEmpty

/-! ### Parts -/

/-- The last name, empty for a path without names. -/
def name (path : Path) : Text := path.names.getLast?.getD []

def parent (path : Path) : Path := { path with names := path.names.dropLast }

/-- A name's stem and its ending from the last dot on; a dot at either end of the
name begins no ending. -/
def cutEnding (name : Text) : Text × Text :=
  match Text.cutAtLast '.' name with
  | some (before, after) =>
    if before.isEmpty || after.isEmpty then (name, []) else (before, '.' :: after)
  | none => (name, [])

def stem (path : Path) : Text := (cutEnding path.name).1

def ending (path : Path) : Text := (cutEnding path.name).2

/-! ### Joining -/

/-- The second path as seen from the first; an absolute one stands for itself. -/
def append (folder path : Path) : Path :=
  if path.isAbsolute then path else { folder with names := folder.names ++ path.names }

/-- The path below a folder, if it lies there. -/
def below? (folder path : Path) : Option Path :=
  if folder.root = path.root && folder.names.isPrefixOf path.names then
    some { root := [], names := path.names.drop folder.names.length }
  else none

end Path

end CampaignPress
