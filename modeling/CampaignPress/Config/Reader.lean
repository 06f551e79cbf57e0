/-
This file reads configurations from mappings and from files. Of several faults
of a mapping the first in this order counts: unknown keys, folders that are
missing, folders that are no paths, and the number of workers.
-/
import CampaignPress.Config.Basic
import CampaignPress.Query.Run

namespace CampaignPress.Config

/-! ### Keys -/

def textKey? : Value → Option Text
  | .text key => some key
  | _ => none

/-- Keys that are known. -/
def isKnown (key : Value) : Bool := (textKey? key).any keys.elem

/-- Whether keys have an order among themselves: numbers have one, and so have keys of one kind. -/
def haveOrder (keys : List Value) : Bool :=
  keys.all (·.quantity?.isSome) || keys.all fun key => keys.all (·.kindName = key.kindName)

/-- The first in order of two keys; keys that are no numbers keep their places. -/
def firstInOrder (first key : Value) : Value :=
  match key.quantity?, first.quantity? with
  | some a, some b => if Query.lessQuantity a b then key else first
  | _, _ => first

/-- The failure of keys that are unknown. -/
def unknown (keys : List Value) : Error :=
  match keys.mapM textKey? with
  | some texts => .unknownKeys (texts.mergeSort Text.atMost)
  | none =>
    match keys with
    | [] => .unknownKeys []
    | [key] => .oddKey key.kindName
    | first :: second :: others =>
      if haveOrder keys then .oddKey ((second :: others).foldl firstInOrder first).kindName
      else .mixedKeys second.kindName first.kindName

/-- The value of a key, unless it counts as nothing. -/
def required (entries : List (Value × Value)) (key : Text) : Except Error Value :=
  match Frontmatter.field? key entries with
  | some value => if value.isSomething then .ok value else .error (.missingKey key)
  | none => .error (.missingKey key)

/-! ### Values -/

/-- A folder that a configuration names, seen from the folder of the configuration. No home folders
are looked up: a tilde at the front of a path stands for itself. -/
def folderAt (base : Path) (value : Value) : Except Error Folder := do
  let path ← (Setting.path value).mapError .setting
  return .path (base.append path)

/-- The number of workers is a whole number from one on, and truth counts as one. -/
def isPositive : Value → Bool
  | .int number => 1 ≤ number
  | .bool flag => flag
  | _ => false

def checkWorkers (value : Value) : Except Error Unit :=
  if isPositive value then .ok ()
  else match value.quoted with
    | .ok quoted => .error (.badWorkers quoted)
    | .error fault => .error (.fault fault)

/-! ### Reading -/

/-- The configuration with the value of one key, unless the key is that of a folder. -/
def takeOther (config : Config) (entry : Value × Value) : Config :=
  match textKey? entry.1 with
  | some key => if key = vaultKey || key = outputKey then config else config.put key entry.2
  | none => config

/-- The configuration that a mapping writes, with paths seen from a folder. -/
def ofMapping (base : Path) (entries : List (Value × Value)) : Except Error Config := do
  let strange := (entries.map (·.1)).filter fun key => !isKnown key
  if !strange.isEmpty then throw (unknown strange)
  let vault ← required entries vaultKey
  let output ← required entries outputKey
  let vault ← folderAt base vault
  let output ← folderAt base output
  checkWorkers ((Frontmatter.field? workersKey entries).getD (.int 1))
  return entries.foldl takeOther { vault, output }

/-- The configuration that a file writes, with paths seen from its folder. -/
def ofFile (files : Files) (path : Path) : Except Error Config := do
  let text ← (files.readText path).mapError .files
  let value ← match Yaml.read text with
    | .ok value => pure value
    | .error .malformed => throw (.malformed path)
    | .error error => throw (.value error)
  match value with
  | .mapping entries => ofMapping path.parent entries
  | value =>
    if value.isSomething then throw (.notMapping path)
    else ofMapping path.parent []

end CampaignPress.Config
