/-
This file holds the configuration of a publishing run. Besides its folders and
the number of workers, a configuration takes every setting as it is given; a
setting of the wrong kind shows only when it is used.
-/
import CampaignPress.Setting
import CampaignPress.Vault.Basic

namespace CampaignPress

/-! ### Configurations -/

/-- A folder is a path, or a value that has not been read as one. -/
inductive Folder where
  | path (content : Path)
  | raw (value : Value)

structure Config where
  vault : Folder
  output : Folder
  sources : Value := .null
  base : Value := .text []
  attachments : Value := .text "/attachments"
  exclusions : Value := .list (Vault.standardExclusions.map .text)
  warns : Value := .bool true
  workers : Value := .int 1
  isDry : Value := .bool false

namespace Folder

def toPath : Folder → Except Setting.Error Path
  | .path content => .ok content
  | .raw value => Setting.path value

/-- The path of a file in a folder, which only a path leads to. -/
def join (path : Path) : Folder → Except Setting.Error Path
  | .path folder => .ok (folder.append path)
  | .raw value => .error (.notJoinable value.kindName "str")

def toText : Folder → Except Fault Text
  | .path content => .ok content.toText
  | .raw value => value.toText

end Folder

namespace Config

/-! ### Keys -/

def vaultKey : Text := "vault_path"

def outputKey : Text := "output_dir"

def workersKey : Text := "workers"

/-- The configuration with another value for a key; an unknown key changes nothing. -/
def put (config : Config) (key : Text) (value : Value) : Config :=
  if key = vaultKey then { config with vault := .raw value }
  else if key = outputKey then { config with output := .raw value }
  else if key = workersKey then { config with workers := value }
  else if key = "source_dirs".toList then { config with sources := value }
  else if key = "base_url".toList then { config with base := value }
  else if key = "attachments_prefix".toList then { config with attachments := value }
  else if key = "exclude_patterns".toList then { config with exclusions := value }
  else if key = "warn_on_missing_link".toList then { config with warns := value }
  else if key = "dry_run".toList then { config with isDry := value }
  else config

def keys : List Text :=
  [vaultKey, outputKey, workersKey] ++ List.map String.toList
    ["source_dirs", "base_url", "attachments_prefix", "exclude_patterns", "warn_on_missing_link",
      "dry_run"]

/-- The configuration with other values for some keys; nothing in place of a value leaves the
old one. -/
def override (config : Config) (values : List (Text × Value)) : Config :=
  values.foldl (fun config (key, value) =>
    match value with
    | .null => config
    | value => config.put key value) config

/-! ### Failures -/

inductive Error where
  | unknownKeys (keys : List Text)
  /-- Unknown keys of which the first in order is no text. -/
  | oddKey (kind : Text)
  /-- Unknown keys that have no order among themselves. -/
  | mixedKeys (left right : Text)
  | missingKey (key : Text)
  | badWorkers (quoted : Text)
  | setting (error : Setting.Error)
  | fault (cause : Fault)
  | files (error : Files.Error)
  /-- A file that breaks the rules of its notation. -/
  | malformed (path : Path)
  /-- A file with a value that cannot be, such as the thirteenth month. -/
  | value (error : Yaml.Error)
  | notMapping (path : Path)

/-- Whether a failure says that the configuration is wrong, and not its reading. -/
def Error.isBadConfig : Error → Bool
  | .unknownKeys _ => true
  | .missingKey _ => true
  | .badWorkers _ => true
  | .malformed _ => true
  | .notMapping _ => true
  | _ => false

def Error.message : Error → Text
  | .unknownKeys keys => "Unknown config keys: " ++ Text.join ", " keys
  | .oddKey kind => "sequence item 0: expected str instance, " ++ kind ++ " found"
  | .mixedKeys left right =>
    "\x27<\x27 not supported between instances of " ++ Setting.quote left ++ " and " ++
      Setting.quote right
  | .missingKey key => "Missing required config key: " ++ key
  | .badWorkers quoted => "workers must be a positive integer, got " ++ quoted
  | .setting error => error.message
  | .fault cause => cause.message
  | .files error => error.message
  | .malformed path => "Invalid YAML in " ++ path.toText
  | .value error => error.message
  | .notMapping path => "Config must be a mapping: " ++ path.toText

end Config

end CampaignPress
