/-
This file holds the commands that the program takes: one builds all pages of a
vault, the other prints the page of one note. A command leaves a code: zero if
all went well, one for a failure, two for words that make no command.
-/
import CampaignPress.Config.Reader
import CampaignPress.Publication

namespace CampaignPress

inductive Command where
  | build (config : Path) (isDry : Bool)
  | render (vault : Path) (note base : Text)
  deriving DecidableEq, Repr

namespace Command

/-! ### Words -/

inductive Switch where
  | dryRun
  | verbose
  /-- The only switch with a value. -/
  | base
  deriving DecidableEq, Repr

/-- What the words after the name of a command say. -/
structure Words where
  plain : List Text := []
  isDry : Bool := false
  base : Text := []
  deriving DecidableEq, Repr

def Words.turn (words : Words) (value : Text) : Switch → Words
  | .dryRun => { words with isDry := true }
  | .verbose => words
  | .base => { words with base := value }

def buildSwitches : List (Text × Switch) :=
  [("--dry-run".toList, .dryRun), ("--verbose".toList, .verbose)]

def renderSwitches : List (Text × Switch) :=
  [("--base-url".toList, .base), ("--verbose".toList, .verbose)]

/-- Whether a word is a bundle of the one short switch. -/
def isVerbose (word : Text) : Bool :=
  match word with
  | '-' :: letters => letters.all (· = 'v')
  | _ => false

/-- What a sequence of words says. A value follows its switch after an equals sign or as the
next word; after two bare dashes every word is plain. -/
def readWords (switches : List (Text × Switch)) : List Text → Words → Option Words
  | [], words => some words
  | word :: rest, words =>
    if word = ['-', '-'] then some { words with plain := words.plain ++ rest }
    else if !(Text.startsWith word "-" && 1 < word.length) then
      readWords switches rest { words with plain := words.plain ++ [word] }
    else
      let (name, given) := match Text.cutAt '=' word with
        | some (name, value) => (name, some value)
        | none => (word, none)
      match switches.lookup name, given with
      | some .base, some value => readWords switches rest (words.turn value .base)
      | some .base, none =>
        match rest with
        | value :: rest => readWords switches rest (words.turn value .base)
        | [] => none
      | some switch, none => readWords switches rest (words.turn [] switch)
      | some _, some _ => none
      | none, _ => if isVerbose word then readWords switches rest words else none

/-- The command of a name and the words after it. -/
def ofWords (name : Text) (rest : List Text) : Option Command :=
  if name = "build".toList then do
    let words ← readWords buildSwitches rest {}
    let [config] := words.plain | none
    return .build (Path.ofText config) words.isDry
  else if name = "render".toList then do
    let words ← readWords renderSwitches rest {}
    let [vault, note] := words.plain | none
    return .render (Path.ofText vault) note words.base
  else none

/-- The command that words make, if they make one. -/
def read? : List Text → Option Command
  | ['-', '-'] :: name :: rest => ofWords name rest
  | name :: rest => ofWords name rest
  | [] => none

/-! ### Running -/

/-- What a command prints and leaves. -/
structure Answer where
  code : Nat
  out : Text := []
  err : List Text := []
  deriving DecidableEq, Repr

def misused : Answer := { code := 2 }

/-- The answer to a failure that the program has a word for. -/
def failed (message : Text) : Answer := { code := 1, err := ["Error: " ++ message] }

/-- The answer to any other failure. -/
def aborted (message : Text) : Answer := { code := 1, err := [message] }

def isMissing : Files.Error → Bool
  | .refused .missing _ => true
  | _ => false

def ofVaultError (error : Vault.Error) : Answer :=
  match error with
  | .noSources _ => failed error.message
  | .files cause => if isMissing cause then failed error.message else aborted error.message
  | _ => aborted error.message

def ofConfigError (error : Config.Error) : Answer :=
  match error with
  | .files cause => if isMissing cause then failed error.message else aborted error.message
  | _ => if error.isBadConfig then failed error.message else aborted error.message

def ofReport (report : Report) : Answer where
  code := if report.failures.isEmpty then 0 else 1
  out := "Published " ++ Nat.toDigits 10 report.published.length ++ " notes\n"
  err := report.failures.map fun failure => "Failed: " ++ failure.path ++ ": " ++ failure.message

/-- The configuration of a build. -/
def configOf (files : Files) (path : Path) (isDry : Bool) : Except Config.Error Config := do
  let config ← Config.ofFile files path
  return if isDry then { config with isDry := .bool true } else config

def runBuild (path : Path) (isDry : Bool) : StateM Files Answer := do
  match configOf (← get) path isDry with
  | .error error => return ofConfigError error
  | .ok config =>
    match Publication.of config with
    | .error error => return aborted error.message
    | .ok run =>
      match ← run.publish.run with
      | .ok report => return ofReport report
      | .error (.vault error) => return ofVaultError error
      | .error (.setting error) => return aborted error.message

/-- The answer with the page of a note of a vault. -/
def pageAnswer (vault : Vault) (files : Files) (notes : List Note) (name base : Text) : Answer :=
  match vault.find files name with
  | .error error => aborted error.message
  | .ok none => { code := 1, err := ["Note not found: " ++ name] }
  | .ok (some note) =>
    let site := Site.ofNotes notes base "/attachments" .standard .standard vault.stack
    match Publication.pageOf site files note with
    | .ok page => { code := 0, out := page.html ++ ['\n'] }
    | .error error => aborted error.message

def runRender (files : Files) (folder : Path) (name base : Text) : Answer :=
  if Files.holdsNull folder then aborted "stat: embedded null character in path"
  else match Vault.of folder .null .null with
    | .error error => aborted error.message
    | .ok vault =>
      match vault.notes files with
      | .error error => ofVaultError error
      | .ok notes => pageAnswer vault files notes name base

def run : Command → StateM Files Answer
  | .build config isDry => runBuild config isDry
  | .render vault note base => do return runRender (← get) vault note base

/-- The answer to the words of a command line. -/
def answer (words : List Text) : StateM Files Answer :=
  match read? words with
  | some command => command.run
  | none => return misused

end Command

end CampaignPress
