/-
This file publishes a vault, one page a note. Every note is a task of its own: a
task that fails says why and stops no other.
-/
import CampaignPress.Config.Basic
import CampaignPress.Page.Note

namespace CampaignPress

/-- What a run works with. -/
structure Publication where
  config : Config
  vault : Vault
  engine : Markdown.Engine := .standard

/-- A note whose page was not made, and why. -/
structure Failure where
  path : Text
  title : Text
  message : Text
  deriving DecidableEq, Repr

structure Report where
  /-- The titles of the notes that have a page. -/
  published : List Text
  failures : List Failure
  /-- The files that pages were written to. -/
  written : List Path
  isDry : Value

namespace Publication

/-! ### Failures -/

/-- What ends a whole run. -/
inductive Error where
  | setting (error : Setting.Error)
  | vault (error : Vault.Error)

def Error.message : Error → Text
  | .setting error => error.message
  | .vault error => error.message

/-- What ends the task of one note. -/
inductive TaskError where
  | page (error : Page.Error)
  | vault (error : Vault.Error)
  | setting (error : Setting.Error)
  | files (error : Files.Error)

/-- Whether an operation on files failed. -/
def TaskError.isOfFiles : TaskError → Bool
  | .page (.files _) => true
  | .vault (.files _) => true
  | .files _ => true
  | _ => false

def TaskError.message : TaskError → Text
  | .page error => error.message
  | .vault error => error.message
  | .setting error => error.message
  | .files error => error.message

/-! ### Settings -/

def of (config : Config) : Except Setting.Error Publication := do
  let folder ← config.vault.toPath
  return { config, vault := ← Vault.of folder config.sources config.exclusions }

/-- The site of the notes of a vault. -/
def site (run : Publication) (notes : List Note) : Except Setting.Error Site := do
  let base ← Setting.text "rstrip" run.config.base
  let attachments ← Setting.text "strip" run.config.attachments
  return .ofNotes notes base attachments .standard run.engine run.vault.stack

def isDry (config : Config) : Bool := config.isDry.isSomething

/-! ### Pages -/

/-- The name of the file of a page; a note without a slug is the index. -/
def fileName (note : Note) : Text :=
  (if note.slug.isEmpty then "index".toList else note.slug) ++ ".html".toList

/-- The file of the page of a note. -/
def fileOf (config : Config) (note : Note) : Except Setting.Error Path :=
  config.output.join (Path.ofText (fileName note))

/-- Writes the page of a note into its file, making the folders that it lies in. -/
def writePage (config : Config) (note : Note) (html : Text) :
    ExceptT TaskError (StateM Files) Unit := do
  match fileOf config note with
  | .error error => throw (.setting error)
  | .ok path =>
    let write : Files.Deed Unit := do
      Files.makeFolders path.parent
      Files.writeText path html
    write.adapt .files

/-! ### Tasks -/

/-- How the task of a note ends. -/
inductive Outcome where
  | done (note : Note)
  | failed (note : Note) (message : Text)

/-- The page of a note of the vault. -/
def pageOf (site : Site) (files : Files) (note : Note) : Except TaskError Page := do
  let text ← (Vault.body files note).mapError .vault
  (Page.ofNote site files note (some text)).mapError .page

/-- Makes the page of a note, and writes it unless the run is dry. -/
def makePage (config : Config) (site : Site) (note : Note) :
    ExceptT TaskError (StateM Files) Unit := do
  let page ← liftExcept (pageOf site (← get) note)
  if !isDry config then writePage config note page.html
where
  liftExcept {α : Type} (result : Except TaskError α) : ExceptT TaskError (StateM Files) α :=
    ExceptT.mk (pure result)

/-- The task of a note. -/
def task (config : Config) (site : Site) (note : Note) : StateM Files Outcome := do
  match ← (makePage config site note).run with
  | .ok () => return .done note
  | .error error => return .failed note error.message

/-! ### Runs -/

def failure? : Outcome → Option Failure
  | .done _ => none
  | .failed note message => some ⟨note.path, note.title, message⟩

def doneNote? : Outcome → Option Note
  | .done note => some note
  | .failed _ _ => none

/-- The report on the outcomes of all tasks. -/
def reportOf (config : Config) (outcomes : List Outcome) : Report :=
  let notes := outcomes.filterMap doneNote?
  { published := notes.map Note.title
    failures := outcomes.filterMap failure?
    written := if isDry config then [] else notes.filterMap fun note => (fileOf config note).toOption
    isDry := config.isDry }

/-- The notes of a run and their site, if all settings are of use. -/
def begin (run : Publication) (files : Files) : Except Error (List Note × Site) := do
  let notes ← (run.vault.notes files).mapError .vault
  let site ← (run.site notes).mapError .setting
  let _ ← (Setting.quantity run.config.workers).mapError .setting
  return (notes, site)

/-- Publishes the notes of the vault, in the order of their paths. The number of workers
changes nothing. -/
def publish (run : Publication) : ExceptT Error (StateM Files) Report := do
  match run.begin (← get) with
  | .error error => throw error
  | .ok (notes, site) =>
    let outcomes ← (notes.mapM (task run.config site) : StateM Files (List Outcome))
    return reportOf run.config outcomes

end Publication

end CampaignPress
