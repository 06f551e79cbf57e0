/-
This file makes the page of a note, from a text that is given or from the file
of the note.
-/
import CampaignPress.Page.Basic
import CampaignPress.Vault.Basic

namespace CampaignPress.Page

inductive Error where
  | fault (cause : Fault)
  | files (error : Files.Error)
  /-- There is neither a text nor a file to read it from. -/
  | noText (path : Text)
  deriving DecidableEq, Repr

def Error.message : Error → Text
  | .fault cause => cause.message
  | .files error => error.message
  | .noText path => "No content or source for " ++ path

/-- The text that the page of a note shows. -/
def textFor (files : Files) (note : Note) : (text : Option Text) → Except Error Text
  | some text => .ok text
  | none =>
    match note.source with
    | some path => ((files.readText path).map Prose.bodyOf).mapError .files
    | none => .error (.noText note.path)

def ofNote (site : Site) (files : Files) (note : Note) (text : Option Text) :
    Except Error Page := do
  (ofText site (← textFor files note text)).mapError .fault

end CampaignPress.Page
