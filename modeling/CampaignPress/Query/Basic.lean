/-
This file holds queries over the notes of a vault: what to show, where to look,
what to ask of a note, and how to order the answers.
-/
import CampaignPress.Text.Basic

namespace CampaignPress

namespace Query

inductive Form where
  | table
  | list
  deriving DecidableEq, Repr

def Form.name : Form → Text
  | .table => "table"
  | .list => "list"

/-- A column of a table, or the remark on an item of a list. -/
structure Column where
  field : Text
  label : Text
  deriving DecidableEq, Repr

/-- Where to look: a tag after its mark, or a folder. -/
structure Scope where
  selector : Text
  deriving DecidableEq, Repr

def Scope.isTag (scope : Scope) : Bool := Text.startsWith scope.selector "#"

def Scope.tag (scope : Scope) : Text := scope.selector.drop 1

/-- The folder, without the quotes of either kind around it. -/
def Scope.folder (scope : Scope) : Text :=
  Text.dropEnds (fun c => c = '"' || c = '\x27') scope.selector

inductive Comparison where
  | equal
  | unequal
  deriving DecidableEq, Repr

structure Condition where
  field : Text
  comparison : Comparison
  value : Text
  deriving DecidableEq, Repr

inductive Direction where
  | ascending
  | descending
  deriving DecidableEq, Repr

structure Order where
  field : Text
  direction : Direction
  deriving DecidableEq, Repr

end Query

structure Query where
  form : Query.Form
  withoutId : Bool
  columns : List Query.Column
  scopes : List Query.Scope
  conditions : List Query.Condition
  order : Option Query.Order
  deriving DecidableEq, Repr

end CampaignPress
