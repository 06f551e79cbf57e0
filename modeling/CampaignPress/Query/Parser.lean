/-
This file reads queries. A query has one clause a line, with the keyword in any
case; lines that are not understood are passed over, and a query without a form
is none.
-/
import CampaignPress.Query.Basic
import CampaignPress.Text.Case

namespace CampaignPress

namespace Query

/-! ### Columns -/

/-- The pieces between commas that stand outside of double quotes. -/
def commaPieces : (quoted : Bool) → Text → Text × List Text
  | _, [] => ([], [])
  | quoted, c :: rest =>
    let quoted := if c = '"' then !quoted else quoted
    let (first, others) := commaPieces quoted rest
    if c = ',' && !quoted then ([], first :: others) else (c :: first, others)

/-- The trimmed pieces of a list of columns, without the blank ones. -/
def splitColumns (text : Text) : List Text :=
  let (first, others) := commaPieces false text
  ((first :: others).map Text.trim).filter (!·.isEmpty)

/-- The label at the beginning of a text, after the word before it: a label is quoted, is not
empty, and ends the text. -/
def label? (text : Text) : Option Text := do
  guard (text.takeWhile Text.isBlank ≠ [])
  let rest ← Text.afterAnyCase? "as" (Text.trimStart text)
  guard (rest.takeWhile Text.isBlank ≠ [])
  let inner ← Text.after? "\"" (Text.trimStart rest)
  let label := inner.takeWhile (· ≠ '"')
  guard !label.isEmpty
  match inner.dropWhile (· ≠ '"') with
  | ['"'] => return label
  | _ => none

/-- The first place in a line, after its first character, where a label follows. -/
def cutLabel? : Text → Option (Text × Text)
  | [] => none
  | c :: rest =>
    if c = '\n' then none
    else match label? rest with
      | some label => some ([c], label)
      | none => (cutLabel? rest).map fun (field, label) => (c :: field, label)

def columnOf (piece : Text) : Column :=
  match cutLabel? piece with
  | some (field, label) => ⟨Text.trim field, label⟩
  | none => ⟨piece, piece⟩

def columnsOf (text : Text) : List Column := (splitColumns text).map columnOf

/-! ### Conditions -/

/-- A value without the quotes and brackets around it. -/
def stripLiteral (value : Text) : Text :=
  let opens (c : Char) := c = '"' || c = '\x27' || c = '['
  let closes (c : Char) := c = '"' || c = '\x27' || c = ']'
  Text.trim (Text.dropEnd closes (Text.dropStart opens (Text.trim value)))

/-- The value that fills the rest of a line, which has something besides line breaks. -/
def valueOf? (rest : Text) : Option Text :=
  let value := Text.trimStart rest
  if value.isEmpty then
    match rest.reverse with
    | '\n' :: c :: _ => if c = '\n' then none else some []
    | '\n' :: [] => none
    | [] => none
    | _ => some []
  else match value.dropWhile (· ≠ '\n') with
    | [] => some value
    | ['\n'] => some (value.takeWhile (· ≠ '\n'))
    | _ => none

/-- A field without blanks, a sign and a value; the field is as short as it can be. -/
def cutSign? (sign : Text) : Text → Option (Text × Text)
  | [] => none
  | c :: rest =>
    if Text.isBlank c then none
    else match (Text.after? sign (Text.trimStart rest)).bind valueOf? with
      | some value => some ([c], value)
      | none => (cutSign? sign rest).map fun (field, value) => (c :: field, value)

/-- A condition is tried as one of inequality first. -/
def condition? (clause : Text) : Option Condition :=
  match cutSign? "!=" clause with
  | some (field, value) => some ⟨field, .unequal, stripLiteral value⟩
  | none => (cutSign? "=" clause).map fun (field, value) => ⟨field, .equal, stripLiteral value⟩

/-! ### Order -/

/-- A field, and a direction that is ascending only where it says so. -/
def order? (clause : Text) : Option Order :=
  match Text.words clause with
  | [] => none
  | [field] => some ⟨field, .descending⟩
  | field :: direction :: _ =>
    some ⟨field, if Text.upper direction = "ASC".toList then .ascending else .descending⟩

/-! ### Lines -/

inductive Clause where
  | form (form : Form) (withoutId : Bool) (columns : List Column)
  | scope (scope : Scope)
  | condition (condition : Condition)
  | order (order : Option Order)
  /-- A line that says nothing. -/
  | nothing
  deriving DecidableEq, Repr

/-- Whether a line in capitals begins with a keyword that ends there or at a blank. -/
def hasKeyword (capitals keyword : Text) : Bool :=
  match Text.after? keyword capitals with
  | some [] => true
  | some (c :: _) => Text.isBlank c
  | none => false

/-- The clause of a trimmed line. -/
def Clause.ofLine (line : Text) : Clause :=
  let capitals := Text.upper line
  let after (keyword : Text) : Text := line.drop keyword.length
  if hasKeyword capitals "TABLE WITHOUT ID" then
    .form .table true (columnsOf (after "TABLE WITHOUT ID"))
  else if hasKeyword capitals "TABLE" then .form .table false (columnsOf (after "TABLE"))
  else if hasKeyword capitals "LIST" then .form .list false (columnsOf (after "LIST"))
  else if hasKeyword capitals "FROM" then
    let selector := Text.trim (after "FROM")
    if selector.isEmpty then .nothing else .scope ⟨selector⟩
  else if hasKeyword capitals "WHERE" then
    match condition? (Text.trim (after "WHERE")) with
    | some found => .condition found
    | none => .nothing
  else if hasKeyword capitals "SORT" then .order (order? (Text.trim (after "SORT")))
  else .nothing

/-! ### Queries -/

/-- The clauses of the lines of a text. -/
def clausesOf (text : Text) : List Clause :=
  (Text.lines (Text.trim text)).map fun line => Clause.ofLine (Text.trim line)

/-- The last of the forms that clauses name. -/
def formOf (clauses : List Clause) : Option (Form × Bool × List Column) :=
  (clauses.filterMap fun
    | .form form withoutId columns => some (form, withoutId, columns)
    | _ => none).getLast?

def scopesOf (clauses : List Clause) : List Scope :=
  clauses.filterMap fun
    | .scope scope => some scope
    | _ => none

def conditionsOf (clauses : List Clause) : List Condition :=
  clauses.filterMap fun
    | .condition condition => some condition
    | _ => none

/-- The last of the orders; an empty one undoes those before it. -/
def orderOf (clauses : List Clause) : Option Order :=
  ((clauses.filterMap fun
    | .order order => some order
    | _ => none).getLast?).join

/-- The query of a text, if a line of it names a form. -/
def parse? (text : Text) : Option Query :=
  let clauses := clausesOf text
  (formOf clauses).map fun (form, withoutId, columns) =>
    { form, withoutId, columns
      scopes := scopesOf clauses
      conditions := conditionsOf clauses
      order := orderOf clauses }

end Query

end CampaignPress
