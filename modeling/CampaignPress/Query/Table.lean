/-
This file shows the answers to queries as tables and lists.
-/
import CampaignPress.Link
import CampaignPress.Query.Parser
import CampaignPress.Query.Run

namespace CampaignPress

namespace Query

open Html (classed element)

/-! ### Values -/

mutual

/-- A value as it is shown: several values one after the other, a missing one as nothing. -/
def shown : Value → Except Fault Text
  | .null => .ok []
  | .list items => do return Text.join ", " (← shownAll items)
  | .tuple items => do return Text.join ", " (← shownAll items)
  | .text content => .ok (unwrapText content)
  | value => plainText value

def shownAll : List Value → Except Fault (List Text)
  | [] => .ok []
  | item :: items => do
    let first ← shown item
    return first :: (← shownAll items)

end

/-! ### Answers -/

def link (base : Text) (note : Note) : Html := Link.anchor base [] note.title note.slug

/-- The note itself is shown as a link, other fields as their values. -/
def cell (base : Text) (note : Note) (column : Column) : Except Fault Html :=
  if column.field = "file.link".toList then .ok (link base note)
  else do return [.text (← shown (resolve note column.field))]

def row (base : Text) (columns : List Column) (note : Note) : Except Fault Html := do
  let cells ← columns.mapM fun column => do return element "td" [] (← cell base note column)
  return element "tr" [] cells.flatten

def table (base : Text) (columns : List Column) (notes : List Note) : Except Fault Html := do
  let heads := columns.flatMap fun column => element "th" [] [.text column.label]
  let rows ← notes.mapM (row base columns)
  return classed "table" "table-view-table"
    (element "thead" [] (element "tr" [] heads) ++ element "tbody" [] rows.flatten)

/-- An item is remarked on by the first column alone. -/
def item (base : Text) (columns : List Column) (note : Note) : Except Fault Html := do
  let remark ← match columns with
    | [] => .ok []
    | column :: _ => (cell base note column).map (.text ": " :: ·)
  return classed "li" "dataview-result-list-li" (link base note ++ remark)

def list (base : Text) (columns : List Column) (notes : List Note) : Except Fault Html := do
  let items ← notes.mapM (item base columns)
  return classed "ul" "dataview-result-list-root-ul" items.flatten

/-- The box that stands where no note answers. -/
def noAnswer (form : Form) : Html :=
  classed "div" "dataview-error-box"
    (classed "p" "dataview-error-message"
      [.text ("Dataview: No results to show for " ++ form.name ++ " query.")])

def answersHtml (base : Text) (query : Query) (notes : List Note) : Except Fault Html := do
  let content ←
    if notes.isEmpty then .ok (noAnswer query.form)
    else match query.form with
      | .list => list base query.columns notes
      | .table => table base query.columns notes
  return classed "div" "block-language-dataview" content

/-! ### Blocks -/

/-- The language of the fences that hold queries. -/
def language : Text := "dataview"

def unreadable : Html := classed "div" "dataview-error" [.text "Could not parse query"]

/-- The answers to a query in text; text that is no query leaves a mark. -/
def blockHtml (base : Text) (notes : List Note) (text : Text) : Except Fault Html :=
  match parse? text with
  | none => .ok unreadable
  | some query => do answersHtml base query (← query.run notes)

end Query

end CampaignPress
