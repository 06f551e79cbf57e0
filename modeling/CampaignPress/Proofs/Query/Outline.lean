/-
This file tells the tags of the answers to a query from their shape: the form of
the query, the number of its answers, and which of its columns hold a link to the
note itself. All else that a note says is shown as text.
-/
import CampaignPress.Proofs.Mechanics.Outline
import CampaignPress.Query.Table

namespace CampaignPress

/-! ### Fragments in a row -/

/-- Fragments that are shown for items have the outlines of the items in a row. -/
theorem Html.shows_mapM {Item : Type} {show' : Item → Except Fault Html}
    {outlineOf : Item → List Text}
    (each : ∀ item html, show' item = .ok html → html.Shows (outlineOf item))
    {items : List Item} {parts : List Html} (shown : items.mapM show' = .ok parts) :
    Html.Shows parts.flatten (items.flatMap outlineOf) := by
  have row := forall₂_of_mapM shown
  clear shown
  induction row with
  | nil => exact shows_nil
  | cons here _ inductionHypothesis => exact (each _ _ here).append inductionHypothesis

namespace Query

open Html (around classed element)

/-! ### Shapes -/

/-- What is recognised in the text of a query and the notes that answer it. -/
inductive Shape where
  | unreadable
  /-- The form, the number of answers, and which columns hold a link. -/
  | answered (form : Form) (count : Nat) (links : List Bool)
  deriving DecidableEq, Repr

def Column.isLink (column : Column) : Bool := column.field = "file.link".toList

/-- The shape of the answers among some notes to the query in a text. -/
def shapeOf (notes : List Note) (text : Text) : Except Fault Shape :=
  match parse? text with
  | none => .ok .unreadable
  | some query => do
    let answers ← query.run notes
    return .answered query.form answers.length (query.columns.map Column.isLink)

/-! ### Outlines -/

def linkOutline : List Text := around "a" " href=" []

def cellOutline (isLink : Bool) : List Text := if isLink then linkOutline else []

def rowOutline (links : List Bool) : List Text :=
  around "tr" [] (links.flatMap fun isLink => around "td" [] (cellOutline isLink))

def itemOutline (links : List Bool) : List Text :=
  around "li" " class=" (linkOutline ++ links.head?.elim [] cellOutline)

def answersOutline (form : Form) (count : Nat) (links : List Bool) : List Text :=
  match form with
  | .list => around "ul" " class=" (List.replicate count (itemOutline links)).flatten
  | .table =>
    around "table" " class=" (around "thead" [] (around "tr" []
      (links.flatMap fun _ => around "th" [] [])) ++
        around "tbody" [] (List.replicate count (rowOutline links)).flatten)

/-- The outlines of the tags of a shape. -/
def Shape.outline : Shape → List Text
  | .unreadable => around "div" " class=" []
  | .answered form count links =>
    around "div" " class="
      (if count = 0 then around "div" " class=" (around "p" " class=" [])
        else answersOutline form count links)

theorem flatMap_const (notes : List Note) (inner : List Text) :
    (notes.flatMap fun _ => inner) = (List.replicate notes.length inner).flatten := by
  rw [List.flatMap_def, List.map_const']

/-! ### Parts -/

variable (base : Text)

theorem shows_link (note : Note) : (link base note).Shows linkOutline :=
  Link.shows_anchor rfl base note.title note.slug

theorem shows_cell {note : Note} {column : Column} {html : Html}
    (shown : cell base note column = .ok html) : html.Shows (cellOutline column.isLink) := by
  rw [cell] at shown
  rw [cellOutline, Column.isLink]
  split at shown
  · rename_i isLink
    rw [if_pos (decide_eq_true isLink)]
    exact Except.ok.inj shown ▸ shows_link base note
  · rename_i other
    rw [if_neg (mt of_decide_eq_true other)]
    obtain ⟨content, -, shown⟩ := bind_eq_ok.1 shown
    exact Except.ok.inj shown ▸ Html.shows_text content

theorem shows_row {columns : List Column} {note : Note} {html : Html}
    (shown : row base columns note = .ok html) :
    html.Shows (rowOutline (columns.map Column.isLink)) := by
  obtain ⟨cells, cellsShown, shown⟩ := bind_eq_ok.1 shown
  obtain rfl := Except.ok.inj shown
  rw [rowOutline, List.flatMap_map]
  refine (Html.shows_mapM (fun column html shown => ?_) cellsShown).element (by decide) rfl
  obtain ⟨content, cellShown, shown⟩ := bind_eq_ok.1 shown
  exact Except.ok.inj shown ▸ (shows_cell base cellShown).element (by decide) rfl

theorem shows_itemOf {note : Note} {remark : Html} {links : List Bool}
    (shows : remark.Shows (links.head?.elim [] cellOutline)) :
    (classed "li" "dataview-result-list-li" (link base note ++ remark)).Shows (itemOutline links) :=
  ((shows_link base note).append shows).classed (by decide) (by decide)

theorem shows_item {columns : List Column} {note : Note} {html : Html}
    (shown : item base columns note = .ok html) :
    html.Shows (itemOutline (columns.map Column.isLink)) := by
  cases columns with
  | nil =>
    obtain rfl := Except.ok.inj shown
    exact shows_itemOf base Html.shows_nil
  | cons column columns =>
    obtain ⟨remark, remarkShown, shown⟩ := bind_eq_ok.1 shown
    obtain rfl := Except.ok.inj shown
    cases cellShown : cell base note column with
    | error fault =>
      rw [cellShown] at remarkShown
      exact nomatch remarkShown
    | ok content =>
      rw [cellShown] at remarkShown
      obtain rfl := Except.ok.inj remarkShown
      exact shows_itemOf base ((Html.shows_text ": ").append (shows_cell base cellShown))

/-! ### Answers -/

theorem shows_list {columns : List Column} {notes : List Note} {html : Html}
    (shown : list base columns notes = .ok html) :
    html.Shows (answersOutline .list notes.length (columns.map Column.isLink)) := by
  obtain ⟨items, itemsShown, shown⟩ := bind_eq_ok.1 shown
  obtain rfl := Except.ok.inj shown
  rw [answersOutline, ← flatMap_const]
  exact (Html.shows_mapM (fun _ _ => shows_item base) itemsShown).classed (by decide) (by decide)

theorem shows_heads (columns : List Column) :
    Html.Shows (columns.flatMap fun column => element "th" [] [.text column.label])
      ((columns.map Column.isLink).flatMap fun _ => around "th" [] []) := by
  induction columns with
  | nil => exact Html.shows_nil
  | cons column columns inductionHypothesis =>
    rw [List.flatMap_cons, List.map_cons, List.flatMap_cons]
    exact ((Html.shows_text column.label).element (by decide) rfl).append inductionHypothesis

theorem shows_table {columns : List Column} {notes : List Note} {html : Html}
    (shown : table base columns notes = .ok html) :
    html.Shows (answersOutline .table notes.length (columns.map Column.isLink)) := by
  obtain ⟨rows, rowsShown, shown⟩ := bind_eq_ok.1 shown
  obtain rfl := Except.ok.inj shown
  rw [answersOutline, ← flatMap_const]
  refine Html.Shows.classed (by decide) (.append ?_ ?_) (by decide)
  · exact ((shows_heads columns).element (by decide) rfl).element (by decide) rfl
  · exact (Html.shows_mapM (fun _ _ => shows_row base) rowsShown).element (by decide) rfl

theorem shows_answers {content : Html} {inner : List Text} (shows : content.Shows inner) :
    (classed "div" "block-language-dataview" content).Shows (around "div" " class=" inner) :=
  shows.classed (by decide) (by decide)

theorem shows_noAnswer (form : Form) :
    (noAnswer form).Shows (around "div" " class=" (around "p" " class=" [])) :=
  ((Html.shows_text _).classed (by decide) (by decide)).classed (by decide) (by decide)

theorem shows_answersHtml {query : Query} {notes : List Note} {html : Html}
    (shown : answersHtml base query notes = .ok html) :
    html.Shows (Shape.answered query.form notes.length (query.columns.map Column.isLink)).outline := by
  rw [answersHtml] at shown
  cases notes with
  | nil =>
    obtain rfl := Except.ok.inj shown
    exact shows_answers (shows_noAnswer query.form)
  | cons note notes =>
    have some' : (note :: notes).length ≠ 0 := nofun
    rw [Shape.outline, if_neg some']
    cases form : query.form with
    | list =>
      rw [form] at shown
      obtain ⟨content, contentShown, shown⟩ := bind_eq_ok.1 shown
      obtain rfl := Except.ok.inj shown
      exact shows_answers (shows_list base contentShown)
    | table =>
      rw [form] at shown
      obtain ⟨content, contentShown, shown⟩ := bind_eq_ok.1 shown
      obtain rfl := Except.ok.inj shown
      exact shows_answers (shows_table base contentShown)

/-- The answers to a query are shown with the outline of their shape. -/
theorem shows_blockHtml {notes : List Note} {text : Text} {html : Html}
    (shown : blockHtml base notes text = .ok html) : ∃ shape, shapeOf notes text = .ok shape ∧
      html.Shows shape.outline := by
  rw [blockHtml] at shown
  rw [shapeOf]
  cases parsed : parse? text with
  | none =>
    rw [parsed] at shown
    obtain rfl := Except.ok.inj shown
    exact ⟨.unreadable, rfl, (Html.shows_text _).classed (by decide) (by decide)⟩
  | some query =>
    rw [parsed] at shown
    obtain ⟨answers, ran, shown⟩ := bind_eq_ok.1 shown
    exact ⟨_, bind_eq_ok.2 ⟨answers, ran, rfl⟩, shows_answersHtml base shown⟩

end Query

end CampaignPress
