/-
This file shows that a query over notes whose values have texts is answered: the
notes are found, put in order and shown without a fault. What is asked of the
notes is one fact about their heads, whatever the query is.
-/
import CampaignPress.Proofs.Numeral
import CampaignPress.Proofs.Query.Compare
import CampaignPress.Query.Table

namespace CampaignPress

theorem Value.hasText_int {number : Int} (small : Numeral.IsSmall number) :
    (Value.int number).HasText := by
  rw [HasText, toText, quoted]
  · exact Numeral.succeeds_write small
  all_goals simp

/-- A note in whose head every value has a text. -/
def Note.HasTexts (note : Note) : Prop := ∀ entry ∈ note.frontmatter, entry.2.HasText

namespace Query

/-! ### Values of notes -/

section Notes

variable {note : Note} (written : note.HasTexts)
include written

theorem hasText_field (name : Text) : ((note.frontmatter.field? name).getD .null).HasText := by
  rw [Frontmatter.field?]
  cases found : note.frontmatter.find? fun entry => entry.1.isSameKey (.text name) with
  | none => exact .ok _
  | some entry => exact written entry (List.mem_of_find?_eq_some found)

theorem hasText_resolve (field : Text) : (resolve note field).HasText := by
  rw [resolve]
  split
  · exact .ok _
  · split
    · exact .ok _
    · split
      · exact .ok _
      · split
        · exact Value.hasText_int (Numeral.isSmall_of_lt (by decide))
        · have value := hasText_field written field
          cases same : (note.frontmatter.field? field).getD .null with
          | text content => exact .ok _
          | _ =>
            rw [same] at value
            exact value

end Notes

/-! ### Finding notes -/

theorem exists_sort (order : Order) {notes : List Note}
    (written : ∀ note ∈ notes, note.HasTexts) :
    ∃ sorted, sort order notes = .ok sorted ∧ ∀ note ∈ sorted, note ∈ notes := by
  rcases notes with _ | ⟨first, _ | ⟨second, others⟩⟩
  · exact ⟨[], rfl, fun _ member => member⟩
  · exact ⟨[first], rfl, fun _ member => member⟩
  · obtain ⟨ranked, same⟩ : Succeeds ((first :: second :: others).mapM fun note => do
        return (← Rank.ofValue (resolve note order.field), note)) :=
      succeeds_mapM fun note member =>
        (succeeds_ofValue (hasText_resolve (written note member) order.field)).bind fun _ => .ok _
    refine ⟨_, bind_eq_ok.2 ⟨ranked, same, rfl⟩, fun note member => ?_⟩
    obtain ⟨pair, inSorted, rfl⟩ := List.mem_map.1 member
    obtain ⟨source, inNotes, given⟩ := exists_of_mem_mapM same (List.mem_mergeSort.1 inSorted)
    obtain ⟨rank, -, pairing⟩ := bind_eq_ok.1 given
    obtain rfl := Except.ok.inj pairing
    exact inNotes

/-- A query finds some of the notes. -/
theorem exists_run (query : Query) {notes : List Note} (written : ∀ note ∈ notes, note.HasTexts) :
    ∃ answers, query.run notes = .ok answers ∧ ∀ note ∈ answers, note ∈ notes := by
  have within : ∀ scope ∈ query.scopes, ∀ note ∈ notes, Succeeds (inScope scope note) :=
    fun scope _ note member => succeeds_inScope scope fun _ => hasText_field (written note member) _
  rw [run, foldlM_select within]
  generalize kept : (notes.filter fun note => query.scopes.all fun scope =>
    passes (inScope scope note)) = some
  have inNotes : ∀ note ∈ some, note ∈ notes := fun note member =>
    (List.mem_filter.1 (kept ▸ member)).1
  have met : ∀ condition ∈ query.conditions, ∀ note ∈ some, Succeeds (meets condition note) :=
    fun condition _ note member =>
      succeeds_meets condition (hasText_resolve (written note (inNotes note member)) _)
  show ∃ answers, (query.conditions.foldlM (fun notes condition => select (meets condition) notes)
    some >>= _) = .ok answers ∧ _
  rw [foldlM_select met]
  generalize chosen : (some.filter fun note => query.conditions.all fun condition =>
    passes (meets condition note)) = found
  have inFound : ∀ note ∈ found, note ∈ notes := fun note member =>
    inNotes note (List.mem_filter.1 (chosen ▸ member)).1
  cases query.order with
  | none => exact ⟨found, rfl, inFound⟩
  | some order =>
    obtain ⟨sorted, same, inSorted⟩ := exists_sort order fun note member =>
      written note (inFound note member)
    exact ⟨sorted, same, fun note member => inFound note (inSorted note member)⟩

/-! ### Showing values -/

mutual

theorem succeeds_shown (value : Value) (written : value.HasText) : Succeeds (shown value) := by
  cases value with
  | null => exact .ok _
  | list items => exact (succeeds_shownAll items (written.items rfl)).bind fun _ => .ok _
  | tuple items => exact (succeeds_shownAll items (written.items rfl)).bind fun _ => .ok _
  | text content => exact .ok _
  | _ =>
    rw [shown]
    · exact succeeds_plainText written
    all_goals exact nofun
termination_by structural value

theorem succeeds_shownAll (items : List Value) (written : ∀ item ∈ items, item.HasText) :
    Succeeds (shownAll items) := by
  cases items with
  | nil => exact .ok []
  | cons item items =>
    rw [List.forall_mem_cons] at written
    exact (succeeds_shown item written.1).bind fun _ =>
      (succeeds_shownAll items written.2).bind fun _ => .ok _
termination_by structural items

end

/-! ### Showing answers -/

section Answers

variable (base : Text) (columns : List Column)

theorem succeeds_cell {note : Note} (written : note.HasTexts) (column : Column) :
    Succeeds (cell base note column) := by
  rw [cell]
  split
  · exact .ok _
  · exact (succeeds_shown _ (hasText_resolve written column.field)).bind fun _ => .ok _

theorem succeeds_row {note : Note} (written : note.HasTexts) : Succeeds (row base columns note) :=
  (succeeds_mapM fun column _ => (succeeds_cell base written column).bind fun _ => .ok _).bind
    fun _ => .ok _

theorem succeeds_item {note : Note} (written : note.HasTexts) :
    Succeeds (item base columns note) := by
  cases columns with
  | nil => exact .ok _
  | cons column columns =>
    obtain ⟨html, same⟩ := succeeds_cell base written column
    refine Succeeds.bind ?_ fun _ => .ok _
    rw [same]
    exact .ok _

theorem succeeds_answersHtml (query : Query) {notes : List Note}
    (written : ∀ note ∈ notes, note.HasTexts) : Succeeds (answersHtml base query notes) := by
  rw [answersHtml]
  split
  · exact .ok _
  · split
    · exact ((succeeds_mapM fun note member => succeeds_item base _ (written note member)).bind
        fun _ => .ok _).bind fun _ => .ok _
    · exact ((succeeds_mapM fun note member => succeeds_row base _ (written note member)).bind
        fun _ => .ok _).bind fun _ => .ok _

/-- A text in a block is shown as the answers to its query, or as the mark of a text that is
none. -/
theorem succeeds_blockHtml {notes : List Note} (written : ∀ note ∈ notes, note.HasTexts)
    (text : Text) : Succeeds (blockHtml base notes text) := by
  rw [blockHtml]
  cases parse? text with
  | none => exact .ok _
  | some query =>
    obtain ⟨answers, same, found⟩ := exists_run query written
    refine succeeds_bind.2 ⟨answers, same, ?_⟩
    exact succeeds_answersHtml base query fun note member => written note (found note member)

end Answers

end Query

end CampaignPress
