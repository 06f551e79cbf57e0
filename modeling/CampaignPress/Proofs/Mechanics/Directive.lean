/-
This file writes directives and shows that reading undoes writing. Every kind is
a row of fields, texts and numbers, and each field knows what it is read as where
it is missing; so a row may end early, as long as all that is left out is what a
missing field stands for. The rows of the nine kinds are the only thing in which
they differ.
-/
import CampaignPress.Mechanics.Directive
import CampaignPress.Proofs.Numeral
import CampaignPress.Proofs.Text.Cut
import CampaignPress.Proofs.Text.Lines

namespace CampaignPress

namespace Directive

/-! ### Fields -/

inductive Field where
  | text (content : Text)
  /-- The second number is the one that a missing field stands for. -/
  | number (value otherwise : Int)
  deriving DecidableEq

namespace Field

def write : Field → Text
  | .text content => content
  | .number value _ => Numeral.digits value

/-- What can be written: trimmed text without a bar, and numbers within the limit. -/
def IsWritable : Field → Prop
  | .text content => Text.trim content = content ∧ '|' ∉ content
  | .number value _ => Numeral.IsSmall value

/-- A field that a missing one stands for. -/
def IsDefault : Field → Prop
  | .text content => content = []
  | .number value otherwise => value = otherwise

instance (field : Field) : Decidable field.IsDefault :=
  match field with
  | .text content => inferInstanceAs (Decidable (content = []))
  | .number value otherwise => inferInstanceAs (Decidable (value = otherwise))

/-- A row of texts from which a field is read in a position. -/
def IsReadAt (row : List Text) (position : Nat) : Field → Prop
  | .text content => textAt row position = content
  | .number value otherwise => numberAt row position otherwise = value

theorem bar_not_mem_write {field : Field} (writable : field.IsWritable) : '|' ∉ field.write := by
  cases field with
  | text content => exact writable.2
  | number value otherwise =>
    intro member
    rcases Numeral.isDigit_or_eq_of_mem_digits member with digit | same
    · exact absurd digit (by decide)
    · exact absurd same (by decide)

theorem IsWritable.isReadAt {field : Field} (writable : field.IsWritable) {row : List Text}
    {position : Nat} (there : row[position]? = some field.write) : field.IsReadAt row position := by
  cases field with
  | text content =>
    rw [IsReadAt, textAt, there]
    exact writable.1
  | number value otherwise =>
    rw [IsReadAt, numberAt, textAt, there]
    show Numeral.readLeading otherwise (Text.trim (Numeral.digits value)) = value
    rw [Numeral.trim_digits, Numeral.readLeading_digits otherwise writable]

theorem IsDefault.isReadAt {field : Field} (default : field.IsDefault) {row : List Text}
    {position : Nat} (missing : row[position]? = none) : field.IsReadAt row position := by
  have empty : textAt row position = [] := by
    rw [textAt, missing]
    rfl
  cases field with
  | text content => exact empty.trans default.symm
  | number value otherwise =>
    rw [IsReadAt, numberAt, empty]
    exact (Numeral.readLeading_nil otherwise).trans default.symm

/-- A row that ends early is read as the whole row, if missing fields stand for the rest. -/
theorem isReadAt_take {fields : List Field} (writable : ∀ field ∈ fields, field.IsWritable)
    {count : Nat} (rest : ∀ field ∈ fields.drop count, field.IsDefault) {position : Nat}
    {field : Field} (there : fields[position]? = some field) :
    field.IsReadAt ((fields.take count).map write) position := by
  by_cases written : position < count
  · refine (writable field (List.mem_of_getElem? there)).isReadAt ?_
    rw [List.getElem?_map, List.getElem?_take_of_lt written, there]
    rfl
  · obtain ⟨beyond, same⟩ := Nat.exists_eq_add_of_le (Nat.le_of_not_lt written)
    refine (rest field ?_).isReadAt ?_
    · rw [same, ← List.getElem?_drop] at there
      exact List.mem_of_getElem? there
    · rw [List.getElem?_map, List.getElem?_take_eq_none (Nat.le_of_not_lt written)]
      rfl

end Field

/-! ### Rows -/

/-- The fields of a directive in their order. -/
def fields : Directive → List Field
  | .move record =>
    [.text record.name, .text record.stat, .number record.action 0, .number record.statValue 0,
      .number record.adds 0, .number record.first 0, .number record.second 0, .text record.ref]
  | .oracle record =>
    [.text record.name, .text record.roll, .text record.result, .text record.ref]
  | .meter record => [.text record.name, .number record.start 0, .number record.stop 0]
  | .initiative record => [.text record.label, .text record.start, .text record.stop]
  | .trackCreate record => [.text record.name, .text record.path]
  | .trackAdvance record =>
    [.text record.name, .text record.path, .number record.start 0, .number record.stop 0,
      .text record.rank, .number record.steps 1]
  | .progress record =>
    [.text record.name, .number record.score 0, .number record.first 0, .number record.second 0,
      .text record.path]
  | .noRoll record => [.text record.name, .text record.ref]
  | .entityCreate record => [.text record.entity, .text record.name, .text record.path]

/-- The first fields of a directive as code: the mark, the kind, a colon, and the fields between
bars. -/
def write (directive : Directive) (count : Nat) : Text :=
  mark ++ directive.kind.name ++ ':' :: Text.join ['|'] ((directive.fields.take count).map Field.write)

/-- What can be written: fields that can, with text where the kind needs it, and steps. -/
structure Writable (directive : Directive) : Prop where
  fields : ∀ field ∈ directive.fields, field.IsWritable
  required : ∀ position ∈ directive.kind.required, directive.fields[position]? ≠ some (.text [])
  steps : ∀ record, directive = .trackAdvance record → record.steps ≠ 0

/-! ### Reading -/

theorem Kind.colon_not_mem_name (kind : Kind) : ':' ∉ kind.name := by cases kind <;> decide

theorem Kind.ofName?_name (kind : Kind) : ofName? kind.name = some kind := by
  cases kind <;> decide

/-- The fields that a kind needs are texts of its row. -/
theorem exists_text_of_required (directive : Directive) {position : Nat}
    (required : position ∈ directive.kind.required) :
    ∃ content, directive.fields[position]? = some (.text content) := by
  cases directive <;>
    simp only [kind, Kind.required, List.mem_cons, List.not_mem_nil, or_false] at required
  case entityCreate =>
    rcases required with rfl | rfl <;> exact ⟨_, rfl⟩
  all_goals
    obtain rfl := required
    exact ⟨_, rfl⟩

/-- A row from which every field is read makes up the directive. -/
theorem ofFields_eq {directive : Directive} {row : List Text}
    (steps : ∀ record, directive = .trackAdvance record → record.steps ≠ 0)
    (read : ∀ position (field : Field), directive.fields[position]? = some field →
      field.IsReadAt row position) : ofFields directive.kind row = directive := by
  cases directive with
  | move record =>
    have name := read 0 _ rfl
    have stat := read 1 _ rfl
    have action := read 2 _ rfl
    have statValue := read 3 _ rfl
    have adds := read 4 _ rfl
    have first := read 5 _ rfl
    have second := read 6 _ rfl
    have ref := read 7 _ rfl
    simp only [Field.IsReadAt] at name stat action statValue adds first second ref
    simp only [kind, ofFields, name, stat, action, statValue, adds, first, second, ref]
  | oracle record =>
    have name := read 0 _ rfl
    have roll := read 1 _ rfl
    have result := read 2 _ rfl
    have ref := read 3 _ rfl
    simp only [Field.IsReadAt] at name roll result ref
    simp only [kind, ofFields, name, roll, result, ref]
  | meter record =>
    have name := read 0 _ rfl
    have start := read 1 _ rfl
    have stop := read 2 _ rfl
    simp only [Field.IsReadAt] at name start stop
    simp only [kind, ofFields, name, start, stop]
  | initiative record =>
    have label := read 0 _ rfl
    have start := read 1 _ rfl
    have stop := read 2 _ rfl
    simp only [Field.IsReadAt] at label start stop
    simp only [kind, ofFields, label, start, stop]
  | trackCreate record =>
    have name := read 0 _ rfl
    have path := read 1 _ rfl
    simp only [Field.IsReadAt] at name path
    simp only [kind, ofFields, name, path]
  | trackAdvance record =>
    have name := read 0 _ rfl
    have path := read 1 _ rfl
    have start := read 2 _ rfl
    have stop := read 3 _ rfl
    have rank := read 4 _ rfl
    have count := read 5 _ rfl
    have some_steps := steps record rfl
    simp only [Field.IsReadAt] at name path start stop rank count
    simp only [kind, ofFields, name, path, start, stop, rank, count, if_neg some_steps]
  | progress record =>
    have name := read 0 _ rfl
    have score := read 1 _ rfl
    have first := read 2 _ rfl
    have second := read 3 _ rfl
    have path := read 4 _ rfl
    simp only [Field.IsReadAt] at name score first second path
    simp only [kind, ofFields, name, score, first, second, path]
  | noRoll record =>
    have name := read 0 _ rfl
    have ref := read 1 _ rfl
    simp only [Field.IsReadAt] at name ref
    simp only [kind, ofFields, name, ref]
  | entityCreate record =>
    have entity := read 0 _ rfl
    have name := read 1 _ rfl
    have path := read 2 _ rfl
    simp only [Field.IsReadAt] at entity name path
    simp only [kind, ofFields, entity, name, path]

section Reading

variable {directive : Directive} (writable : directive.Writable) {count : Nat}
  (rest : ∀ field ∈ directive.fields.drop count, field.IsDefault)
include writable rest

/-- What may be left out is never the whole row. -/
theorem Writable.take_ne_nil : directive.fields.take count ≠ [] := by
  have needed : 0 ∈ directive.kind.required := by cases directive <;> exact List.mem_cons_self
  obtain ⟨content, first⟩ := exists_text_of_required directive needed
  intro empty
  rcases List.take_eq_nil_iff.1 empty with rfl | none
  · have default := rest _ (List.mem_of_getElem? first)
    exact writable.required 0 needed (first.trans (congrArg (some <| Field.text ·) default))
  · rw [none] at first
    exact nomatch first

theorem Writable.split?_write : split? (directive.write count) =
    some (directive.kind.name, (directive.fields.take count).map Field.write) := by
  have begins : Text.after? mark (directive.write count) =
      some (directive.kind.name ++
        ':' :: Text.join ['|'] ((directive.fields.take count).map Field.write)) := by
    rw [Text.after?_eq_some_iff, write, List.append_assoc]
  have ends : Text.cutAt ':' (directive.kind.name ++
        ':' :: Text.join ['|'] ((directive.fields.take count).map Field.write)) =
      some (directive.kind.name,
        Text.join ['|'] ((directive.fields.take count).map Field.write)) :=
    Text.cutAt_eq_some_iff.2 ⟨rfl, directive.kind.colon_not_mem_name⟩
  have fields : Text.splitOn '|' (Text.join ['|'] ((directive.fields.take count).map Field.write)) =
      (directive.fields.take count).map Field.write := by
    refine Text.splitOn_join (fun part member => ?_) ?_
    · obtain ⟨field, inTaken, rfl⟩ := List.mem_map.1 member
      exact Field.bar_not_mem_write (writable.fields field (List.mem_of_mem_take inTaken))
    · rw [Ne, List.map_eq_nil_iff]
      exact writable.take_ne_nil rest
  rw [split?, begins, Option.bind_eq_bind, Option.bind_some, ends]
  exact congrArg (fun fields => some (directive.kind.name, fields)) fields

theorem Writable.textAt_ne_nil {position : Nat} (needed : position ∈ directive.kind.required) :
    textAt ((directive.fields.take count).map Field.write) position ≠ [] := by
  obtain ⟨content, there⟩ := exists_text_of_required directive needed
  have read : textAt _ position = content := Field.isReadAt_take writable.fields rest there
  rw [read]
  rintro rfl
  exact writable.required position needed there

end Reading

/-- A directive that is written as code is read back. Fields at the end may be left out if they
are what a missing field stands for. -/
theorem read?_write {directive : Directive} (writable : directive.Writable) {count : Nat}
    (rest : ∀ field ∈ directive.fields.drop count, field.IsDefault) :
    read? (directive.write count) = some (.ok directive) := by
  have complete : directive.kind.required.find? (fun position =>
      (textAt ((directive.fields.take count).map Field.write) position).isEmpty) = none := by
    refine List.find?_eq_none.2 fun position needed => ?_
    rw [List.isEmpty_iff]
    exact writable.textAt_ne_nil rest needed
  have whole : ofFields directive.kind ((directive.fields.take count).map Field.write) = directive :=
    ofFields_eq writable.steps fun position field there =>
      Field.isReadAt_take writable.fields rest there
  rw [read?, writable.split?_write rest]
  simp only [Option.bind_eq_bind, Option.bind_some, Kind.ofName?_name, complete, whole]

/-- A track that lost ticks, with a colon in its name, and neither rank nor steps written. -/
theorem read?_write_trackAdvance :
    let directive : Directive := .trackAdvance ⟨"Vow: Kira", "a/b.md", 12, -3, [], 1⟩
    directive.Writable ∧ (∀ field ∈ directive.fields.drop 4, field.IsDefault) ∧
      directive.write 4 = "iv-track-advance:Vow: Kira|a/b.md|12|-3".toList ∧
      read? (directive.write 4) = some (.ok directive) := by
  intro directive
  have rest : ∀ field ∈ directive.fields.drop 4, field.IsDefault := by decide
  have writable : directive.Writable := by
    refine ⟨?_, by decide, ?_⟩
    · simp only [directive, fields, List.forall_mem_cons, Field.IsWritable]
      refine ⟨by decide, by decide, ?_, ?_, by decide, ?_, by simp⟩ <;>
        exact Numeral.isSmall_of_lt (by decide)
    · rintro record same
      obtain rfl := Directive.trackAdvance.inj same
      decide
  exact ⟨writable, rest, by decide +kernel, read?_write writable rest⟩

end Directive

end CampaignPress
