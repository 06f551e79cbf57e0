/-
This file tells which note is found by a name. The names of every note are put in
after those of the notes before it, so the last note that has a name is found by
it, and a name that no note has leads nowhere. Names are compared in small
letters, and the name that is looked up is trimmed first; the names of the notes
are not, so a note is not found by a name of its own that has blanks around it.
-/
import CampaignPress.Index
import CampaignPress.Proofs.Slug
import CampaignPress.Proofs.Text.Case

namespace CampaignPress

namespace Note

/-! ### Names -/

/-- The names of a note: its title, and the name of its file. -/
def names (note : Note) : List Text := [note.title, Slug.stem note.path]

/-- Whether a note has a name, up to case and to the blanks around either. -/
def isNamed (name : Text) (note : Note) : Bool :=
  note.names.any fun own => Text.lower (Text.trim own) = Text.lower (Text.trim name)

/-- Whether a note has a name, up to case, as its own names are written. -/
def answers (name : Text) (note : Note) : Bool :=
  note.names.any fun own => Text.lower own = Text.lower (Text.trim name)

variable {name : Text} {note : Note}

theorem isNamed_iff : note.isNamed name ↔
    ∃ own ∈ note.names, Text.lower (Text.trim own) = Text.lower (Text.trim name) := by
  simp [isNamed]

theorem answers_iff : note.answers name ↔
    ∃ own ∈ note.names, Text.lower own = Text.lower (Text.trim name) := by
  simp [answers]

theorem isNamed_of_answers (found : note.answers name) : note.isNamed name := by
  obtain ⟨own, member, same⟩ := answers_iff.1 found
  refine isNamed_iff.2 ⟨own, member, ?_⟩
  rw [← Text.trim_lower, same, Text.trim_lower, Text.trim_trim]

theorem answers_of_isNamed (trimmed : ∀ own ∈ note.names, Text.trim own = own)
    (named : note.isNamed name) : note.answers name := by
  obtain ⟨own, member, same⟩ := isNamed_iff.1 named
  rw [trimmed own member] at same
  exact answers_iff.2 ⟨own, member, same⟩

end Note

namespace Index

/-! ### The last note of a name -/

/-- The last of some notes that has a name, up to case and to the blanks around it. -/
def lastNamed? (notes : List Note) (name : Text) : Option Note :=
  (notes.filter (Note.isNamed name)).getLast?

theorem ofNotes_concat (notes : List Note) (note : Note) :
    ofNotes (notes ++ [note]) = (ofNotes notes).insert note := by
  rw [ofNotes, List.foldl_append]
  rfl

theorem find?_insert (index : Index) (note : Note) (name : Text) :
    (index.insert note).find? name =
      if note.answers name then some note else index.find? name := by
  change (Index.mk ((Text.lower (Slug.stem note.path), note) :: (Text.lower note.title, note) ::
    index.entries)).find? name = _
  rw [find?, List.lookup_cons, List.lookup_cons]
  cases byStem : Text.lower (Text.trim name) == Text.lower (Slug.stem note.path) with
  | true =>
    have found : note.answers name :=
      Note.answers_iff.2 ⟨Slug.stem note.path, by simp [Note.names], (beq_iff_eq.1 byStem).symm⟩
    rw [if_pos found]
  | false =>
    cases byTitle : Text.lower (Text.trim name) == Text.lower note.title with
    | true =>
      have found : note.answers name :=
        Note.answers_iff.2 ⟨note.title, by simp [Note.names], (beq_iff_eq.1 byTitle).symm⟩
      rw [if_pos found]
    | false =>
      have other : ¬note.answers name := by
        rw [Note.answers_iff]
        rintro ⟨own, member, same⟩
        rcases List.mem_pair.1 member with rfl | rfl
        · exact beq_eq_false_iff_ne.1 byTitle same.symm
        · exact beq_eq_false_iff_ne.1 byStem same.symm
      rw [if_neg other]
      rfl

/-- The last note that answers to a name is found by it. -/
theorem find?_ofNotes (notes : List Note) (name : Text) :
    (ofNotes notes).find? name = (notes.filter (Note.answers name)).getLast? := by
  induction notes using List.reverseRecOn with
  | nil => rfl
  | append_singleton notes last inductionHypothesis =>
    rw [ofNotes_concat, find?_insert, List.filter_append, inductionHypothesis]
    split
    · rename_i found
      rw [List.filter_cons_of_pos found, List.filter_nil, List.getLast?_concat]
    · rename_i other
      rw [List.filter_cons_of_neg other, List.filter_nil, List.append_nil]

theorem mem_of_lastNamed? {notes : List Note} {name : Text} {note : Note}
    (last : lastNamed? notes name = some note) : note ∈ notes ∧ note.isNamed name :=
  List.mem_filter.1 (List.mem_of_getLast? last)

/-- A note that is found was put in, and answers to the name. -/
theorem mem_of_find? {notes : List Note} {name : Text} {note : Note}
    (found : (ofNotes notes).find? name = some note) : note ∈ notes ∧ note.answers name := by
  rw [find?_ofNotes] at found
  exact List.mem_filter.1 (List.mem_of_getLast? found)

/-- If the last of the notes that have a name answers to it, it is the last that does. -/
theorem find?_of_lastNamed? {notes : List Note} {name : Text}
    (answers : ∀ note ∈ lastNamed? notes name, note.answers name) :
    (ofNotes notes).find? name = lastNamed? notes name := by
  have sifted : notes.filter (Note.answers name) =
      (notes.filter (Note.isNamed name)).filter (Note.answers name) := by
    rw [List.filter_filter]
    refine List.filter_congr fun note _ => ?_
    cases found : note.answers name with
    | true => rw [Note.isNamed_of_answers found]; rfl
    | false => rfl
  rw [find?_ofNotes, lastNamed?, sifted]
  rcases List.eq_nil_or_concat' (notes.filter (Note.isNamed name)) with none' | ⟨before, last, same⟩
  · rw [none']
    rfl
  · rw [lastNamed?, same, List.getLast?_concat] at answers
    rw [same, List.filter_append, List.filter_cons_of_pos (answers last rfl), List.filter_nil,
      List.getLast?_concat, List.getLast?_concat]

/-- A note that shares its names with no other is the last one that has them. -/
theorem lastNamed?_of_alone {notes : List Note} {note : Note} {own : Text} (inNotes : note ∈ notes)
    (member : own ∈ note.names) (alone : ∀ other ∈ notes, other.isNamed own → other = note) :
    lastNamed? notes own = some note := by
  have named : note.isNamed own := Note.isNamed_iff.2 ⟨own, member, rfl⟩
  cases last : lastNamed? notes own with
  | none =>
    rw [lastNamed?, List.getLast?_eq_none_iff, List.filter_eq_nil_iff] at last
    exact absurd named (last note inNotes)
  | some other =>
    obtain ⟨otherIn, otherNamed⟩ := mem_of_lastNamed? last
    rw [alone other otherIn otherNamed]

/-- The last note of a name is found by it, but for notes whose own name has blanks around it: the
last note has to answer to the name. -/
theorem find?_eq_lastNamed?_iff (notes : List Note) (name : Text) :
    ((ofNotes notes).find? name = lastNamed? notes name ↔
      ∀ note ∈ lastNamed? notes name, note.answers name) ∧
    (∀ note ∈ notes, (∀ other ∈ notes, ∀ own ∈ note.names, other.isNamed own → other = note) →
      ∀ own ∈ note.names, (ofNotes notes).find? own = some note ↔ note.answers own) ∧
    ((∀ note ∈ notes, ∀ own ∈ note.names, Text.trim own = own) →
      (ofNotes notes).find? name = lastNamed? notes name) := by
  refine ⟨⟨fun same note last => ?_, find?_of_lastNamed?⟩, ?_, fun trimmed => ?_⟩
  · exact (mem_of_find? (same.trans last)).2
  · intro note inNotes alone own member
    have last := lastNamed?_of_alone inNotes member fun other inNotes' =>
      alone other inNotes' own member
    refine ⟨fun found => (mem_of_find? found).2, fun answers => ?_⟩
    rw [find?_of_lastNamed? (by rw [last]; exact fun _ same => Option.some.inj same ▸ answers), last]
  · refine find?_of_lastNamed? fun note last => ?_
    obtain ⟨inNotes, named⟩ := mem_of_lastNamed? last
    exact Note.answers_of_isNamed (trimmed note inNotes) named

/-- Of two notes of one name the later one is found, by the title of the earlier one too. -/
theorem find?_eq_lastNamed?_iff_kira :
    let kira : Note := ⟨"npcs/Kira.md", Slug.ofPath "npcs/Kira.md", "Kira", [], none⟩
    let vale : Note := ⟨"places/vale.md", Slug.ofPath "places/vale.md", "KIRA", [], none⟩
    let name : Text := " kira "
    (∀ note ∈ [kira, vale], ∀ own ∈ note.names, Text.trim own = own) ∧
      lastNamed? [kira, vale] name = some vale ∧ (ofNotes [kira, vale]).find? name = some vale := by
  intro kira vale name
  have trimmed : ∀ note ∈ [kira, vale], ∀ own ∈ note.names, Text.trim own = own := by
    decide
  have named : vale.isNamed name := by decide
  have last : lastNamed? [kira, vale] name = some vale := by
    have both : kira.isNamed name := by decide
    rw [lastNamed?, List.filter_cons_of_pos both, List.filter_cons_of_pos named]
    rfl
  exact ⟨trimmed, last, ((find?_eq_lastNamed?_iff _ name).2.2 trimmed).trans last⟩

/-- A note whose title ends in a blank is not found by it, with the blank or without. -/
theorem exists_not_found :
    let note : Note := ⟨"npcs/k.md", Slug.ofPath "npcs/k.md", "Kira ", [], none⟩
    Note.ofPath "npcs/k.md" [] "Kira " none = .ok note ∧
      lastNamed? [note] "Kira" = some note ∧ (ofNotes [note]).find? "Kira" = none ∧
      (∀ other ∈ [note], ∀ own ∈ note.names, other.isNamed own → other = note) ∧
      (ofNotes [note]).find? note.title = none := by
  intro note
  have unanswered : ¬note.answers "Kira" := by decide
  have title : ¬note.answers note.title := by decide
  have named : note.isNamed "Kira" := by decide
  refine ⟨rfl, ?_, ?_, fun other member _ _ _ => List.mem_singleton.1 member, ?_⟩
  · rw [lastNamed?, List.filter_cons_of_pos named]
    rfl
  · rw [find?_ofNotes, List.filter_cons_of_neg unanswered]
    rfl
  · rw [find?_ofNotes, List.filter_cons_of_neg title]
    rfl

/-! ### Slugs -/

/-- A slug that is found is that of a note. -/
theorem exists_of_slug? {notes : List Note} {name slug : Text}
    (found : (ofNotes notes).slug? name = some slug) : ∃ note ∈ notes, note.slug = slug := by
  obtain ⟨note, known, same⟩ := Option.map_eq_some_iff.1 found
  exact ⟨note, (mem_of_find? known).1, same⟩

/-- The slugs of notes hold plain characters and slashes only. -/
theorem not_mem_of_slug? {notes : List Note}
    (slugs : ∀ note ∈ notes, ∃ path, note.slug = Slug.ofPath path) {c : Char}
    (other : Slug.isPlain c = false) (noSlash : c ≠ '/') {name slug : Text}
    (found : (ofNotes notes).slug? name = some slug) : c ∉ slug := by
  obtain ⟨note, known, rfl⟩ := exists_of_slug? found
  obtain ⟨path, same⟩ := slugs note known
  rw [same]
  exact Slug.not_mem_ofPath other noSlash path

/-- The path of a note that is found by the name of its file leads to the note. -/
theorem slugOfPath_eq {index : Index} {note : Note} (slug : note.slug = Slug.ofPath note.path)
    (found : index.find? (Slug.stem note.path) = some note) :
    index.slugOfPath note.path = note.slug := by
  rw [slugOfPath]
  split
  · rename_i blank
    rw [slug, Slug.ofPath_of_blank blank]
  · rw [slug?, found, Option.map_some]
    cases same : note.slug with
    | nil => exact slug.symm.trans same
    | cons c rest => rfl

/-- A note whose path no other note takes: the last note that answers to the name of its file has
its slug, or none. -/
def IsUnshadowed (notes : List Note) (note : Note) : Prop :=
  ∀ last ∈ (notes.filter (Note.answers (Slug.stem note.path))).getLast?,
    last.slug = note.slug ∨ last.slug = []

theorem slugOfPath_eq_iff {notes : List Note} {note : Note}
    (built : note.slug = Slug.ofPath note.path) (filled : note.slug ≠ []) :
    (ofNotes notes).slugOfPath note.path = note.slug ↔ IsUnshadowed notes note := by
  have unblank : ¬Text.isBlankText note.path := fun blank =>
    filled (built.trans (Slug.ofPath_of_blank blank))
  rw [slugOfPath, if_neg unblank, slug?, find?_ofNotes, IsUnshadowed, ← built]
  cases (notes.filter (Note.answers (Slug.stem note.path))).getLast? with
  | none => simp
  | some last =>
    rw [Option.map_some]
    cases slug : last.slug with
    | nil => simp [slug]
    | cons c rest => simp [slug]

end Index

end CampaignPress
