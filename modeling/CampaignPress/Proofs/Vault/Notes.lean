/-
This file says what is known of the notes that are found in a vault. Each was
read from a file whose name has the ending of a note, has the slug that its path
gives, and has a path of its own; and they come in the order of their paths.
-/
import CampaignPress.Proofs.Query.Order
import CampaignPress.Vault.Basic

namespace CampaignPress

namespace Vault

/-! ### Files -/

theorem exists_names_of_mem_filesIn {vault : Vault} {files : Files} {source path : Path}
    {paths : List Path} (done : vault.filesIn files source = .ok paths) (member : path ∈ paths) :
    ∃ folders name, path.names = folders ++ [name] ∧ Text.endsWith name noteEnding := by
  obtain ⟨found, -, rest⟩ := bind_eq_ok.1 done
  obtain ⟨test, -, rfl⟩ := filterM_eq_ok.1 rest
  obtain ⟨names, inFound, rfl⟩ := List.mem_map.1 (List.mem_of_mem_filter member)
  have ending := (List.mem_filter.1 inFound).2
  rcases List.eq_nil_or_concat' names with rfl | ⟨folders, name, rfl⟩
  · exact absurd ending (by decide)
  · rw [List.getLast?_append] at ending
    exact ⟨source.names ++ folders, name, (List.append_assoc ..).symm, ending⟩

/-! ### Single notes -/

/-- A note as it is found: read from a file with the ending of a note. -/
structure Found (files : Files) (note : Note) : Prop where
  slug : note.slug = Slug.ofPath note.path
  source : ∃ path folders name text, note.source = some path ∧ path.names = folders ++ [name] ∧
    Text.endsWith name noteEnding ∧ files.readText path = .ok text

theorem slug_of_ofPath {path title : Text} {head : Frontmatter} {source : Option Path}
    {note : Note} (made : (Note.ofPath path head title source).toOption = some note) :
    note.slug = Slug.ofPath note.path ∧ note.source = source := by
  rw [Note.ofPath] at made
  cases titled : Note.titleFor path head title with
  | error fault =>
    rw [titled] at made
    exact nomatch made
  | ok title =>
    rw [titled] at made
    have same : { path, slug := Slug.ofPath path, title, frontmatter := head, source } = note :=
      Option.some.inj made
    rw [← same]
    exact ⟨by dsimp only, by dsimp only⟩

theorem found_of_load {vault : Vault} {files : Files} {path : Path} {note : Note}
    (done : vault.load files path = .ok (some note)) {folders : List Text} {name : Text}
    (whole : path.names = folders ++ [name]) (ending : Text.endsWith name noteEnding) :
    Found files note := by
  rw [load] at done
  dsimp only at done
  split at done
  · exact nomatch done
  · split at done
    · exact nomatch done
    · rename_i text read
      obtain ⟨head?, -, rest⟩ := bind_eq_ok.1 done
      cases head? with
      | none => exact nomatch rest
      | some head =>
        dsimp only at rest
        split at rest
        · exact nomatch rest
        obtain ⟨slug, source⟩ := slug_of_ofPath (Except.ok.inj rest)
        exact ⟨slug, path, folders, name, text, source, whole, ending, read⟩

/-! ### All notes -/

/-- Notes that have a path of their own each. -/
def Separate (notes : List Note) : Prop := notes.Pairwise fun a b => a.path ≠ b.path

theorem mem_putNote {notes : List Note} {note other : Note} (member : other ∈ putNote notes note) :
    other = note ∨ other ∈ notes := by
  rw [putNote] at member
  split at member
  · obtain ⟨old, inNotes, same⟩ := List.mem_map.1 member
    split at same
    · exact .inl same.symm
    · exact .inr (same ▸ inNotes)
  · rcases List.mem_append.1 member with inNotes | last
    · exact .inr inNotes
    · exact .inl (List.mem_singleton.1 last)

theorem Separate.putNote {notes : List Note} (separate : Separate notes) (note : Note) :
    Separate (putNote notes note) := by
  rw [Vault.putNote]
  split
  · refine List.pairwise_map.2 (separate.imp fun {a b} different => ?_)
    split <;> split
    · rename_i first second
      exact absurd (first.trans second.symm) different
    · rename_i second
      exact fun same => second same.symm
    · rename_i first second
      exact fun same => first same
    · exact different
  · rename_i fresh
    refine List.pairwise_append.2 ⟨separate, List.pairwise_singleton _ _, fun other member last => ?_⟩
    rintro inLast same
    rw [List.mem_singleton.1 inLast] at same
    exact fresh (List.any_eq_true.2 ⟨other, member, decide_eq_true same⟩)

theorem foldl_putNote (loaded : List Note) {notes : List Note} (separate : Separate notes) :
    Separate (loaded.foldl putNote notes) ∧
      ∀ note ∈ loaded.foldl putNote notes, note ∈ notes ∨ note ∈ loaded := by
  induction loaded generalizing notes with
  | nil => exact ⟨separate, fun note member => .inl member⟩
  | cons first loaded inductionHypothesis =>
    obtain ⟨distinct, each⟩ := inductionHypothesis (separate.putNote first)
    refine ⟨distinct, fun note member => ?_⟩
    rcases each note member with inPut | later
    · rcases mem_putNote inPut with rfl | before
      · exact .inr List.mem_cons_self
      · exact .inl before
    · exact .inr (List.mem_cons_of_mem _ later)

/-- The notes of a vault are found in its files, and come in the order of their paths. -/
theorem found_of_notes {vault : Vault} {files : Files} {notes : List Note}
    (done : vault.notes files = .ok notes) : (∀ note ∈ notes, Found files note) ∧
      notes.Pairwise fun a b => a.path < b.path := by
  obtain ⟨present, -, rest⟩ := bind_eq_ok.1 done
  obtain ⟨paths, searched, rest⟩ := bind_eq_ok.1 rest
  obtain ⟨loaded, read, rest⟩ := bind_eq_ok.1 rest
  obtain rfl := Except.ok.inj rest
  obtain ⟨separate, each⟩ := foldl_putNote (loaded.filterMap id) List.Pairwise.nil
  have same := List.mergeSort_perm ((loaded.filterMap id).foldl putNote [])
    fun left right => Text.atMost left.path right.path
  refine ⟨fun note member => ?_, ?_⟩
  · have inLoaded := each note (same.mem_iff.1 member)
    rw [or_iff_right List.not_mem_nil, List.mem_filterMap] at inLoaded
    obtain ⟨_, inLoaded, rfl⟩ := inLoaded
    obtain ⟨path, inPaths, loads⟩ := exists_of_mem_mapM read inLoaded
    obtain ⟨group, inGroups, inGroup⟩ := List.mem_flatten.1 inPaths
    obtain ⟨source, -, found⟩ := exists_of_mem_mapM searched inGroups
    obtain ⟨folders, name, whole, ending⟩ := exists_names_of_mem_filesIn found inGroup
    exact found_of_load loads whole ending
  · have distinct := (same.pairwise_iff fun different => Ne.symm different).2 separate
    have sorted := @List.pairwise_mergeSort _
      (fun left right : Note => Text.atMost left.path right.path) ?_ ?_
      ((loaded.filterMap id).foldl putNote [])
    · refine (sorted.and distinct).imp fun {a b} both => ?_
      exact lt_of_le_of_ne (Text.atMost_iff.1 both.1) both.2
    · intro a b c
      simpa only [Text.atMost_iff] using le_trans
    · intro a b
      simpa only [Bool.or_eq_true, Text.atMost_iff] using le_total a.path b.path

end Vault

end CampaignPress
