/-
This file tells which notes are found in a vault. Every file below a source
folder that ends as notes do, and that nothing excludes, is read once: it is met
by the names that lead to it from the folder of the vault, whatever source it is
met below, and two notes of one path are the same note. So the notes are those
that the files hold, and depend on which sources there are, but not on their
order or on how often they are named. All of this fails only where it is not
found out whether a source is there, or what a head says, or where a folder
cannot be searched; then there are no notes at all.
-/
import CampaignPress.Proofs.Files.Below
import CampaignPress.Proofs.Files.Deed
import CampaignPress.Proofs.Text.Lines
import CampaignPress.Proofs.Vault.Notes

namespace CampaignPress

namespace Vault

/-! ### What is to be found -/

/-- The path of names below the vault. -/
def pathOf (vault : Vault) (names : List Text) : Path :=
  { vault.folder with names := vault.folder.names ++ names }

/-- Every source is written as a part of the vault, without steps back. -/
def IsInside (vault : Vault) : Prop :=
  ∀ source ∈ vault.sources, ∃ names, (∀ name ∈ names, name ≠ ['.', '.']) ∧
    source = vault.pathOf names

/-- Names of a note: they lead below a source folder, the last one has the ending of a note, and
none of them is to be passed over. -/
structure IsChosen (vault : Vault) (files : Files) (names : List Text) : Prop where
  source : ∃ source ∈ vault.sources, files.isFolder source = .ok true ∧
    files.absolute source <+: files.absolute vault.folder ++ names
  ending : ∃ folders stem, names = folders ++ [stem ++ noteEnding]
  included : ∀ name ∈ names, ∀ excludes ∈ vault.excluded, excludes name = false

/-- Names of a note that lead to a file. -/
structure IsNoteFile (vault : Vault) (files : Files) (names : List Text) : Prop
    extends IsChosen vault files names where
  file : ∃ content, files.at? (files.absolute vault.folder ++ names) = some (.file content)

/-- A note is what a file holds: the file is text, its head can be loaded, and the title written. -/
def Holds (vault : Vault) (files : Files) (names : List Text) (note : Note) : Prop :=
  ∃ text head, files.readText (vault.pathOf names) = .ok text ∧
    headOf vault.yaml text = .ok (some head) ∧ hasTitle vault.stack head ∧
    Note.ofPath (Text.join "/" names) head [] (some (vault.pathOf names)) = .ok note

/-- It is found out of a text whether it has a head, and there is room to write the title in it. -/
def IsJudged (vault : Vault) (text : Text) : Prop :=
  ∃ head?, headOf vault.yaml text = .ok head? ∧ ∀ head ∈ head?, hasTitle vault.stack head

/-- The notes are those that the files hold, each of a path of its own, in the order of their
paths, and the same for every list of the same sources. -/
def FindsEachOnce (vault : Vault) (files : Files) : Prop :=
  ∃ notes, vault.notes files = .ok notes ∧
    (∀ note, note ∈ notes ↔ ∃ names, vault.IsNoteFile files names ∧ vault.Holds files names note) ∧
    notes.Pairwise (fun a b => a.path < b.path) ∧
    ∀ sources, (∀ source, source ∈ sources ↔ source ∈ vault.sources) →
      { vault with sources }.notes files = .ok notes

/-! ### Names -/

section Names

variable {vault : Vault} {files : Files} {names : List Text}

theorem absolute_pathOf (forward : ∀ name ∈ names, name ≠ ['.', '.']) :
    files.absolute (vault.pathOf names) = files.absolute vault.folder ++ names := by
  rw [Files.absolute_eq_goal, pathOf, Files.goal_append, Files.goal_eq_append forward]
  rfl

theorem ends_iff : Text.endsWith (names.getLast?.getD []) noteEnding ↔
    ∃ folders stem, names = folders ++ [stem ++ noteEnding] := by
  rw [Text.endsWith, List.isSuffixOf_iff_suffix]
  constructor
  · rintro ⟨stem, same⟩
    rcases List.eq_nil_or_concat' names with rfl | ⟨folders, name, rfl⟩
    · exact absurd (List.append_eq_nil_iff.1 same).2 (by decide)
    · rw [List.getLast?_concat] at same
      exact ⟨folders, stem, by rw [same]; rfl⟩
  · rintro ⟨folders, stem, rfl⟩
    rw [List.getLast?_concat]
    exact List.suffix_append stem noteEnding

theorem ends_append_iff {others : List Text} (nonempty : others ≠ []) :
    (∃ folders stem, names ++ others = folders ++ [stem ++ noteEnding]) ↔
      ∃ folders stem, others = folders ++ [stem ++ noteEnding] := by
  rw [← ends_iff, ← ends_iff, List.getLast?_append_of_ne_nil _ nonempty]

theorem isExcluded_eq_false_iff : vault.isExcluded names = false ↔
    ∀ name ∈ names, ∀ excludes ∈ vault.excluded, excludes name = false := by
  simp only [isExcluded, List.any_eq_false, Bool.not_eq_true]

theorem IsChosen.nonempty (chosen : vault.IsChosen files names) : names ≠ [] := by
  obtain ⟨folders, stem, rfl⟩ := chosen.ending
  exact List.concat_ne_nil _ _

/-- Further sources keep the files of notes. -/
theorem IsNoteFile.mono {sources : List Path} (note : vault.IsNoteFile files names)
    (kept : ∀ source ∈ vault.sources, source ∈ sources) :
    { vault with sources }.IsNoteFile files names where
  source := by
    obtain ⟨source, member, folder, above⟩ := note.source
    exact ⟨source, kept source member, folder, above⟩
  ending := note.ending
  included := note.included
  file := note.file

theorem isNoteFile_congr {sources : List Path}
    (same : ∀ source, source ∈ sources ↔ source ∈ vault.sources) :
    { vault with sources }.IsNoteFile files names ↔ vault.IsNoteFile files names :=
  ⟨fun note => note.mono fun source => (same source).1,
    fun note => note.mono fun source => (same source).2⟩

end Names

/-! ### Files -/

section Files

variable {vault : Vault} {files : Files} {names : List Text} {path : Path}

theorem pathBelow_pathOf (vault : Vault) (names rest : List Text) :
    Files.pathBelow (vault.pathOf names) rest = vault.pathOf (names ++ rest) :=
  congrArg (Path.mk vault.folder.root) (List.append_assoc ..)

theorem below?_pathOf (vault : Vault) (names : List Text) :
    vault.folder.below? (vault.pathOf names) = some { root := [], names } := by
  have above : vault.folder.names.isPrefixOf (vault.folder.names ++ names) :=
    List.isPrefixOf_iff_prefix.2 (List.prefix_append _ _)
  rw [Path.below?, pathOf, above, List.drop_left]
  simp

/-- The files that notes of a source folder are read from, if it can be searched. -/
theorem exists_filesIn {found : List (List Text)}
    (done : files.below vault.stack.reaches (vault.pathOf names) = .ok found) :
    ∃ paths, vault.filesIn files (vault.pathOf names) = .ok paths ∧ ∀ path, path ∈ paths ↔
      ∃ rest ∈ found, (∃ folders stem, rest = folders ++ [stem ++ noteEnding]) ∧
        vault.isExcluded (names ++ rest) = false ∧ path = vault.pathOf (names ++ rest) := by
  have drop_pathOf : ∀ others : List Text,
      (vault.pathOf others).names.drop vault.folder.names.length = others :=
    fun others => List.drop_left
  refine ⟨_, bind_eq_ok.2 ⟨found, mapError_eq_ok.2 done, filterM_eq_ok.2
    ⟨fun path => !vault.isExcluded (path.names.drop vault.folder.names.length), ?_, rfl⟩⟩, ?_⟩
  · intro path member
    obtain ⟨rest, -, rfl⟩ := List.mem_map.1 member
    rw [pathBelow_pathOf, below?_pathOf]
    exact congrArg (fun names => Except.ok (!vault.isExcluded names)) (drop_pathOf _).symm
  intro path
  simp only [List.mem_filter, List.mem_map, ends_iff, pathBelow_pathOf, Bool.not_eq_true']
  constructor
  · rintro ⟨⟨rest, ⟨inFound, ending⟩, rfl⟩, kept⟩
    rw [drop_pathOf] at kept
    exact ⟨rest, inFound, ending, kept, rfl⟩
  · rintro ⟨rest, inFound, ending, kept, rfl⟩
    exact ⟨⟨rest, ⟨inFound, ending⟩, rfl⟩, by rw [drop_pathOf]; exact kept⟩

/-- The files of a source folder are found only if it can be searched. -/
theorem exists_below_of_filesIn {source : Path} {paths : List Path}
    (searched : vault.filesIn files source = .ok paths) :
    ∃ found, files.below vault.stack.reaches source = .ok found := by
  obtain ⟨found, done, -⟩ := bind_eq_ok.1 searched
  exact ⟨found, mapError_eq_ok.1 done⟩

variable (inside : vault.IsInside) {source : Path} (member : source ∈ vault.sources)
variable {paths : List Path} (searched : vault.filesIn files source = .ok paths)
include inside member searched

/-- Every file of a source has chosen names, which the tree has an entry for. -/
theorem exists_isChosen_of_mem_filesIn (found : path ∈ paths) : ∃ names,
    path = vault.pathOf names ∧ vault.IsChosen files names ∧
      ∃ entry, (files.absolute vault.folder ++ names, entry) ∈ files.entries := by
  obtain ⟨above, forward, rfl⟩ := inside source member
  obtain ⟨below, done⟩ := exists_below_of_filesIn searched
  obtain ⟨paths', searched', members⟩ := exists_filesIn done
  obtain rfl := Except.ok.inj (searched'.symm.trans searched)
  obtain ⟨rest, inBelow, ending, kept, rfl⟩ := (members path).1 found
  obtain ⟨folder, nonempty, entry, inEntries⟩ := (Files.mem_below_iff done).1 inBelow
  rw [absolute_pathOf forward, List.append_assoc] at inEntries
  refine ⟨above ++ rest, rfl, ⟨⟨_, member, folder, ?_⟩, (ends_append_iff nonempty).2 ending,
    isExcluded_eq_false_iff.1 kept⟩, entry, inEntries⟩
  rw [absolute_pathOf forward, ← List.append_assoc]
  exact List.prefix_append _ _

/-- Every file of a note below a source is a file of the source. -/
theorem mem_filesIn_of_isNoteFile (note : vault.IsNoteFile files names)
    (folder : files.isFolder source = .ok true)
    (below : files.absolute source <+: files.absolute vault.folder ++ names) :
    vault.pathOf names ∈ paths := by
  obtain ⟨above, forward, rfl⟩ := inside source member
  obtain ⟨found, done⟩ := exists_below_of_filesIn searched
  obtain ⟨paths', searched', members⟩ := exists_filesIn done
  obtain rfl := Except.ok.inj (searched'.symm.trans searched)
  rw [absolute_pathOf forward, List.prefix_append_right_inj] at below
  obtain ⟨rest, rfl⟩ := below
  obtain ⟨content, file⟩ := note.file
  have entry := Files.exists_mem_of_at? (List.append_ne_nil_of_right_ne_nil _ note.nonempty) file
  have nonempty : rest ≠ [] := by
    rintro rfl
    have here := Files.absolute_of_isFolder folder
    rw [absolute_pathOf forward, ← List.append_nil above, file] at here
    exact nomatch here
  refine (members _).2 ⟨rest, (Files.mem_below_iff done).2
    ⟨folder, nonempty, .file content, ?_⟩, (ends_append_iff nonempty).1 note.ending,
    isExcluded_eq_false_iff.2 note.included, rfl⟩
  rw [absolute_pathOf forward, List.append_assoc]
  exact entry

end Files

/-! ### Single notes -/

section Single

variable {vault : Vault} {files : Files} {names : List Text}

theorem load_pathOf (forward : ∀ name ∈ names, name ≠ ['.', '.']) :
    vault.load files (vault.pathOf names) =
      match files.readText (vault.pathOf names) with
      | .error _ => .ok none
      | .ok text => do
        let some head ← headOf vault.yaml text | return none
        if !hasTitle vault.stack head then throw (.title .tooDeep)
        let made := Note.ofPath (Text.join "/" names) head [] (some (vault.pathOf names))
        return made.toOption := by
  have above : (files.absolute vault.folder).isPrefixOf (files.absolute vault.folder ++ names) :=
    List.isPrefixOf_iff_prefix.2 (List.prefix_append _ _)
  rw [load, absolute_pathOf forward]
  dsimp only
  rw [above, List.drop_left]
  rfl

theorem load_eq_some_iff (forward : ∀ name ∈ names, name ≠ ['.', '.']) {note : Note} :
    vault.load files (vault.pathOf names) = .ok (some note) ↔ vault.Holds files names note := by
  rw [load_pathOf forward, Holds]
  rcases read : files.readText (vault.pathOf names) with error | text
  · exact ⟨nofun, fun ⟨_, _, same, _⟩ => nomatch same⟩
  dsimp only
  rw [bind_eq_ok]
  constructor
  · rintro ⟨head?, loaded, made⟩
    rcases head? with _ | head
    · exact nomatch made
    · dsimp only at made
      cases titled : hasTitle vault.stack head with
      | false =>
        rw [titled] at made
        exact nomatch made
      | true =>
        rw [titled] at made
        exact ⟨text, head, rfl, loaded, titled, toOption_eq_some_iff.1 (Except.ok.inj made)⟩
  · rintro ⟨_, head, same, loaded, titled, made⟩
    obtain rfl := Except.ok.inj same
    refine ⟨some head, loaded, ?_⟩
    dsimp only
    rw [titled]
    exact congrArg Except.ok (toOption_eq_some_iff.2 made)

theorem exists_load_iff (forward : ∀ name ∈ names, name ≠ ['.', '.']) :
    (∃ note?, vault.load files (vault.pathOf names) = .ok note?) ↔
      ∀ text, files.readText (vault.pathOf names) = .ok text → vault.IsJudged text := by
  rw [load_pathOf forward]
  rcases read : files.readText (vault.pathOf names) with error | text
  · exact ⟨fun _ => nofun, fun _ => ⟨none, rfl⟩⟩
  dsimp only
  constructor
  · rintro ⟨note?, done⟩ _ same
    obtain rfl := Except.ok.inj same
    obtain ⟨head?, loaded, rest⟩ := bind_eq_ok.1 done
    refine ⟨head?, loaded, ?_⟩
    rintro head rfl
    cases titled : hasTitle vault.stack head with
    | false =>
      dsimp only at rest
      rw [titled] at rest
      exact nomatch rest
    | true => rfl
  · intro each
    obtain ⟨head?, loaded, titled⟩ := each text rfl
    rw [loaded]
    rcases head? with _ | head
    · exact ⟨none, rfl⟩
    · refine ⟨(Note.ofPath (Text.join "/" names) head [] (some (vault.pathOf names))).toOption,
        bind_eq_ok.2 ⟨some head, rfl, ?_⟩⟩
      dsimp only
      rw [titled head rfl]
      rfl

/-- What is read as a note lies in a file. -/
theorem IsChosen.isNoteFile (chosen : vault.IsChosen files names)
    (forward : ∀ name ∈ names, name ≠ ['.', '.']) {text : Text}
    (read : files.readText (vault.pathOf names) = .ok text) : vault.IsNoteFile files names := by
  obtain ⟨-, place, content, placed, file⟩ := Files.exists_of_readText read
  obtain rfl := Files.eq_absolute_of_place placed
  exact ⟨chosen, content, absolute_pathOf forward ▸ file⟩

theorem path_of_ofPath {path title : Text} {head : Frontmatter} {source : Option Path}
    {note : Note} (made : Note.ofPath path head title source = .ok note) : note.path = path := by
  obtain ⟨titled, -, same⟩ := bind_eq_ok.1 made
  obtain rfl := Except.ok.inj same
  rfl

/-- Notes of one path are the same note. -/
theorem Holds.eq_of_path_eq {others : List Text} {first second : Note}
    (held : vault.Holds files names first) (other : vault.Holds files others second)
    (slashless : ∀ name ∈ names, '/' ∉ name) (slashlessOthers : ∀ name ∈ others, '/' ∉ name)
    (nonempty : names ≠ []) (nonemptyOthers : others ≠ []) (same : first.path = second.path) :
    first = second := by
  obtain ⟨text, head, read, loaded, -, made⟩ := held
  obtain ⟨text', head', read', loaded', -, made'⟩ := other
  rw [path_of_ofPath made, path_of_ofPath made'] at same
  have names' := congrArg (Text.splitOn '/') same
  rw [show ("/" : Text) = ['/'] from rfl, Text.splitOn_join slashless nonempty,
    Text.splitOn_join slashlessOthers nonemptyOthers] at names'
  subst names'
  obtain rfl := Except.ok.inj (read.symm.trans read')
  obtain rfl := Option.some.inj (Except.ok.inj (loaded.symm.trans loaded'))
  exact Except.ok.inj (made.symm.trans made')

end Single

/-! ### All notes -/

theorem mem_putNote_iff {notes : List Note} {note : Note}
    (alone : ∀ other ∈ notes, other.path = note.path → other = note) {other : Note} :
    other ∈ putNote notes note ↔ other ∈ notes ∨ other = note := by
  rw [putNote]
  split
  · rename_i taken
    obtain ⟨old, inNotes, same⟩ := List.any_eq_true.1 taken
    obtain rfl := alone old inNotes (of_decide_eq_true same)
    have kept : notes.map (fun other => if other.path = old.path then old else other) = notes := by
      refine (List.map_congr_left fun other member => ?_).trans (List.map_id notes)
      split
      · rename_i same
        exact (alone other member same).symm
      · rfl
    rw [kept, or_iff_left_of_imp]
    rintro rfl
    exact inNotes
  · rw [List.mem_append, List.mem_singleton]

/-- Nothing is replaced where notes of one path are the same note. -/
theorem mem_foldl_putNote_iff {loaded notes : List Note}
    (alone : ∀ first ∈ notes ++ loaded, ∀ second ∈ notes ++ loaded,
      first.path = second.path → first = second) {note : Note} :
    note ∈ loaded.foldl putNote notes ↔ note ∈ notes ∨ note ∈ loaded := by
  induction loaded generalizing notes with
  | nil => exact (or_iff_left List.not_mem_nil).symm
  | cons first loaded inductionHypothesis =>
    have step : ∀ other, other ∈ putNote notes first ↔ other ∈ notes ∨ other = first :=
      fun other => mem_putNote_iff fun other member same =>
        alone other (List.mem_append_left _ member) first
          (List.mem_append_right _ List.mem_cons_self) same
    have known : ∀ other ∈ putNote notes first ++ loaded, other ∈ notes ++ first :: loaded := by
      intro other member
      rw [List.mem_append, step, or_assoc] at member
      exact List.mem_append.2 (member.imp_right List.mem_cons.2)
    rw [List.foldl_cons, inductionHypothesis fun first member second other same =>
      alone first (known first member) second (known second other) same, step, List.mem_cons,
      or_assoc]

section All

variable {vault : Vault} {files : Files}

theorem present_eq_ok_iff {present : List Path} : vault.present files = .ok present ↔
    vault.sources.filterM files.leads = .ok present ∧ present ≠ [] := by
  rw [Vault.present, bind_eq_ok]
  rcases vault.sources.filterM files.leads with error | found
  · exact ⟨fun ⟨_, same, _⟩ => (nomatch same), fun ⟨same, _⟩ => nomatch same⟩
  constructor
  · rintro ⟨_, same, rest⟩
    obtain rfl := Except.ok.inj same
    cases found with
    | nil => exact nomatch rest
    | cons source found =>
      obtain rfl := Except.ok.inj rest
      exact ⟨rfl, List.cons_ne_nil source found⟩
  · rintro ⟨same, nonempty⟩
    obtain rfl := Except.ok.inj same
    exact ⟨_, rfl, by rw [List.isEmpty_eq_false_iff.2 nonempty]; rfl⟩

theorem mem_present_iff {present : List Path} (done : vault.present files = .ok present)
    {source : Path} :
    source ∈ present ↔ source ∈ vault.sources ∧ files.leads source = .ok true := by
  obtain ⟨test, each, rfl⟩ := filterM_eq_ok.1 (present_eq_ok_iff.1 done).1
  rw [List.mem_filter]
  refine and_congr_right fun member => ?_
  rw [each source member, Except.ok.injEq]

/-- The sources are told apart if each of them can be asked for, and one is there. -/
theorem exists_present
    (each : ∀ source ∈ vault.sources, ∃ isThere, files.leads source = .ok isThere)
    (there : ∃ source ∈ vault.sources, files.leads source = .ok true) :
    ∃ present, vault.present files = .ok present := by
  choose! test answers using each
  obtain ⟨source, member, leads⟩ := there
  have kept : test source = true := Except.ok.inj ((answers source member).symm.trans leads)
  exact ⟨_, present_eq_ok_iff.2 ⟨filterM_eq_filter answers,
    List.ne_nil_of_mem (List.mem_filter.2 ⟨member, kept⟩)⟩⟩

theorem notes_eq_ok_iff {notes : List Note} : vault.notes files = .ok notes ↔
    ∃ present groups loaded, vault.present files = .ok present ∧
      present.mapM (vault.filesIn files) = .ok groups ∧
      groups.flatten.mapM (vault.load files) = .ok loaded ∧
      ((loaded.filterMap id).foldl putNote []).mergeSort
        (fun left right => Text.atMost left.path right.path) = notes := by
  simp only [Vault.notes, bind_eq_ok]
  constructor
  · rintro ⟨present, here, groups, searched, loaded, read, same⟩
    exact ⟨present, groups, loaded, here, searched, read, Except.ok.inj same⟩
  · rintro ⟨present, groups, loaded, here, searched, read, same⟩
    exact ⟨present, here, groups, searched, loaded, read, congrArg Except.ok same⟩

/-- A file that the tree has an entry for is named as the tree is. -/
theorem names_of_mem {names : List Text} (named : files.HasNames) {entry : Entry}
    (member : (files.absolute vault.folder ++ names, entry) ∈ files.entries) :
    ∀ name ∈ names, name ≠ ['.', '.'] ∧ '/' ∉ name :=
  fun name inNames => named _ member name (List.mem_append_right _ inNames)

theorem IsNoteFile.names {names : List Text} (note : vault.IsNoteFile files names)
    (named : files.HasNames) : ∀ name ∈ names, name ≠ ['.', '.'] ∧ '/' ∉ name := by
  obtain ⟨content, file⟩ := note.file
  exact names_of_mem named
    (Files.exists_mem_of_at? (List.append_ne_nil_of_right_ne_nil _ note.nonempty) file)

section Searched

variable (inside : vault.IsInside) {present : List Path}
variable (here : vault.present files = .ok present) {groups : List (List Path)}
variable (searched : present.mapM (vault.filesIn files) = .ok groups)
include inside here searched

theorem exists_isChosen_of_mem {path : Path} (found : path ∈ groups.flatten) : ∃ names,
    path = vault.pathOf names ∧ vault.IsChosen files names ∧
      ∃ entry, (files.absolute vault.folder ++ names, entry) ∈ files.entries := by
  obtain ⟨group, inGroups, inGroup⟩ := List.mem_flatten.1 found
  obtain ⟨source, inPresent, done⟩ := exists_of_mem_mapM searched inGroups
  have member := ((mem_present_iff here).1 inPresent).1
  exact exists_isChosen_of_mem_filesIn inside member done inGroup

theorem IsNoteFile.mem_flatten {names : List Text} (note : vault.IsNoteFile files names) :
    vault.pathOf names ∈ groups.flatten := by
  obtain ⟨source, member, folder, above⟩ := note.source
  have there : files.leads source = .ok true :=
    Files.leads_iff.2 ⟨.folder, Files.isFolder_iff.1 folder⟩
  obtain ⟨group, inGroups, done⟩ :=
    exists_mem_of_mapM searched ((mem_present_iff here).2 ⟨member, there⟩)
  exact List.mem_flatten.2
    ⟨group, inGroups, mem_filesIn_of_isNoteFile inside member done note folder above⟩

variable (named : files.HasNames) {loaded : List (Option Note)}
include named

theorem mem_loaded_iff (read : groups.flatten.mapM (vault.load files) = .ok loaded)
    {note : Note} : note ∈ loaded.filterMap id ↔
      ∃ names, vault.IsNoteFile files names ∧ vault.Holds files names note := by
  rw [List.mem_filterMap]
  constructor
  · rintro ⟨_, inLoaded, rfl⟩
    obtain ⟨path, found, loads⟩ := exists_of_mem_mapM read inLoaded
    obtain ⟨names, rfl, chosen, entry, member⟩ := exists_isChosen_of_mem inside here searched found
    have forward := fun name inNames => (names_of_mem named member name inNames).1
    have held := (load_eq_some_iff forward).1 loads
    obtain ⟨text, head, isText, -⟩ := id held
    exact ⟨names, chosen.isNoteFile forward isText, held⟩
  · rintro ⟨names, isNote, held⟩
    have forward := fun name inNames => (isNote.names named name inNames).1
    obtain ⟨note?, inLoaded, loads⟩ :=
      exists_mem_of_mapM read (isNote.mem_flatten inside here searched)
    rw [(load_eq_some_iff forward).2 held] at loads
    exact ⟨note?, inLoaded, (Except.ok.inj loads).symm⟩

end Searched

/-- Two files of one path are one file. -/
theorem eq_of_path_eq (named : files.HasNames) {first second : Note}
    (one : ∃ names, vault.IsNoteFile files names ∧ vault.Holds files names first)
    (other : ∃ names, vault.IsNoteFile files names ∧ vault.Holds files names second)
    (same : first.path = second.path) : first = second := by
  obtain ⟨names, isNote, held⟩ := one
  obtain ⟨others, isOther, heldOther⟩ := other
  exact held.eq_of_path_eq heldOther (fun name member => (isNote.names named name member).2)
    (fun name member => (isOther.names named name member).2) isNote.nonempty isOther.nonempty same

/-- Where all sources can be searched and all heads judged, the notes are those that the files
hold. -/
theorem exists_notes (named : files.HasNames) (inside : vault.IsInside)
    (there : ∃ source ∈ vault.sources, files.leads source = .ok true)
    (each : ∀ source ∈ vault.sources, ∃ isThere, files.leads source = .ok isThere)
    (searchable : ∀ source ∈ vault.sources, files.isFolder source = .ok true →
      files.IsSearchable vault.stack.reaches source)
    (heads : ∀ names text, vault.IsNoteFile files names →
      files.readText (vault.pathOf names) = .ok text → vault.IsJudged text) :
    ∃ notes, vault.notes files = .ok notes ∧ ∀ note, note ∈ notes ↔
      ∃ names, vault.IsNoteFile files names ∧ vault.Holds files names note := by
  obtain ⟨present, here⟩ := exists_present each there
  obtain ⟨groups, searched⟩ : ∃ groups, present.mapM (vault.filesIn files) = .ok groups := by
    refine exists_mapM fun source inPresent => ?_
    obtain ⟨member, leads⟩ := (mem_present_iff here).1 inPresent
    obtain ⟨found, done⟩ := Files.exists_below leads (searchable source member)
    obtain ⟨names, -, rfl⟩ := inside source member
    obtain ⟨paths, done, -⟩ := exists_filesIn done
    exact ⟨paths, done⟩
  obtain ⟨loaded, read⟩ : ∃ loaded, groups.flatten.mapM (vault.load files) = .ok loaded := by
    refine exists_mapM fun path member => ?_
    obtain ⟨names, rfl, chosen, entry, member⟩ := exists_isChosen_of_mem inside here searched member
    have forward := fun name inNames => (names_of_mem named member name inNames).1
    exact (exists_load_iff forward).2 fun text isText =>
      heads names text (chosen.isNoteFile forward isText) isText
  refine ⟨_, notes_eq_ok_iff.2 ⟨present, groups, loaded, here, searched, read, rfl⟩, fun note => ?_⟩
  have members : ∀ note, note ∈ loaded.filterMap id ↔
      ∃ names, vault.IsNoteFile files names ∧ vault.Holds files names note :=
    fun note => mem_loaded_iff inside here searched named read
  rw [List.mem_mergeSort, mem_foldl_putNote_iff, or_iff_right List.not_mem_nil, members]
  intro first inFirst second inSecond same
  rw [List.nil_append, members] at inFirst inSecond
  exact eq_of_path_eq named inFirst inSecond same

/-- Lists of the same notes in the order of their paths are the same list. -/
theorem eq_of_mem_iff {notes others : List Note}
    (sorted : notes.Pairwise fun a b => a.path < b.path)
    (sortedOthers : others.Pairwise fun a b => a.path < b.path)
    (same : ∀ note, note ∈ notes ↔ note ∈ others) : notes = others := by
  have distinct : ∀ {notes : List Note}, (notes.Pairwise fun a b => a.path < b.path) →
      notes.Nodup := fun sorted => sorted.imp fun before same => (same ▸ before).false
  have perm := (List.perm_ext_iff_of_nodup (distinct sorted) (distinct sortedOthers)).2 same
  exact perm.eq_of_pairwise (fun a b _ _ before after => absurd before (lt_asymm after))
    sorted sortedOthers

end All

/-- A vault in which one source lies in another one and is named twice. -/
def shelf : Vault where
  folder := .ofText "vault"
  sources := [.ofText "vault/s", .ofText "vault", .ofText "vault/s"]
  excluded := (standardExclusions.filterMap Pattern.ofText?).map Pattern.occursIn

/-- A note in each source, and a folder that is named as a note. -/
def shelfFiles : Files where
  entries := [(["vault".toList], .folder),
    (["vault".toList, "a.md".toList], .file (Text.utf8 "x")),
    (["vault".toList, "s".toList], .folder),
    (["vault".toList, "s".toList, "b.md".toList], .file (Text.utf8 "---\n---\n")),
    (["vault".toList, "s.md".toList], .folder)]

/-- Two notes, of which the first one calls for a truth value where there is none. -/
def maybeFiles : Files where
  entries := [(["vault".toList], .folder),
    (["vault".toList, "a.md".toList], .file (Text.utf8 "---\nx: !!bool maybe\n---\n")),
    (["vault".toList, "b.md".toList], .file (Text.utf8 "hi\n"))]

end Vault

end CampaignPress
