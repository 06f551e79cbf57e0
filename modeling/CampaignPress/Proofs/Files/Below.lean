/-
This file says what lies below a folder of a tree: the places that the names of
the folder begin. All of it is found, unless one of the folders that it lies in
cannot be searched. Where the tree answers for a path, it answers for the place of
the path, so paths of one place are asked for the same entry.
-/
import CampaignPress.Proofs.Files.Tree
import CampaignPress.Proofs.Value.Text

namespace CampaignPress

namespace Files

/-- A tree that is named as trees are: no name is a step back or holds a slash. -/
def HasNames (files : Files) : Prop :=
  ∀ entry ∈ files.entries, ∀ name ∈ entry.1, name ≠ ['.', '.'] ∧ '/' ∉ name

section Below

variable {files : Files} {path : Path}

theorem absolute_eq_goal (files : Files) (path : Path) :
    files.absolute path = goal (files.baseOf path) path.names := rfl

theorem eq_absolute_of_place {place : List Text} (placed : files.place path = .ok place) :
    place = files.absolute path := by
  rw [Files.place] at placed
  split at placed
  · exact nomatch placed
  · exact eq_goal_of_walk placed

/-- The entries of a tree are where they are said to be. -/
theorem exists_mem_of_at? {place : List Text} (inside : place ≠ []) {entry : Entry}
    (here : files.at? place = some entry) : (place, entry) ∈ files.entries := by
  rw [at?_of_ne inside, List.lookup_eq_some_iff] at here
  obtain ⟨before, after, whole, -⟩ := here
  rw [whole]
  exact List.mem_append_right before List.mem_cons_self

theorem find_eq_ok_iff {entry : Entry} : files.find path = .ok entry ↔
    files.place path = .ok (files.absolute path) ∧
      files.at? (files.absolute path) = some entry := by
  rw [find]
  rcases placed : files.place path with cause | place
  · exact ⟨nofun, fun found => nomatch found.1⟩
  · obtain rfl := eq_absolute_of_place placed
    dsimp only
    rcases files.at? (files.absolute path) with _ | other
    · exact ⟨nofun, fun found => nomatch found.2⟩
    · exact ⟨fun same => ⟨rfl, congrArg some (Except.ok.inj same)⟩,
        fun found => congrArg Except.ok (Option.some.inj found.2)⟩

theorem find?_eq_some_iff {entry : Entry} : files.find? path = .ok (some entry) ↔
    holdsNull path = false ∧ files.find path = .ok entry := by
  rw [find?]
  cases holdsNull path with
  | true => exact ⟨nofun, fun found => nomatch found.1⟩
  | false =>
    rcases files.find path with cause | other
    · cases cause <;> exact ⟨nofun, fun found => nomatch found.2⟩
    · exact ⟨fun same => ⟨rfl, congrArg Except.ok (Option.some.inj (Except.ok.inj same))⟩,
        fun found => congrArg (fun entry => Except.ok (some entry)) (Except.ok.inj found.2)⟩

theorem leads_iff : files.leads path = .ok true ↔ ∃ entry, files.find? path = .ok (some entry) := by
  rw [leads, bind_eq_ok]
  constructor
  · rintro ⟨found, same, there⟩
    obtain ⟨entry, rfl⟩ := Option.isSome_iff_exists.1 (Except.ok.inj there)
    exact ⟨entry, same⟩
  · rintro ⟨entry, same⟩
    exact ⟨some entry, same, rfl⟩

theorem isFolder_iff : files.isFolder path = .ok true ↔ files.find? path = .ok (some .folder) := by
  rw [isFolder, bind_eq_ok]
  constructor
  · rintro ⟨found, same, folder⟩
    have folder := Except.ok.inj folder
    rcases found with _ | _ | content
    · exact nomatch folder
    · exact same
    · exact nomatch folder
  · intro same
    exact ⟨some .folder, same, rfl⟩

/-- A path that is asked whether it leads somewhere is asked whether that is a folder. -/
theorem exists_isFolder {isThere : Bool} (asked : files.leads path = .ok isThere) :
    ∃ isFolder, files.isFolder path = .ok isFolder := by
  obtain ⟨found, same, -⟩ := bind_eq_ok.1 asked
  exact ⟨_, bind_eq_ok.2 ⟨found, same, rfl⟩⟩

theorem absolute_of_isFolder (folder : files.isFolder path = .ok true) :
    files.at? (files.absolute path) = some .folder :=
  (find_eq_ok_iff.1 (find?_eq_some_iff.1 (isFolder_iff.1 folder)).2).2

theorem mem_namesBelow_iff {place names : List Text} : names ∈ files.namesBelow place ↔
    names ≠ [] ∧ ∃ entry, (place ++ names, entry) ∈ files.entries := by
  rw [namesBelow, List.mem_filterMap]
  constructor
  · rintro ⟨⟨other, entry⟩, inEntries, taken⟩
    dsimp only at taken
    split at taken
    · rename_i deeper
      rw [Bool.and_eq_true, List.isPrefixOf_iff_prefix, decide_eq_true_eq] at deeper
      obtain ⟨⟨rest, rfl⟩, longer⟩ := deeper
      rw [List.drop_left] at taken
      obtain rfl := Option.some.inj taken
      refine ⟨?_, entry, inEntries⟩
      rintro rfl
      simp at longer
    · exact nomatch taken
  · rintro ⟨nonempty, entry, inEntries⟩
    refine ⟨_, inEntries, ?_⟩
    dsimp only
    rw [if_pos, List.drop_left]
    rw [Bool.and_eq_true, List.isPrefixOf_iff_prefix, decide_eq_true_eq, List.length_append]
    exact ⟨List.prefix_append _ _, Nat.lt_add_of_pos_right (List.length_pos_of_ne_nil nonempty)⟩

theorem hindrance?_eq_none_iff {reaches : Nat → Bool} {names : List Text} :
    hindrance? reaches path names = none ↔ reaches names.length ∧
      (Text.utf8 (pathBelow path names).toText).length ≤ pathLimit := by
  rw [hindrance?]
  cases reaches names.length <;> simp

/-- Every folder from a path on can be searched: none lies too deep, and none has a path that is
too long. -/
def IsSearchable (files : Files) (reaches : Nat → Bool) (path : Path) : Prop :=
  ∀ names, files.at? (files.absolute path ++ names) = some .folder →
    reaches names.length ∧ (Text.utf8 (pathBelow path names).toText).length ≤ pathLimit

variable {reaches : Nat → Bool}

/-- The folders that are searched are all folders from the path on. -/
theorem isSearchable_iff : files.IsSearchable reaches path ↔
      (([] :: files.namesBelow (files.absolute path)).filter fun names =>
        files.at? (files.absolute path ++ names) = some .folder).findSome?
          (hindrance? reaches path) = none := by
  simp only [List.findSome?_eq_none_iff, hindrance?_eq_none_iff, List.mem_filter,
    decide_eq_true_eq, List.mem_cons, mem_namesBelow_iff]
  constructor
  · exact fun searchable names found => searchable names found.2
  · intro each names here
    refine each names ⟨?_, here⟩
    by_cases empty : names = []
    · exact .inl empty
    · exact .inr ⟨empty, .folder, exists_mem_of_at? (List.append_ne_nil_of_right_ne_nil _ empty) here⟩

theorem below_eq (folder : files.isFolder path = .ok true) {found : List (List Text)} :
    files.below reaches path = .ok found ↔
      files.IsSearchable reaches path ∧ found = files.namesBelow (files.absolute path) := by
  rw [isSearchable_iff, below, folder]
  show (match _ with
    | some error => throw error
    | none => pure _ : Except Error (List (List Text))) = _ ↔ _
  split
  · rename_i error hindered
    exact ⟨nofun, fun same => nomatch hindered.symm.trans same.1⟩
  · rename_i free
    exact ⟨fun same => ⟨free, (Except.ok.inj same).symm⟩, fun same => congrArg Except.ok same.2.symm⟩

theorem below_of_not_isFolder (other : files.isFolder path = .ok false) :
    files.below reaches path = .ok [] := by
  rw [below, other]
  rfl

/-- A path is searched if it can be asked for, and all folders from it on can be searched. -/
theorem exists_below {isThere : Bool} (asked : files.leads path = .ok isThere)
    (searchable : files.isFolder path = .ok true → files.IsSearchable reaches path) :
    ∃ found, files.below reaches path = .ok found := by
  obtain ⟨_ | _, folder⟩ := exists_isFolder asked
  · exact ⟨[], below_of_not_isFolder folder⟩
  · exact ⟨_, (below_eq folder).2 ⟨searchable folder, rfl⟩⟩

theorem mem_below_iff {found : List (List Text)} (done : files.below reaches path = .ok found)
    {names : List Text} : names ∈ found ↔ files.isFolder path = .ok true ∧ names ≠ [] ∧
      ∃ entry, (files.absolute path ++ names, entry) ∈ files.entries := by
  obtain ⟨_ | _, folder, -⟩ := bind_eq_ok.1 done
  · obtain rfl := Except.ok.inj ((below_of_not_isFolder folder).symm.trans done)
    exact ⟨fun member => absurd member List.not_mem_nil,
      fun inside => nomatch folder.symm.trans inside.1⟩
  · rw [((below_eq folder).1 done).2, mem_namesBelow_iff]
    exact (and_iff_right folder).symm

end Below

end Files

end CampaignPress
