/-
This file says which notes lie in a folder that is written in double quotes. A
folder is looked for at the beginning of the path, with a slash behind it, and
no slash changes in small letters, so the names of the folder stand at the
beginning of the names of the path. All quotes are taken off the ends of the
folder first; where one of them belongs to a name, the name is cut short. And
where no name is left, no note lies in the folder, since no path begins with a
slash.
-/
import CampaignPress.Proofs.Query.Quoted
import CampaignPress.Proofs.Slug
import CampaignPress.Proofs.Text.Pieces

namespace CampaignPress

namespace Query

/-! ### Paths and folders -/

/-- The names that a path is made of, with either slash between them. -/
def namesOf (path : Text) : List Text := Text.splitOn '/' (Slug.forward path)

/-- The path of a note below the vault has no empty names. -/
def IsVaultPath (path : Text) : Prop := ∀ name ∈ namesOf path, name ≠ []

instance (path : Text) : Decidable (IsVaultPath path) :=
  inferInstanceAs (Decidable (∀ name ∈ namesOf path, name ≠ []))

/-- The names of a folder are written with either slash between them, and with any number of slashes
around them. -/
structure IsWritten (names : List Text) (folder : Text) : Prop where
  named : ∀ name ∈ names, name ≠ [] ∧ '/' ∉ name
  spelled : ∃ before after, Slug.forward folder =
    List.replicate before '/' ++ (Text.join ['/'] names ++ List.replicate after '/')

/-- The names of a folder are the first ones of a note's path, in any case. -/
def LiesBelow (names : List Text) (note : Note) : Prop :=
  names.map Text.lower <+: (namesOf note.path).map Text.lower

instance (names : List Text) (note : Note) : Decidable (LiesBelow names note) :=
  inferInstanceAs (Decidable (_ <+: _))

/-- The notes in a folder in double quotes are those below its names. -/
def StandsFor (folder : Text) (names : List Text) : Prop :=
  ∀ note : Note, IsVaultPath note.path →
    inScope ⟨inQuotes folder⟩ note = .ok (decide (LiesBelow names note))

def isQuote (c : Char) : Bool := c = '"' || c = '\x27'

/-- Neither end of a folder is a quote of either kind. -/
structure HasUnquotedEnds (folder : Text) : Prop where
  first : ∀ c ∈ folder.head?, isQuote c = false
  last : ∀ c ∈ folder.getLast?, isQuote c = false

/-- The names of a path are the folder's but for the last one, which goes on. -/
def MerelyStarts (names : List Text) (note : Note) : Prop :=
  ∃ before name more rest, names = before ++ [name] ∧ more ≠ [] ∧
    namesOf note.path = before ++ (name ++ more) :: rest

/-- A note of which nothing is known but its path. -/
def noteAt (path : Text) : Note := ⟨path, [], [], [], none⟩

/-! ### Reading a folder -/

/-- Turning slashes changes no quotes. -/
theorem count_forward {c : Char} (quote : isQuote c) (path : Text) :
    (Slug.forward path).count c = path.count c := by
  have turned (d : Char) : (if d = '\\' then '/' else d) = c ↔ d = c := by
    split
    · rename_i backslash
      rw [backslash]
      constructor
      · rintro rfl
        exact absurd quote (by decide)
      · rintro rfl
        exact absurd quote (by decide)
    · rfl
  rw [Slug.forward, Text.replaceChar, List.count_eq_countP, List.countP_map, List.count_eq_countP]
  refine List.countP_congr fun d _ => ?_
  rw [Function.comp_apply, beq_iff_eq, beq_iff_eq]
  exact turned d

/-- A folder in double quotes is read as it is written. -/
theorem ofLine_from_inQuotes (folder : Text) :
    Clause.ofLine ("FROM " ++ inQuotes folder) = .scope ⟨inQuotes folder⟩ := by
  have trimmed : Text.trim (' ' :: inQuotes folder) = inQuotes folder :=
    (Text.trim_blank_cons _).trans (trim_inQuotes folder)
  have follows : Follows (' ' :: inQuotes folder) := fun c found => (Option.some.inj found).symm
  have spelled : Spelled "FROM" "FROM".toList := by
    unfold Spelled
    decide
  have filled : Text.trim (' ' :: inQuotes folder) ≠ [] := by
    rw [trimmed]
    exact List.cons_ne_nil _ _
  have read := ofLine_from follows spelled filled
  rwa [trimmed] at read

theorem folder_inQuotes (folder : Text) :
    (Scope.mk (inQuotes folder)).folder = Text.dropEnds isQuote folder := by
  have quote : isQuote '"' := rfl
  show Text.dropEnds isQuote ('"' :: (folder ++ ['"'])) = _
  rw [Text.dropEnds_cons quote, Text.dropEnds_concat quote]

def isSlash (c : Char) : Bool := c == '/'

/-- The folder that is looked for at the beginning of a path. -/
def soughtFolder (folder : Text) : Text :=
  Text.dropEnds isSlash (Slug.forward (Text.dropEnds isQuote folder))

/-- A folder is looked for name by name. -/
theorem inScope_inQuotes (folder : Text) (note : Note) : inScope ⟨inQuotes folder⟩ note =
    .ok (decide (LiesBelow (Text.splitOn '/' (soughtFolder folder)) note)) := by
  have noTag : (Scope.mk (inQuotes folder)).isTag = false := rfl
  rw [inScope, if_neg (Bool.not_eq_true _ ▸ noTag), folder_inQuotes]
  refine congrArg Except.ok (Bool.eq_iff_iff.2 ?_)
  rw [decide_eq_true_eq, LiesBelow, namesOf, ← Text.isCaseless_slash.splitOn_lower,
    ← Text.isCaseless_slash.splitOn_lower, Text.splitOn_prefix_iff]
  simp only [liesIn, Text.startsWith, Bool.or_eq_true, decide_eq_true_eq, List.isPrefixOf_iff_prefix]
  rfl

/-! ### Names -/

section Written

variable {names : List Text} {folder : Text} (written : IsWritten names folder)
include written

/-- Without the slashes around it, a folder is its names. -/
theorem IsWritten.dropEnds_eq :
    Text.dropEnds isSlash (Slug.forward folder) = Text.join ['/'] names := by
  obtain ⟨before, after, spelled⟩ := written.spelled
  rw [spelled]
  exact Text.dropEnds_join (fun name member => (written.named name member).2)
    (fun name member => (written.named name member).1) before after

theorem IsWritten.count_eq {c : Char} (quote : isQuote c) :
    folder.count c = (Text.join ['/'] names).count c := by
  obtain ⟨before, after, spelled⟩ := written.spelled
  have other : '/' ≠ c := by
    rintro rfl
    exact absurd quote (by decide)
  rw [← count_forward quote folder, spelled, List.count_append, List.count_append,
    List.count_replicate, List.count_replicate]
  simp [other]

/-- What is looked for is the names with or without some characters. -/
theorem IsWritten.sublist : (soughtFolder folder).Sublist (Text.join ['/'] names) := by
  rw [← written.dropEnds_eq]
  exact Text.dropEnds_sublist ((Text.sublist_dropEnds isQuote folder).map _)

theorem IsWritten.soughtFolder_eq_iff :
    soughtFolder folder = Text.join ['/'] names ↔ HasUnquotedEnds folder := by
  constructor
  · intro same
    have kept {c : Char} (quote : isQuote c)
        (outer : c ∈ folder.head? ∨ c ∈ folder.getLast?) : False := by
      have lost := Text.count_dropEnds_lt quote outer
      have less : (soughtFolder folder).count c ≤
          (Slug.forward (Text.dropEnds isQuote folder)).count c :=
        (Text.sublist_dropEnds _ _).count_le c
      rw [count_forward quote] at less
      rw [same, ← written.count_eq quote] at less
      exact Nat.not_lt.2 less lost
    exact ⟨fun c found => Bool.not_eq_true _ ▸ fun quote => kept quote (.inl found),
      fun c found => Bool.not_eq_true _ ▸ fun quote => kept quote (.inr found)⟩
  · intro plain
    rw [← written.dropEnds_eq, soughtFolder, Text.dropEnds_eq_self plain.first plain.last]

theorem IsWritten.backslash_not_mem : '\\' ∉ Text.join ['/'] names := by
  intro member
  rw [← written.dropEnds_eq] at member
  exact Slug.backslash_not_mem_forward folder ((Text.sublist_dropEnds _ _).subset member)

theorem IsWritten.namesOf_join (nonempty : names ≠ []) :
    namesOf (Text.join ['/'] names) = names := by
  rw [namesOf, Slug.forward_of_not_mem written.backslash_not_mem,
    Text.splitOn_join (fun name member => (written.named name member).2) nonempty]

theorem IsWritten.namesOf_soughtFolder :
    namesOf (soughtFolder folder) = Text.splitOn '/' (soughtFolder folder) := by
  rw [namesOf, Slug.forward_of_not_mem fun member =>
    written.backslash_not_mem (written.sublist.subset member)]

/-- What is looked for, taken for a folder of the vault, is the folder that is written only if
nothing was cut off. -/
theorem IsWritten.soughtFolder_eq (same : (namesOf (soughtFolder folder)).map Text.lower =
    names.map Text.lower) : soughtFolder folder = Text.join ['/'] names := by
  by_contra shorter
  refine Text.lower_ne_of_sublist written.sublist shorter ?_
  rw [Text.isCaseless_slash.lower_join, ← same, written.namesOf_soughtFolder,
    ← Text.isCaseless_slash.splitOn_lower, Text.join_splitOn]

/-- A folder in double quotes stands for its names exactly if it has any and neither end of it is a
quote. -/
theorem IsWritten.standsFor_iff : StandsFor folder names ↔ names ≠ [] ∧ HasUnquotedEnds folder := by
  constructor
  · intro stands
    have same (note : Note) (path : IsVaultPath note.path) :
        LiesBelow (Text.splitOn '/' (soughtFolder folder)) note ↔ LiesBelow names note := by
      have both := (inScope_inQuotes folder note).symm.trans (stands note path)
      exact decide_eq_decide.1 (Except.ok.inj both)
    have nonempty : names ≠ [] := by
      rintro rfl
      have nothing : soughtFolder folder = [] := List.eq_nil_of_sublist_nil written.sublist
      have below := (same (noteAt "a") (by decide)).2 (List.nil_prefix)
      rw [nothing] at below
      exact absurd below (by decide)
    refine ⟨nonempty, written.soughtFolder_eq_iff.1 (written.soughtFolder_eq ?_)⟩
    -- The folder and what is looked for each lie below the other one, as paths of notes.
    have named : IsVaultPath (Text.join ['/'] names) := by
      rw [IsVaultPath, written.namesOf_join nonempty]
      exact fun name member => (written.named name member).1
    have within : LiesBelow (namesOf (soughtFolder folder)) (noteAt (Text.join ['/'] names)) := by
      rw [written.namesOf_soughtFolder]
      refine (same _ named).2 ?_
      rw [LiesBelow, noteAt, written.namesOf_join nonempty]
    have soughtNamed : IsVaultPath (soughtFolder folder) := by
      rintro name member rfl
      have small := within.subset (List.mem_map_of_mem member)
      rw [noteAt, written.namesOf_join nonempty] at small
      obtain ⟨other, inNames, empty⟩ := List.mem_map.1 small
      exact (written.named other inNames).1 (Text.lower_eq_nil_iff.1 empty)
    have back : LiesBelow names (noteAt (soughtFolder folder)) := by
      refine (same _ soughtNamed).1 ?_
      rw [← written.namesOf_soughtFolder]
      exact List.prefix_rfl
    rw [LiesBelow, noteAt, written.namesOf_join nonempty] at within
    exact within.eq_of_length_le back.length_le
  · rintro ⟨nonempty, plain⟩ note -
    rw [inScope_inQuotes, written.soughtFolder_eq_iff.2 plain,
      Text.splitOn_join (fun name member => (written.named name member).2) nonempty]

end Written

/-! ### Notes -/

/-- The folder of a note has the names of its path but the last. -/
theorem forward_folder (note : Note) :
    Slug.forward note.folder = Text.join ['/'] (namesOf note.path).dropLast := by
  rw [Note.folder, namesOf]
  cases cut : Text.cutAtLast '/' (Slug.forward note.path) with
  | none =>
    rw [Text.splitOn_of_not_mem (Text.cutAtLast_eq_none_iff.1 cut)]
    rfl
  | some parts =>
    obtain ⟨whole, last⟩ := Text.cutAtLast_eq_some_iff.1 cut
    have single : '\\' ∉ parts.1 := fun member =>
      Slug.backslash_not_mem_forward note.path (whole ▸ List.mem_append_left _ member)
    rw [whole, Text.splitOn_append_cons, Text.splitOn_of_not_mem last, List.dropLast_concat,
      Text.join_splitOn, Slug.forward_of_not_mem single]

theorem isWritten_folder {note : Note} (path : IsVaultPath note.path) :
    IsWritten (namesOf note.path).dropLast note.folder := by
  refine ⟨fun name member => ⟨path name (List.mem_of_mem_dropLast member),
    Text.not_mem_of_mem_splitOn (List.mem_of_mem_dropLast member)⟩, 0, 0, ?_⟩
  rw [List.replicate_zero, List.nil_append, List.append_nil, forward_folder]

theorem liesBelow_dropLast (note : Note) : LiesBelow (namesOf note.path).dropLast note :=
  (List.dropLast_prefix _).map _

theorem MerelyStarts.not_liesBelow {names : List Text} {note : Note}
    (starts : MerelyStarts names note) : ¬ LiesBelow names note := by
  obtain ⟨before, name, more, rest, rfl, filled, path⟩ := starts
  rw [LiesBelow, path, List.map_append, List.map_append, List.prefix_append_right_inj,
    List.map_cons, List.map_cons, List.cons_prefix_cons]
  rintro ⟨same, -⟩
  refine Text.lower_ne_of_sublist (List.sublist_append_left name more) (fun whole => ?_) same
  exact filled (List.self_eq_append_right.1 whole)

/-! ### Folders in quotes -/

/-- A folder in double quotes is read as it stands. It stands for its names exactly if it has any
and neither end of it is a quote; then no note lies in it whose path merely starts with it. And a
note lies in its own folder if that is such a folder. -/
theorem from_inQuotes_iff {names : List Text} {folder : Text} (written : IsWritten names folder) :
    Clause.ofLine ("FROM " ++ inQuotes folder) = .scope ⟨inQuotes folder⟩ ∧
      (StandsFor folder names ↔ names ≠ [] ∧ HasUnquotedEnds folder) ∧
        (names ≠ [] → HasUnquotedEnds folder → ∀ note : Note, IsVaultPath note.path →
          MerelyStarts names note → inScope ⟨inQuotes folder⟩ note = .ok false) ∧
          ∀ note : Note, IsVaultPath note.path → note.folder ≠ [] → HasUnquotedEnds note.folder →
            inScope ⟨inQuotes note.folder⟩ note = .ok true := by
  refine ⟨ofLine_from_inQuotes folder, written.standsFor_iff,
    fun nonempty plain note path starts => ?_, fun note path inside plain => ?_⟩
  · rw [written.standsFor_iff.2 ⟨nonempty, plain⟩ note path, decide_eq_false starts.not_liesBelow]
  · have own := isWritten_folder path
    have nonempty : (namesOf note.path).dropLast ≠ [] := by
      intro empty
      have nothing := forward_folder note
      rw [empty] at nothing
      exact inside (List.map_eq_nil_iff.1 nothing)
    rw [own.standsFor_iff.2 ⟨nonempty, plain⟩ note path, decide_eq_true (liesBelow_dropLast note)]

/-- A folder with either slash, and slashes around it. -/
theorem from_inQuotes_crew :
    IsWritten ["people", "crew"] "\\people/crew\\\\" ∧
      Clause.ofLine ("FROM " ++ inQuotes "\\people/crew\\\\") =
        .scope ⟨inQuotes "\\people/crew\\\\"⟩ ∧
      StandsFor "\\people/crew\\\\" ["people", "crew"] := by
  have written : IsWritten ["people", "crew"] "\\people/crew\\\\" := by
    refine ⟨?_, 1, 2, by decide⟩
    decide
  have plain : HasUnquotedEnds "\\people/crew\\\\" := by
    constructor
    · intro c found
      obtain rfl := Option.some.inj found
      decide
    · intro c found
      obtain rfl := Option.some.inj found
      decide
  have read := from_inQuotes_iff written
  exact ⟨written, read.1, read.2.1.2 ⟨List.cons_ne_nil _ _, plain⟩⟩

/-- No note lies at the top of the vault, and none in a folder that begins with an apostrophe. -/
theorem exists_outside_own_folder :
    IsVaultPath "a.md" ∧
      (IsWritten [] [] ∧ LiesBelow [] (noteAt "a.md") ∧ (noteAt "a.md").folder = [] ∧
        inScope ⟨inQuotes []⟩ (noteAt "a.md") = .ok false) ∧
      (IsWritten [] "/" ∧ inScope ⟨inQuotes "/"⟩ (noteAt "a.md") = .ok false) ∧
      IsVaultPath "'tis/a.md" ∧ IsWritten ["'tis"] "'tis" ∧
        LiesBelow ["'tis"] (noteAt "'tis/a.md") ∧ (noteAt "'tis/a.md").folder = "'tis" ∧
          inScope ⟨inQuotes "'tis"⟩ (noteAt "'tis/a.md") = .ok false := by
  refine ⟨by decide, ⟨⟨by decide, 0, 0, rfl⟩, by decide, rfl, rfl⟩, ⟨⟨by decide, 1, 0, rfl⟩, rfl⟩,
    by decide, ⟨by decide, 0, 0, rfl⟩, by decide, rfl, rfl⟩

end Query

end CampaignPress
