/-
This file tells where pages are written. The file of a page lies below the
output folder, in folders whose names have no ending, and its own name ends in
one; so a page never lies where another one needs a folder, and two notes share
a file only if they share a slug.
-/
import CampaignPress.Proofs.Files.Tree
import CampaignPress.Proofs.Slug
import CampaignPress.Publication

namespace CampaignPress

/-! ### Joined names -/

theorem Text.join_append_singleton_append (separator : Text) (parts : List Text)
    (last more : Text) : Text.join separator (parts ++ [last ++ more]) =
      Text.join separator (parts ++ [last]) ++ more := by
  induction parts with
  | nil => simp [Text.join]
  | cons part parts inductionHypothesis =>
    rw [Text.join, Text.join] at inductionHypothesis
    rw [Text.join, Text.join, List.cons_append, List.cons_append,
      List.intercalate_cons_of_ne_nil (by simp), List.intercalate_cons_of_ne_nil (by simp),
      inductionHypothesis, ← List.append_assoc]

namespace Path

/-- Names that may be joined to a relative path. -/
def AreNames (names : List Text) : Prop :=
  names ≠ [] ∧ ∀ name ∈ names, isName name ∧ '/' ∉ name

theorem rootOf_of_head {text : Text} (other : ∀ c ∈ text.head?, c ≠ '/') : rootOf text = [] := by
  unfold rootOf
  split
  all_goals first | exact absurd rfl (other '/' rfl) | rfl

theorem ofText_join {names : List Text} (areNames : AreNames names) :
    ofText (Text.join ['/'] names) = ⟨[], names⟩ := by
  obtain ⟨nonempty, each⟩ := areNames
  have parts : Text.splitOn '/' (Text.join ['/'] names) = names := by
    rw [Text.splitOn_eq]
    exact List.splitOn_intercalate '/' (fun name member => (each name member).2) nonempty
  have root : rootOf (Text.join ['/'] names) = [] := by
    refine rootOf_of_head fun c found => ?_
    obtain ⟨first, names, rfl⟩ := List.exists_cons_of_ne_nil nonempty
    obtain ⟨isFirst, clear⟩ := each first List.mem_cons_self
    cases first with
    | nil => exact nomatch isFirst
    | cons d first =>
      have start : (Text.join ['/'] ((d :: first) :: names)).head? = some d := by
        cases names with
        | nil => simp [Text.join]
        | cons next names => simp [Text.join, List.intercalate_cons_of_ne_nil]
      rw [Option.mem_def, start, Option.some.injEq] at found
      exact fun same => clear (found.trans same ▸ List.mem_cons_self)
  rw [ofText, root, parts, List.filter_eq_self.2 fun name member => (each name member).1]

end Path

namespace Publication

/-! ### Names of files -/

/-- What the names of the files of pages end in. -/
def pageEnding : Text := ".html"

/-- The slug of a note, or the name that stands for an empty one. -/
def pageName (note : Note) : Text := if note.slug.isEmpty then "index" else note.slug

theorem fileName_eq (note : Note) : fileName note = pageName note ++ pageEnding := rfl

/-- Names of folders that have no ending, and the name of a page. -/
def pageNames (folders : List Text) (last : Text) : List Text := folders ++ [last ++ pageEnding]

theorem areNames_pageNames {folders : List Text} {last : Text}
    (segments : ∀ name ∈ folders ++ [last], Slug.IsSegment name) :
    Path.AreNames (pageNames folders last) := by
  rw [List.forall_mem_append, List.forall_mem_singleton] at segments
  refine ⟨List.append_ne_nil_of_right_ne_nil _ (List.cons_ne_nil _ _), ?_⟩
  rw [pageNames, List.forall_mem_append, List.forall_mem_singleton]
  refine ⟨fun name member => ⟨?_, (segments.1 name member).not_mem (by decide)⟩, ?_, ?_⟩
  · have segment := segments.1 name member
    have other : name ≠ ['.'] := by
      rintro rfl
      exact segment.not_mem (by decide) List.mem_cons_self
    simp [Path.isName, segment.1, other]
  · obtain ⟨c, rest, rfl⟩ := List.exists_cons_of_ne_nil segments.2.1
    simp [Path.isName, pageEnding]
  · rw [List.mem_append, not_or]
    exact ⟨segments.2.not_mem (by decide), by decide⟩

theorem exists_fileName_eq {note : Note} (slug : note.slug = Slug.ofPath note.path) :
    ∃ folders last, (∀ name ∈ folders ++ [last], Slug.IsSegment name) ∧
      fileName note = Text.join ['/'] (pageNames folders last) := by
  obtain ⟨segments, each, same⟩ := Slug.exists_ofPath_eq_join note.path
  rcases List.eq_nil_or_concat' segments with rfl | ⟨folders, last, rfl⟩
  · refine ⟨[], ['i', 'n', 'd', 'e', 'x'], by simpa using Slug.isSegment_index, ?_⟩
    rw [fileName_eq, pageName, slug, same]
    rfl
  · refine ⟨folders, last, each, ?_⟩
    have segment := each last (List.mem_append_right _ List.mem_cons_self)
    obtain ⟨c, rest, whole⟩ := List.exists_cons_of_ne_nil segment.1
    have other : c ≠ '/' := by
      rintro rfl
      exact segment.not_mem (by decide) (whole ▸ List.mem_cons_self)
    have nonempty : Text.join ['/'] (folders ++ [last]) ≠ [] :=
      List.ne_nil_of_mem ((Text.mem_join other).2
        ⟨last, List.mem_append_right _ List.mem_cons_self, whole ▸ List.mem_cons_self⟩)
    rw [fileName_eq, pageName, slug, same, if_neg (by simpa using nonempty), pageNames,
      Text.join_append_singleton_append]

/-! ### Paths of files -/

/-- The path of the file of a page: below the output folder, in folders of the slug. -/
structure IsFile (output : Path) (folders : List Text) (last : Text) (path : Path) : Prop where
  segments : ∀ name ∈ folders ++ [last], Slug.IsSegment name
  root : path.root = output.root
  names : path.names = output.names ++ pageNames folders last

theorem exists_of_fileOf {config : Config} {note : Note} (slug : note.slug = Slug.ofPath note.path)
    {path : Path} (found : fileOf config note = .ok path) :
    ∃ output folders last, config.output = .path output ∧ IsFile output folders last path ∧
      Text.join ['/'] (pageNames folders last) = fileName note := by
  obtain ⟨folders, last, segments, same⟩ := exists_fileName_eq slug
  rw [fileOf, same, Path.ofText_join (areNames_pageNames segments), Folder.join.eq_def] at found
  split at found
  · rename_i output isPath
    obtain rfl := Except.ok.inj found
    exact ⟨output, folders, last, isPath, ⟨segments, rfl, rfl⟩, same.symm⟩
  · exact nomatch found

/-- Two notes share a file exactly if they share a name for it. -/
theorem fileOf_eq_iff {config : Config} {a b : Note} (first : a.slug = Slug.ofPath a.path)
    (second : b.slug = Slug.ofPath b.path) {path : Path} (found : fileOf config a = .ok path) :
    fileOf config b = .ok path ↔ pageName a = pageName b := by
  constructor
  · intro other
    obtain ⟨output, folders, last, isPath, isFile, same⟩ := exists_of_fileOf first found
    obtain ⟨output', folders', last', isPath', isFile', same'⟩ := exists_of_fileOf second other
    obtain rfl : output = output' := by
      rw [isPath] at isPath'
      exact Folder.path.inj isPath'
    have names : pageNames folders last = pageNames folders' last' :=
      List.append_cancel_left (isFile.names.symm.trans isFile'.names)
    rw [names, same', fileName_eq, fileName_eq] at same
    exact (List.append_cancel_right same).symm
  · intro same
    rw [fileOf, fileName_eq, ← same]
    exact found

/-! ### Places -/

/-- Where a run may make folders: on the way to the output folder, or in a place whose name has
no ending. -/
def MayBeFolder (way : List (List Text)) (place : List Text) : Prop :=
  place ∈ way ∨ ∃ above name, place = above ++ [name] ∧ '.' ∉ name

/-- Where a run may write pages. -/
def MayBePage (way : List (List Text)) (place : List Text) : Prop :=
  place ∉ way ∧ ∃ above name, place = above ++ [name ++ pageEnding]

theorem MayBePage.not_mayBeFolder {way : List (List Text)} {place : List Text}
    (page : MayBePage way place) : ¬ MayBeFolder way place := by
  obtain ⟨off, above, name, same⟩ := page
  rintro (onWay | ⟨others, plain, other, clear⟩)
  · exact off onWay
  · have last := same.symm.trans other
    obtain rfl := List.singleton_inj.1 (List.append_inj_right' last rfl)
    exact clear (List.mem_append_right name List.mem_cons_self)

theorem mayBeFolder_of_mem_trail {start : List Text} {names folders : List Text}
    (segments : ∀ name ∈ folders, Slug.IsSegment name) {place : List Text}
    (passed : place ∈ Files.trail start (names ++ folders)) :
    MayBeFolder (Files.trail start names) place := by
  induction folders using List.reverseRecOn with
  | nil => exact .inl (List.append_nil names ▸ passed)
  | append_singleton folders name inductionHypothesis =>
    rw [List.forall_mem_append, List.forall_mem_singleton] at segments
    rw [← List.append_assoc, Files.trail_append_singleton] at passed
    rcases List.mem_append.1 passed with before | last
    · exact inductionHypothesis segments.1 before
    · have dotless : '.' ∉ name := segments.2.not_mem (by decide)
      have forward : name ≠ ['.', '.'] := by
        rintro rfl
        exact dotless List.mem_cons_self
      rw [List.mem_singleton.1 last, Files.goal_append_singleton, Files.stepTo, if_neg forward]
      exact .inr ⟨_, name, rfl, dotless⟩

section IsFile

variable {output path : Path} {folders : List Text} {last : Text}
variable (isFile : IsFile output folders last path)
include isFile

theorem IsFile.parent_names : path.parent.names = output.names ++ folders := by
  rw [Path.parent, isFile.names, pageNames, ← List.append_assoc, List.dropLast_concat]

theorem IsFile.names_eq : path.names = path.parent.names ++ [last ++ pageEnding] := by
  rw [isFile.parent_names, isFile.names, pageNames, List.append_assoc]

theorem IsFile.baseOf (files : Files) : files.baseOf path = files.baseOf output := by
  rw [Files.baseOf, Files.baseOf, Path.isAbsolute, isFile.root]
  rfl

theorem IsFile.forward : ∀ name ∈ pageNames folders last, name ≠ ['.', '.'] := by
  have segments := isFile.segments
  rw [List.forall_mem_append, List.forall_mem_singleton] at segments
  rw [pageNames, List.forall_mem_append, List.forall_mem_singleton]
  refine ⟨fun name member => ?_, fun same => ?_⟩
  · rintro rfl
    exact (segments.1 _ member).not_mem (by decide) List.mem_cons_self
  · have := congrArg List.length same
    simp [pageEnding] at this

theorem IsFile.goal_eq (start : List Text) :
    Files.goal start path.names = Files.goal start output.names ++ pageNames folders last := by
  rw [isFile.names, Files.goal_append, Files.goal_eq_append isFile.forward]

theorem IsFile.mayBeFolder {start place : List Text}
    (passed : place ∈ Files.trail start path.parent.names) :
    MayBeFolder (Files.trail start output.names) place := by
  rw [isFile.parent_names] at passed
  exact mayBeFolder_of_mem_trail
    (fun name member => isFile.segments name (List.mem_append_left _ member)) passed

/-- A page may be written where it has to, unless the output folder lies below it. -/
theorem IsFile.mayBePage {start : List Text}
    (off : Files.goal start path.names ∉ Files.trail start path.parent.names) :
    MayBePage (Files.trail start output.names) (Files.goal start path.names) := by
  refine ⟨fun onWay => off ?_, Files.goal start output.names ++ folders, last, ?_⟩
  · rw [isFile.parent_names]
    exact Files.trail_subset_append start output.names folders onWay
  · rw [isFile.goal_eq, pageNames, List.append_assoc]

/-- Different files lie in different places. -/
theorem IsFile.eq_of_goal_eq {others : List Text} {name : Text} {other : Path}
    (isOther : IsFile output others name other) {start : List Text}
    (same : Files.goal start path.names = Files.goal start other.names) : path = other := by
  rw [isFile.goal_eq, isOther.goal_eq] at same
  have names : path.names = other.names := by
    rw [isFile.names, isOther.names, List.append_cancel_left same]
  cases path
  cases other
  exact congr (congrArg Path.mk (isFile.root.trans isOther.root.symm)) names

end IsFile

end Publication

end CampaignPress
