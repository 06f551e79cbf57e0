/-
This file does the tasks of a run in any order. Each task ends as it would end
alone, so the order shows in the report only in the words for folders that cannot
be made. What tasks leave can be left in any order, too, as long as no two of
them open the same file; where several do, the last one counts. One that opens
its file and does not write all of its page has failed in doing so.
-/
import CampaignPress.Proofs.Publication.Task

namespace CampaignPress

namespace Publication

/-! ### Marks in a row -/

namespace Mark

variable {marks : List Mark} {contents : List Text → Option Entry} {place : List Text}

theorem leave_of_content? {mark : Mark} {content : List UInt8}
    (written : mark.content? place = some content) :
    mark.leave contents place = some (.file content) := by
  rw [leave, written]

theorem leave_of_untouched {mark : Mark} (unwritten : mark.content? place = none)
    (unmade : place ∉ mark.folders) : mark.leave contents place = contents place := by
  rw [leave, unwritten]
  exact if_neg unmade

/-- The last page that is written in a place stays. -/
theorem foldl_leave_of_last {mark : Mark} {content : List UInt8}
    (written : mark.content? place = some content)
    (later : ∀ other ∈ marks, other.content? place = none ∧ place ∉ other.folders) :
    (marks.foldl leave (mark.leave contents)) place = some (.file content) := by
  induction marks using List.reverseRecOn with
  | nil => exact leave_of_content? written
  | append_singleton marks last inductionHypothesis =>
    rw [List.forall_mem_append, List.forall_mem_singleton] at later
    rw [List.foldl_append, List.foldl_cons, List.foldl_nil,
      leave_of_untouched later.2.1 later.2.2, inductionHypothesis later.1]

/-- A folder that is made in a place where no page is written stays. -/
theorem foldl_leave_of_folder (unwritten : ∀ mark ∈ marks, mark.content? place = none)
    (free : contents place = none ∨ contents place = some .folder)
    (made : contents place = some .folder ∨ ∃ mark ∈ marks, place ∈ mark.folders) :
    (marks.foldl leave contents) place = some .folder := by
  induction marks generalizing contents with
  | nil => exact made.resolve_right (by simp)
  | cons mark marks inductionHypothesis =>
    rw [List.forall_mem_cons] at unwritten
    have next : mark.leave contents place =
        if place ∈ mark.folders then some ((contents place).getD .folder) else contents place := by
      rw [leave, unwritten.1]
    have folder : (contents place).getD .folder = .folder := by
      rcases free with empty | folder
      · rw [empty]
        rfl
      · rw [folder]
        rfl
    rw [folder] at next
    refine inductionHypothesis unwritten.2 ?_ ?_
    · rw [next]
      split
      · exact .inr rfl
      · exact free
    · by_cases here : place ∈ mark.folders
      · rw [next, if_pos here]
        exact .inl rfl
      · rw [next, if_neg here]
        refine made.imp_right fun above => ?_
        obtain ⟨other, member, there⟩ := above
        rcases List.mem_cons.1 member with rfl | inMarks
        · exact absurd there here
        · exact ⟨other, inMarks, there⟩

/-- Marks that do not touch the same pages can be left in either order. -/
theorem leave_comm {first : Files} {way : List (List Text)} {left right : Mark}
    (leftFair : left.IsFair way first) (rightFair : right.IsFair way first)
    (apart : ∀ place content other, left.content? place = some content →
      right.content? place = some other → content = other)
    (contents : List Text → Option Entry) :
    right.leave (left.leave contents) = left.leave (right.leave contents) := by
  have unmade : ∀ {mark other : Mark} {place : List Text} {content : List UInt8},
      mark.IsFair way first → other.IsFair way first → mark.content? place = some content →
      place ∉ other.folders := fun fair otherFair written member =>
    (fair.page _ _ (content?_eq_some_iff.1 written)).1.not_mayBeFolder
      (otherFair.folders _ member).1
  funext place
  cases leftPage : left.content? place with
  | some content =>
    rw [leave_of_content? leftPage]
    cases rightPage : right.content? place with
    | some other => rw [leave_of_content? rightPage, apart place content other leftPage rightPage]
    | none =>
      rw [leave_of_untouched rightPage (unmade leftFair rightFair leftPage),
        leave_of_content? leftPage]
  | none =>
    cases rightPage : right.content? place with
    | some other =>
      rw [leave_of_content? rightPage,
        leave_of_untouched leftPage (unmade rightFair leftFair rightPage),
        leave_of_content? rightPage]
    | none =>
      rw [leave, leave, leave, leave, leftPage, rightPage]
      dsimp only
      split <;> split <;> simp

end Mark

/-! ### Outcomes -/

/-- The note that a task is for. -/
def noteOf : Outcome → Note
  | .done note => note
  | .failed note _ => note

/-- How the task of a note ends in a tree. -/
def outcomeOf (config : Config) (site : Site) (files : Files) (note : Note) : Outcome :=
  ((task config site note).run files).1

/-- Whether the page of a note can be made, and written unless the run is dry. -/
def isDone (config : Config) (site : Site) (files : Files) (note : Note) : Bool :=
  (doneNote? (outcomeOf config site files note)).isSome

theorem outcomeOf_eq (config : Config) (site : Site) (files : Files) (note : Note) :
    outcomeOf config site files note = .done note ∨
      ∃ message, outcomeOf config site files note = .failed note message := by
  rw [outcomeOf, run_task]
  split
  · exact .inr ⟨_, rfl⟩
  · split
    · exact .inl rfl
    · split
      · exact .inr ⟨_, rfl⟩
      · split
        · exact .inl rfl
        · exact .inr ⟨_, rfl⟩

theorem noteOf_outcomeOf (config : Config) (site : Site) (files : Files) (note : Note) :
    noteOf (outcomeOf config site files note) = note := by
  rcases outcomeOf_eq config site files note with same | ⟨message, same⟩ <;> rw [same] <;> rfl

section Like

variable {isBlocked : Note → Prop} {left right : Outcome}

theorem Outcome.Like.noteOf_eq (like : Outcome.Like isBlocked left right) :
    noteOf left = noteOf right := by
  cases like <;> rfl

theorem Outcome.Like.doneNote?_eq (like : Outcome.Like isBlocked left right) :
    doneNote? left = doneNote? right := by
  cases like <;> rfl

end Like

/-- Outcomes that are like the same one are like each other. -/
theorem Outcome.Like.join {isBlocked : Note → Prop} {left right middle : Outcome}
    (first : Outcome.Like isBlocked left middle) (second : Outcome.Like isBlocked right middle) :
    Outcome.Like isBlocked left right := by
  cases first with
  | same =>
    cases second with
    | same => exact .same _
    | refused note blocked message other => exact .refused note blocked other message
  | refused note blocked message other =>
    cases second with
    | same => exact .refused note blocked message other
    | refused _ _ last => exact .refused note blocked message last

/-- Outcomes of the tasks of some notes, in their order: each task ends as it would end alone. -/
structure AreOutcomes (config : Config) (site : Site) (first : Files) (notes : List Note)
    (outcomes : List Outcome) : Prop where
  notes : outcomes.map noteOf = notes
  like : ∀ outcome ∈ outcomes, Outcome.Like (IsBlocked config first) outcome
    (outcomeOf config site first (noteOf outcome))

/-! ### Runs of tasks -/

section Run

variable {config : Config} {first : Files} {site : Site}

variable (site) in
/-- What is true of every run of tasks: each ends as it would end alone, and the tree is the
first one with all their marks. -/
theorem run_tasks {order : List Note} (found : ∀ note ∈ order, Vault.Found first note)
    {files : Files} (grown : Grown (wayTo config first) first files) :
    ((order.mapM (task config site)).run files).2.toFrame = first.toFrame ∧
    ((order.mapM (task config site)).run files).2.at? =
      (order.map (markOf config site first)).foldl Mark.leave files.at? ∧
    AreOutcomes config site first order ((order.mapM (task config site)).run files).1 := by
  induction order generalizing files with
  | nil => exact ⟨grown.frame, rfl, rfl, nofun⟩
  | cons note order inductionHypothesis =>
    rw [List.forall_mem_cons] at found
    obtain ⟨frame, leaves, like⟩ := task_of_grown found.1 grown site
    have next := (isFair_markOf found.1 config site).grown grown frame leaves
    obtain ⟨lastFrame, lastLeaves, notes, others⟩ := inductionHypothesis found.2 next
    have here : noteOf ((task config site note).run files).1 = note := by
      rw [like.noteOf_eq]
      exact noteOf_outcomeOf config site first note
    rw [List.mapM_cons, StateT.run_bind]
    show ((order.mapM (task config site)).run ((task config site note).run files).2).2.toFrame = _ ∧
      ((order.mapM (task config site)).run ((task config site note).run files).2).2.at? = _ ∧
      AreOutcomes _ _ _ _ (((task config site note).run files).1 ::
        ((order.mapM (task config site)).run ((task config site note).run files).2).1)
    refine ⟨lastFrame, ?_, ?_, ?_⟩
    · rw [lastLeaves, leaves, List.map_cons, List.foldl_cons]
    · rw [List.map_cons, here, notes]
    · refine List.forall_mem_cons.2 ⟨?_, others⟩
      rw [here]
      exact like

/-- A dry run changes no file. -/
theorem run_tasks_of_isDry (dry : isDry config) (order : List Note) (files : Files) :
    ((order.mapM (task config site)).run files).2 = files := by
  induction order generalizing files with
  | nil => rfl
  | cons note order inductionHypothesis =>
    rw [List.mapM_cons, StateT.run_bind]
    show ((order.mapM (task config site)).run ((task config site note).run files).2).2 = _
    rw [inductionHypothesis, run_task, dry]
    cases pageOf site files note <;> rfl

/-! ### Pages -/

theorem isDone_iff {note : Note} : isDone config site first note ↔
    ∃ page, pageOf site first note = .ok page ∧ (isDry config = true ∨
      ∃ path, fileOf config note = .ok path ∧ ((placing path page.html).on first).1 = .ok ()) := by
  rw [isDone, outcomeOf, run_task]
  cases pageOf site first note with
  | error error => simp [doneNote?]
  | ok page =>
    cases isDry config with
    | true => simp [doneNote?]
    | false =>
      cases fileOf config note with
      | error error => simp [doneNote?]
      | ok path =>
        rcases ends : (placing path page.html).on first with ⟨error | ⟨⟩, later⟩ <;>
          simp [doneNote?, ends]

/-- Whether the task of a note opens the file of its page. -/
def isOpened (config : Config) (site : Site) (files : Files) (note : Note) : Bool :=
  (markOf config site files note).page?.isSome

theorem isOpened_iff {note : Note} : isOpened config site first note ↔ isDry config = false ∧
    ∃ page path, pageOf site first note = .ok page ∧ fileOf config note = .ok path ∧
      opens first path := by
  rw [isOpened, Option.isSome_iff_exists]
  constructor
  · rintro ⟨⟨written, content⟩, left⟩
    obtain ⟨wet, page, path, made, isFile, opens, -, -⟩ := page?_markOf_eq_some_iff.1 left
    exact ⟨wet, page, path, made, isFile, opens⟩
  · rintro ⟨wet, page, path, made, isFile, opens⟩
    exact ⟨_, page?_markOf_eq_some_iff.2 ⟨wet, page, path, made, isFile, opens, rfl, rfl⟩⟩

/-- Two notes whose pages have different files. -/
def AreApart (config : Config) (a b : Note) : Prop :=
  ∀ path, fileOf config a = .ok path → fileOf config b ≠ .ok path

theorem areApart_of_ne {config : Config} {a b : Note}
    (different : fileOf config a ≠ fileOf config b) : AreApart config a b :=
  fun _ first second => different (first.trans second.symm)

instance (config : Config) : Std.Symm (AreApart config) where
  symm _ _ apart path first second := apart path second first

/-- A note that leaves something in the place of a file has that file. -/
theorem fileOf_of_content? {note writer : Note} (found : Vault.Found first note)
    (foundWriter : Vault.Found first writer) {path : Path}
    (isFile : fileOf config writer = .ok path) {content : List UInt8}
    (written : (markOf config site first note).content?
      (Files.goal (first.baseOf path) path.names) = some content) :
    isOpened config site first note ∧ fileOf config note = .ok path := by
  have left := Mark.content?_eq_some_iff.1 written
  obtain ⟨-, page, other, made, isOther, -, same, -⟩ := page?_markOf_eq_some_iff.1 left
  refine ⟨Option.isSome_iff_exists.2 ⟨_, left⟩, ?_⟩
  obtain ⟨output, folders, last, isPath, isFile', -⟩ := exists_of_fileOf foundWriter.slug isFile
  obtain ⟨output', folders', last', isPath', isOther', -⟩ := exists_of_fileOf found.slug isOther
  obtain rfl : output = output' := by
    rw [isPath] at isPath'
    exact Folder.path.inj isPath'
  rw [isFile'.baseOf, isOther'.baseOf] at same
  rw [isOther, isFile'.eq_of_goal_eq isOther' same]

/-- The folders of a page whose file is opened are folders after the run. -/
theorem at?_of_mem_trail {notes : List Note} (found : ∀ note ∈ notes, Vault.Found first note)
    {writer : Note} (member : writer ∈ notes) {path : Path} {page : Page}
    (made : pageOf site first writer = .ok page) (isFile : fileOf config writer = .ok path)
    (wet : isDry config = false) (isOpened : opens first path)
    {place : List Text} (passed : place ∈ Files.trail (first.baseOf path) path.parent.names) :
    ((notes.map (markOf config site first)).foldl Mark.leave first.at?) place = some .folder := by
  obtain ⟨output, folders, last, isPath, isFile', -⟩ :=
    exists_of_fileOf (found writer member).slug isFile
  obtain ⟨isOpen, askable, -, -⟩ := isFile'.opens_iff.1 isOpened
  have opened := Files.opened_eq_trail isOpen
  have marked : (markOf config site first writer).folders =
      Files.trail (first.baseOf path) path.parent.names := by
    rw [markOf, made, isFile]
    dsimp only
    rw [wet, if_neg Bool.false_ne_true, markOfPage, if_pos (Files.isAskable_parent askable), opened]
  rw [← marked] at passed
  have fair := (isFair_markOf (found writer member) config site).folders place passed
  refine Mark.foldl_leave_of_folder (List.forall_mem_map.2 fun note inNotes => ?_)
    (Files.isTaken_eq_false_iff.1 fair.2) (.inr ⟨_, List.mem_map_of_mem member, passed⟩)
  by_contra written
  obtain ⟨content, written⟩ := Option.ne_none_iff_exists'.1 written
  exact ((isFair_markOf (found note inNotes) config site).page place content
    (Mark.content?_eq_some_iff.1 written)).1.not_mayBeFolder fair.1

/-- A page is read after the run from a file that no later task opens. -/
theorem read_last_page {before later : List Note} {writer : Note}
    (found : ∀ note ∈ before ++ writer :: later, Vault.Found first note)
    (wet : isDry config = false) (done : isDone config site first writer) {path : Path}
    (isFile : fileOf config writer = .ok path)
    (others : ∀ note ∈ later, isOpened config site first note → fileOf config note ≠ .ok path) :
    ∃ page, pageOf site first writer = .ok page ∧
      (((before ++ writer :: later).mapM (task config site)).run first).2.read path =
        .ok (Text.utf8 page.html) := by
  obtain ⟨frame, leaves, -⟩ := run_tasks site found (.refl _ first)
  have member : writer ∈ before ++ writer :: later :=
    List.mem_append_right _ List.mem_cons_self
  obtain ⟨page, made, dry | ⟨other, isOther, placed⟩⟩ := isDone_iff.1 done
  · exact absurd dry (Bool.eq_false_iff.1 wet)
  obtain rfl : path = other := Except.ok.inj (isFile.symm.trans isOther)
  refine ⟨page, made, ?_⟩
  obtain ⟨output, folders, last, isPath, isFile', -⟩ :=
    exists_of_fileOf (found writer member).slug isFile
  obtain ⟨opens, whole⟩ := isFile'.placed_iff.1 placed
  have page? : (markOf config site first writer).page? =
      some (Files.goal (first.baseOf path) path.names, Text.utf8 page.html) :=
    page?_markOf_eq_some_iff.2 ⟨wet, page, path, made, isFile, opens, rfl, whole.symm⟩
  refine isFile'.read_eq opens frame (fun place passed => ?_) ?_
  · rw [leaves]
    exact at?_of_mem_trail found member made isFile wet opens passed
  · rw [leaves, List.map_append, List.map_cons, List.foldl_append, List.foldl_cons]
    refine Mark.foldl_leave_of_last (Mark.content?_eq_some_iff.2 page?)
      (List.forall_mem_map.2 fun note inLater => ⟨?_, fun inFolders => ?_⟩)
    · by_contra written
      obtain ⟨content, written⟩ := Option.ne_none_iff_exists'.1 written
      have foundNote := found note (List.mem_append_right _ (List.mem_cons_of_mem _ inLater))
      obtain ⟨isOpened, same⟩ := fileOf_of_content? foundNote (found writer member) isFile written
      exact others note inLater isOpened same
    · have foundNote := found note (List.mem_append_right _ (List.mem_cons_of_mem _ inLater))
      exact ((isFair_markOf (found writer member) config site).page _ _ page?).1.not_mayBeFolder
        ((isFair_markOf foundNote config site).folders _ inFolders).1

/-- Whether no operation on files fails in tasks that are done one after another. -/
def filesServe (config : Config) (site : Site) : (order : List Note) → Files → Bool
  | [], _ => true
  | note :: order, files =>
    match (makePage config site note).run.run files with
    | (.ok (), later) => filesServe config site order later
    | (.error error, later) => !error.isOfFiles && filesServe config site order later

/-- A page whose file is opened is written, unless it is too large for a file. -/
theorem run_makePage_of_isOpened {note : Note} (found : Vault.Found first note) {files : Files}
    (grown : Grown (wayTo config first) first files) (isOpened : isOpened config site first note)
    (undone : isDone config site first note = false) :
    ((makePage config site note).run.run files).1 = .error (.files .tooLarge) := by
  obtain ⟨wet, page, path, made, isFile, opens⟩ := isOpened_iff.1 isOpened
  obtain ⟨output, folders, last, isPath, isFile', -⟩ := exists_of_fileOf found.slug isFile
  have alone := isFile'.on_placing_of_opens opens page.html
  have large : first.stored (Text.utf8 page.html) = .error .tooLarge := by
    refine if_neg fun whole => Bool.eq_false_iff.1 undone (isDone_iff.2 ⟨page, made, .inr ?_⟩)
    exact ⟨path, isFile, isFile'.placed_iff.2 ⟨opens, whole⟩⟩
  rw [wayTo, isPath] at grown
  rw [run_makePage, pageOf_eq grown found, made]
  dsimp only
  rw [wet, if_neg Bool.false_ne_true, isFile]
  dsimp only
  rcases (isFile'.follows grown page.html).ends with same | ⟨_, _, error, -, -, refused⟩
  · rw [same, alone, large]
    rfl
  · rw [opens_iff, on_placing_of_error refused] at opens
    contradiction

/-- Where no operation on files fails, every page whose file is opened is written. -/
theorem isDone_of_isOpened {order : List Note} (found : ∀ note ∈ order, Vault.Found first note)
    {files : Files} (grown : Grown (wayTo config first) first files)
    (serve : filesServe config site order files) :
    ∀ note ∈ order, isOpened config site first note → isDone config site first note := by
  induction order generalizing files with
  | nil => exact nofun
  | cons note order inductionHypothesis =>
    rw [List.forall_mem_cons] at found ⊢
    obtain ⟨frame, leaves, -⟩ := task_of_grown found.1 grown site
    have next := (isFair_markOf found.1 config site).grown grown frame leaves
    rw [run_task_eq] at next
    have ends : isOpened config site first note → isDone config site first note = false → _ :=
      run_makePage_of_isOpened found.1 grown
    rw [filesServe] at serve
    generalize (makePage config site note).run.run files = result at next ends serve
    obtain ⟨error | ⟨⟩, later⟩ := result
    · dsimp only at serve
      rw [Bool.and_eq_true] at serve
      refine ⟨fun isOpened => ?_, inductionHypothesis found.2 next serve.2⟩
      by_contra undone
      obtain rfl := Except.error.inj (ends isOpened (Bool.eq_false_iff.2 undone))
      exact nomatch serve.1
    · refine ⟨fun isOpened => ?_, inductionHypothesis found.2 next serve⟩
      by_contra undone
      exact nomatch ends isOpened (Bool.eq_false_iff.2 undone)

/-- Tasks of notes with files of their own leave the same tree in every order. -/
theorem foldl_leave_perm {order notes : List Note} (arranged : order.Perm notes)
    (found : ∀ note ∈ notes, Vault.Found first note) (apart : notes.Pairwise (AreApart config)) :
    (order.map (markOf config site first)).foldl Mark.leave first.at? =
      (notes.map (markOf config site first)).foldl Mark.leave first.at? := by
  refine (arranged.map _).foldl_eq' (fun left inLeft right inRight contents => ?_) first.at?
  obtain ⟨a, inOrder, rfl⟩ := List.mem_map.1 inLeft
  obtain ⟨b, inOrder', rfl⟩ := List.mem_map.1 inRight
  have foundA := found a (arranged.mem_iff.1 inOrder)
  have foundB := found b (arranged.mem_iff.1 inOrder')
  refine Mark.leave_comm (isFair_markOf foundA config site) (isFair_markOf foundB config site)
    (fun place content other first second => ?_) contents
  by_cases same : a = b
  · rw [same, second] at first
    exact (Option.some.inj first).symm
  · exfalso
    obtain ⟨-, page, path, -, isFile, -, rfl, -⟩ :=
      page?_markOf_eq_some_iff.1 (Mark.content?_eq_some_iff.1 first)
    have isFile' := (fileOf_of_content? foundB foundA isFile second).2
    exact apart.forall (arranged.mem_iff.1 inOrder) (arranged.mem_iff.1 inOrder') same path isFile
      isFile'

end Run

end Publication

end CampaignPress
