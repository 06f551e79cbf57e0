/-
This file says how the task of a note ends, and what it leaves in the tree. Both
are told by the tree that the run begins with: the tasks before it add folders
and pages only, which hinder no task that went through in the first tree. Only
in what words a folder is refused depends on the folders that are there.
-/
import CampaignPress.Proofs.Files.Deed
import CampaignPress.Proofs.Publication.Output
import CampaignPress.Proofs.Vault.Notes

namespace CampaignPress

namespace Publication

/-! ### How tasks end -/

/-- Makes the folders that a file lies in, and writes it. -/
def placing (path : Path) (html : Text) : Files.Deed Unit := do
  Files.makeFolders path.parent
  Files.writeText path html

theorem run_writePage (config : Config) (note : Note) (html : Text) (files : Files) :
    (writePage config note html).run.run files =
      match fileOf config note with
      | .error error => (.error (.setting error), files)
      | .ok path => (((placing path html).on files).1.mapError .files,
          ((placing path html).on files).2) := by
  rw [writePage]
  cases fileOf config note <;> rfl

theorem run_makePage (config : Config) (site : Site) (note : Note) (files : Files) :
    (makePage config site note).run.run files =
      match pageOf site files note with
      | .error error => (.error error, files)
      | .ok page =>
        if isDry config then (.ok (), files)
        else match fileOf config note with
          | .error error => (.error (.setting error), files)
          | .ok path => (((placing path page.html).on files).1.mapError .files,
              ((placing path page.html).on files).2) := by
  show ((makePage.liftExcept (pageOf site files note) >>= fun page =>
    if !isDry config then writePage config note page.html else pure () :
      ExceptT TaskError (StateM Files) Unit)).run.run files = _
  cases pageOf site files note with
  | error error => rfl
  | ok page =>
    show StateT.run (ExceptT.run (if !isDry config then _ else _)) files = _
    cases isDry config with
    | true => rfl
    | false =>
      rw [Bool.not_false, if_pos rfl, run_writePage]
      rfl

/-- A task ends as making its page does, and leaves the same tree. -/
theorem run_task_eq (config : Config) (site : Site) (note : Note) (files : Files) :
    (task config site note).run files =
      (match ((makePage config site note).run.run files).1 with
        | .ok () => .done note
        | .error error => .failed note error.message,
      ((makePage config site note).run.run files).2) := by
  show ((makePage config site note).run >>= fun result => _ : StateM Files Outcome).run files = _
  rw [StateT.run_bind]
  rcases (makePage config site note).run.run files with ⟨_ | ⟨⟩, later⟩ <;> rfl

theorem run_task (config : Config) (site : Site) (note : Note) (files : Files) :
    (task config site note).run files =
      match pageOf site files note with
      | .error error => (.failed note error.message, files)
      | .ok page =>
        if isDry config then (.done note, files)
        else match fileOf config note with
          | .error error => (.failed note error.message, files)
          | .ok path =>
            match (placing path page.html).on files with
            | (.ok (), later) => (.done note, later)
            | (.error error, later) => (.failed note error.message, later) := by
  rw [run_task_eq, run_makePage]
  cases pageOf site files note with
  | error error => rfl
  | ok page =>
    dsimp only
    cases isDry config with
    | true => rfl
    | false =>
      rw [if_neg Bool.false_ne_true]
      cases fileOf config note with
      | error error => rfl
      | ok path =>
        dsimp only
        obtain ⟨error | ⟨⟩, later⟩ := (placing path page.html).on files <;> rfl

/-! ### Trees that a run comes to -/

/-- The way from where the output folder is looked up to the folder. -/
def wayTo (config : Config) (files : Files) : List (List Text) :=
  match config.output with
  | .path output => Files.trail (files.baseOf output) output.names
  | .raw _ => []

/-- A tree that a run comes to: some folders and pages more than there were. -/
structure Grown (way : List (List Text)) (first files : Files) : Prop where
  frame : files.toFrame = first.toFrame
  at? : ∀ place, files.at? place = first.at? place ∨
    (first.at? place = none ∧ files.at? place = some .folder ∧ MayBeFolder way place) ∨
    (first.at? place ≠ some .folder ∧ (∃ content, files.at? place = some (.file content)) ∧
      MayBePage way place)

section Grown

variable {way : List (List Text)} {first files : Files}

theorem Grown.refl (way : List (List Text)) (first : Files) : Grown way first first :=
  ⟨rfl, fun _ => .inl rfl⟩

variable (grown : Grown way first files)
include grown

theorem Grown.baseOf (path : Path) : files.baseOf path = first.baseOf path :=
  Files.baseOf_congr grown.frame path

theorem Grown.at?_of_folder {place : List Text} (folder : first.at? place = some .folder) :
    files.at? place = some .folder := by
  rcases grown.at? place with same | ⟨empty, -, -⟩ | ⟨other, -, -⟩
  · exact same.trans folder
  · rw [folder] at empty
    exact nomatch empty
  · exact absurd folder other

theorem Grown.isTaken_eq {place : List Text} (mayBeFolder : MayBeFolder way place) :
    files.isTaken place = first.isTaken place := by
  rw [Files.isTaken, Files.isTaken]
  rcases grown.at? place with same | ⟨empty, folder, -⟩ | ⟨-, -, page⟩
  · rw [same]
  · rw [empty, folder]
    rfl
  · exact absurd mayBeFolder page.not_mayBeFolder

theorem Grown.folder_iff {place : List Text} (page : MayBePage way place) :
    files.at? place = some .folder ↔ first.at? place = some .folder := by
  rcases grown.at? place with same | ⟨-, -, mayBeFolder⟩ | ⟨other, ⟨content, file⟩, -⟩
  · rw [same]
  · exact absurd mayBeFolder page.not_mayBeFolder
  · rw [file]
    exact ⟨nofun, fun folder => absurd folder other⟩

end Grown

/-! ### Reading -/

/-- A name does not have the endings of a note and of a page. -/
theorem ne_append_pageEnding {name : Text} (ending : Text.endsWith name Vault.noteEnding)
    (other : Text) : name ≠ other ++ pageEnding := by
  rintro rfl
  obtain ⟨before, same⟩ := List.isSuffixOf_iff_suffix.1 ending
  have last := congrArg List.getLast? same
  rw [List.getLast?_append_of_ne_nil _ (by decide), List.getLast?_append_of_ne_nil _ (by decide)]
    at last
  exact absurd last (by decide)

/-- The page of a note is the same in every tree that a run comes to. -/
theorem pageOf_eq {way : List (List Text)} {first files : Files} {note : Note}
    (grown : Grown way first files) (found : Vault.Found first note) (site : Site) :
    pageOf site files note = pageOf site first note := by
  obtain ⟨path, folders, name, text, source, whole, ending, read⟩ := found.source
  have forward : name ≠ ['.', '.'] := by
    rintro rfl
    exact absurd ending (by decide)
  have again : files.readText path = .ok text := by
    refine Files.readText_of_kept read grown.frame (fun place => grown.at?_of_folder)
      fun place placed => ?_
    obtain ⟨-, place', content, placed', file⟩ := Files.exists_of_readText read
    obtain rfl : place' = place := Except.ok.inj (placed'.symm.trans placed)
    rcases grown.at? place' with same | ⟨empty, -, -⟩ | ⟨-, -, -, above, other, same⟩
    · exact same
    · rw [file] at empty
      cases empty
    · have walked : first.walk (first.baseOf path) (folders ++ [name]) = .ok place' := by
        rw [Files.place, whole] at placed
        split at placed
        · cases placed
        · exact placed
      have last := (Files.walk_append_singleton_eq_ok walked).2.2
      rw [Files.goal_append_singleton, Files.stepTo, if_neg forward, same] at last
      have names : [other ++ pageEnding] = [name] := List.append_inj_right' last rfl
      exact absurd (List.singleton_inj.1 names).symm (ne_append_pageEnding ending other)
  rw [pageOf, pageOf, Vault.body, Vault.body, source]
  dsimp only
  rw [again, read]
  rfl

/-! ### What tasks leave -/

/-- What a task leaves in a tree: folders where nothing was, and maybe the file of a page. -/
structure Mark where
  folders : List (List Text)
  page? : Option (List Text × List UInt8)

namespace Mark

def content? (mark : Mark) (place : List Text) : Option (List UInt8) :=
  mark.page?.bind fun (written, content) => if place = written then some content else none

theorem content?_eq_some_iff {mark : Mark} {place : List Text} {content : List UInt8} :
    mark.content? place = some content ↔ mark.page? = some (place, content) := by
  rw [Mark.content?]
  rcases mark.page? with _ | ⟨written, bytes⟩
  · exact ⟨nofun, nofun⟩
  · simp [eq_comm]

/-- What the places of a tree hold once the mark is left in it. -/
def leave (contents : List Text → Option Entry) (mark : Mark) (place : List Text) : Option Entry :=
  match mark.content? place with
  | some content => some (.file content)
  | none =>
    if place ∈ mark.folders then some ((contents place).getD .folder) else contents place

/-- A mark that leaves nothing. -/
def blank : Mark := ⟨[], none⟩

theorem leave_of_gains {before after : Files} {places : List (List Text)}
    (gains : Files.Gains before places after) :
    after.at? = leave before.at? ⟨places, none⟩ := funext gains.at?

theorem leave_of_put {before later : Files} {places : List (List Text)}
    (gains : Files.Gains before places later) {place : List Text} (inside : place ≠ [])
    (content : List UInt8) :
    (later.put place (.file content)).at? = leave before.at? ⟨places, some (place, content)⟩ := by
  funext other
  rw [Files.at?_put inside, gains.at?]
  by_cases same : other = place <;> simp [leave, content?, same]

end Mark

/-- Whether the file of a page can be opened: a page without any text could be written. -/
def opens (files : Files) (path : Path) : Bool := ((placing path []).on files).1.isOk

theorem opens_iff {files : Files} {path : Path} :
    opens files path ↔ ((placing path []).on files).1 = .ok () := by
  rw [opens]
  rcases ((placing path []).on files).1 with error | ⟨⟩
  · exact ⟨nofun, nofun⟩
  · exact ⟨fun _ => rfl, fun _ => rfl⟩

/-- What writing a page leaves in a tree. -/
def markOfPage (files : Files) (path : Path) (html : Text) : Mark where
  folders :=
    if Files.isAskable path.parent then files.opened (files.baseOf path) path.parent.names else []
  page? :=
    if opens files path then
      some (Files.goal (files.baseOf path) path.names, files.storable (Text.utf8 html))
    else none

/-- What the task of a note leaves in a tree. -/
def markOf (config : Config) (site : Site) (files : Files) (note : Note) : Mark :=
  match pageOf site files note, fileOf config note with
  | .ok page, .ok path => if isDry config then .blank else markOfPage files path page.html
  | _, _ => .blank

/-! ### Writing pages -/

theorem on_placing (path : Path) (html : Text) (files : Files) :
    (placing path html).on files =
      match (Files.makeFolders path.parent).on files with
      | (.ok _, later) => (Files.writeText path html).on later
      | (.error error, later) => (.error error, later) := by
  refine (Files.on_bind files (Files.makeFolders path.parent) fun _ =>
    Files.writeText path html).trans ?_
  rcases (Files.makeFolders path.parent).on files with ⟨_ | _, later⟩ <;> rfl

theorem on_placing_of_error {path : Path} {files : Files} {error : Files.Error}
    (refused : ((Files.makeFolders path.parent).on files).1 = .error error) (html : Text) :
    (placing path html).on files = (.error error, ((Files.makeFolders path.parent).on files).2) := by
  rw [on_placing, ← Prod.mk.eta (p := (Files.makeFolders path.parent).on files), refused]

/-- Whether a folder stands where a page belongs once the folders of the page are made. -/
def isCovered (files : Files) (path : Path) : Bool :=
  files.at? (Files.goal (files.baseOf path) path.names) = some .folder ||
    Files.goal (files.baseOf path) path.names ∈ Files.trail (files.baseOf path) path.parent.names

section Placing

variable {output path : Path} {folders : List Text} {last : Text}
variable (isFile : IsFile output folders last path)
include isFile

/-- Where the folders of a page can be made, its file is opened unless a folder stands in its
place. -/
theorem IsFile.on_placing_of_isOpen {files : Files} (askable : Files.isAskable path.parent)
    (isOpen : files.isOpen (files.baseOf path) path.parent.names) (html : Text) :
    ∃ later, Files.Gains files (files.opened (files.baseOf path) path.parent.names) later ∧
      (placing path html).on files =
        match Files.refusal? path (last ++ pageEnding) (isCovered files path) with
        | some error => (.error error, later)
        | none => (files.stored (Text.utf8 html),
            later.put (Files.goal (files.baseOf path) path.names)
              (.file (files.storable (Text.utf8 html)))) := by
  have made := Files.made_makeFolders askable files
  rw [on_placing]
  generalize (Files.makeFolders path.parent).on files = result at made ⊢
  obtain ⟨ends, later⟩ := result
  obtain rfl : ends = .ok () := made.ok_iff.2 isOpen
  have gains : Files.Gains files (files.opened (files.baseOf path) path.parent.names) later :=
    made.gains
  have base : later.baseOf path = files.baseOf path := Files.baseOf_congr gains.frame path
  obtain ⟨free, fit⟩ := Files.isOpen_iff.1 isOpen
  have trail := Files.opened_eq_trail isOpen
  have clear : ∀ place ∈ Files.trail (later.baseOf path) path.parent.names,
      later.at? place = some .folder := fun place member => by
    rw [base] at member
    exact gains.at?_of_mem (trail ▸ member) (free place member)
  have covered : decide (later.at? (Files.goal (files.baseOf path) path.names) = some .folder) =
      isCovered files path := by
    rw [isCovered, gains.at?, trail]
    by_cases passed : Files.goal (files.baseOf path) path.names ∈
        Files.trail (files.baseOf path) path.parent.names
    · rw [if_pos passed]
      rcases Files.isTaken_eq_false_iff.1 (free _ passed) with empty | folder
      · simp [empty, passed]
      · simp [folder]
    · simp [passed]
  have forward := isFile.forward (last ++ pageEnding)
    (List.mem_append_right _ List.mem_cons_self)
  refine ⟨later, gains, ?_⟩
  have written := Files.on_write_of_clear isFile.names_eq forward fit clear (Text.utf8 html)
  rw [base, covered, Files.stored_congr gains.frame, Files.storable_congr gains.frame] at written
  refine written.trans ?_
  cases Files.refusal? path (last ++ pageEnding) (isCovered files path) <;> rfl

/-- A page is written only where its folders can be made and nothing refuses its file. -/
theorem IsFile.of_placed {files : Files} {html : Text}
    (ends : ((placing path html).on files).1 = .ok ()) :
    files.isOpen (files.baseOf path) path.parent.names ∧ Files.isAskable path ∧
      Files.fits (last ++ pageEnding) ∧ isCovered files path = false := by
  cases askable : Files.isAskable path.parent with
  | false =>
    obtain ⟨error, refused⟩ := Files.exists_on_makeFolders_eq askable
    rw [on_placing, refused] at ends
    exact nomatch ends
  | true =>
    cases isOpen : files.isOpen (files.baseOf path) path.parent.names with
    | false =>
      obtain ⟨error, refused⟩ := (Files.made_makeFolders askable files).exists_error isOpen
      rw [on_placing_of_error refused] at ends
      exact nomatch ends
    | true =>
      obtain ⟨later, -, same⟩ := isFile.on_placing_of_isOpen askable isOpen html
      rw [same] at ends
      cases refused : Files.refusal? path (last ++ pageEnding) (isCovered files path) with
      | some error =>
        rw [refused] at ends
        exact nomatch ends
      | none => exact ⟨rfl, Files.refusal?_eq_none_iff.1 refused⟩

theorem IsFile.opens_iff {files : Files} : opens files path ↔
    files.isOpen (files.baseOf path) path.parent.names ∧ Files.isAskable path ∧
      Files.fits (last ++ pageEnding) ∧ isCovered files path = false := by
  rw [Publication.opens_iff]
  constructor
  · exact isFile.of_placed
  · rintro ⟨isOpen, askable, free⟩
    obtain ⟨later, -, same⟩ :=
      isFile.on_placing_of_isOpen (Files.isAskable_parent askable) isOpen []
    rw [same, Files.refusal?_eq_none_iff.2 ⟨askable, free⟩]
    exact Files.stored_nil files

/-- Where its file can be opened, as much of a page is left as the file may have. -/
theorem IsFile.on_placing_of_opens {files : Files} (opens : opens files path) (html : Text) :
    ((placing path html).on files).1 = files.stored (Text.utf8 html) := by
  obtain ⟨isOpen, askable, free⟩ := isFile.opens_iff.1 opens
  obtain ⟨later, -, same⟩ :=
    isFile.on_placing_of_isOpen (Files.isAskable_parent askable) isOpen html
  rw [same, Files.refusal?_eq_none_iff.2 ⟨askable, free⟩]

/-- A page is written where its file can be opened and may have all of it. -/
theorem IsFile.placed_iff {files : Files} {html : Text} :
    ((placing path html).on files).1 = .ok () ↔
      opens files path ∧ files.storable (Text.utf8 html) = Text.utf8 html := by
  constructor
  · intro ends
    have opens := isFile.opens_iff.2 (isFile.of_placed ends)
    rw [isFile.on_placing_of_opens opens] at ends
    exact ⟨opens, Files.stored_eq_ok_iff.1 ends⟩
  · rintro ⟨opens, whole⟩
    rw [isFile.on_placing_of_opens opens, Files.stored_eq_ok_iff.2 whole]

/-- A page that could be written is read from every tree that has its folders and its file. -/
theorem IsFile.read_eq {files later : Files} (opens : opens files path)
    (frame : later.toFrame = files.toFrame)
    (clear : ∀ place ∈ Files.trail (files.baseOf path) path.parent.names,
      later.at? place = some .folder) {content : List UInt8}
    (page : later.at? (Files.goal (files.baseOf path) path.names) = some (.file content)) :
    later.read path = .ok content := by
  obtain ⟨isOpen, askable, fits, -⟩ := isFile.opens_iff.1 opens
  have placed : later.place path = .ok (Files.goal (files.baseOf path) path.names) := by
    rw [Files.place_eq_walk askable, Files.baseOf_congr frame, isFile.names_eq,
      Files.walk_append_singleton (Files.isOpen_iff.1 isOpen).2 clear, if_pos fits]
  rw [Files.read, (Files.isAskable_iff.1 askable).1, Files.find, placed]
  dsimp only
  rw [page]
  rfl

theorem IsFile.goal_ne_nil (start : List Text) : Files.goal start path.names ≠ [] := by
  rw [isFile.goal_eq, pageNames]
  simp

/-- A page is covered in a tree that a run comes to if it is in the first one. -/
theorem IsFile.isCovered_eq {first files : Files}
    (grown : Grown (Files.trail (first.baseOf output) output.names) first files) :
    isCovered files path = isCovered first path := by
  rw [isCovered, isCovered, grown.baseOf]
  by_cases passed : Files.goal (first.baseOf path) path.names ∈
      Files.trail (first.baseOf path) path.parent.names
  · simp [passed]
  · have page := isFile.mayBePage passed
    rw [isFile.baseOf] at page
    rw [isFile.baseOf, decide_eq_decide.2 (grown.folder_iff page)]

end Placing

/-- How a page is written into a tree, as seen from another one: it leaves the same, and ends the
same way but for the words in which a folder is refused. -/
structure Follows (path : Path) (html : Text) (first files : Files) : Prop where
  frame : ((placing path html).on files).2.toFrame = files.toFrame
  leaves : ((placing path html).on files).2.at? = (markOfPage first path html).leave files.at?
  ends : ((placing path html).on files).1 = ((placing path html).on first).1 ∨
    ∃ error alone refused, ((placing path html).on files).1 = .error error ∧
      ((placing path html).on first).1 = .error alone ∧
      ((Files.makeFolders path.parent).on first).1 = .error refused

section Follows

variable {output path : Path} {folders : List Text} {last : Text} {first files : Files}

theorem follows_of_not_isAskable (odd : Files.isAskable path.parent = false) (html : Text) :
    Follows path html first files := by
  obtain ⟨error, refused⟩ := Files.exists_on_makeFolders_eq odd
  have same : ∀ files, (placing path html).on files = (.error error, files) := fun files => by
    rw [on_placing, refused]
  have closed : opens first path = false := by
    rw [opens, on_placing, refused]
    rfl
  constructor
  · rw [same]
  · rw [markOfPage, closed, odd, same]
    rfl
  · rw [same, same]
    exact .inl rfl

theorem follows_of_closed (askable : Files.isAskable path.parent)
    (opened : files.opened (files.baseOf path) path.parent.names =
      first.opened (first.baseOf path) path.parent.names)
    (alone : first.isOpen (first.baseOf path) path.parent.names = false)
    (closed : files.isOpen (files.baseOf path) path.parent.names = false) (html : Text) :
    Follows path html first files := by
  have made := Files.made_makeFolders askable files
  obtain ⟨refused, refuses⟩ := (Files.made_makeFolders askable first).exists_error alone
  obtain ⟨error, fails⟩ := made.exists_error closed
  have ends := on_placing_of_error fails html
  have alone := on_placing_of_error refuses html
  have unopened : opens first path = false := by
    rw [opens, on_placing_of_error refuses]
    rfl
  constructor
  · rw [ends]
    exact made.gains.frame
  · rw [markOfPage, ends, unopened, askable, if_pos rfl, ← opened]
    exact Mark.leave_of_gains made.gains
  · rw [ends, alone]
    exact .inr ⟨error, refused, refused, rfl, rfl, refuses⟩

theorem IsFile.follows_of_isOpen (isFile : IsFile output folders last path)
    (grown : Grown (Files.trail (first.baseOf output) output.names) first files)
    (askable : Files.isAskable path.parent)
    (opened : files.opened (files.baseOf path) path.parent.names =
      first.opened (first.baseOf path) path.parent.names)
    (alone : first.isOpen (first.baseOf path) path.parent.names)
    (isOpen : files.isOpen (files.baseOf path) path.parent.names) (html : Text) :
    Follows path html first files := by
  obtain ⟨left, -, ends⟩ := isFile.on_placing_of_isOpen askable alone html
  obtain ⟨later, gains, result⟩ := isFile.on_placing_of_isOpen askable isOpen html
  rw [isFile.isCovered_eq grown] at result
  rw [opened] at gains
  have isOpened : opens first path ↔ _ := isFile.opens_iff
  rw [← Files.refusal?_eq_none_iff] at isOpened
  cases refused : Files.refusal? path (last ++ pageEnding) (isCovered first path) with
  | some error =>
    rw [refused] at result ends
    have unopened : opens first path = false := by
      rw [Bool.eq_false_iff, Ne, isOpened, refused]
      exact fun opens => nomatch opens.2
    refine ⟨by rw [result]; exact gains.frame, ?_, by rw [result, ends]; exact .inl rfl⟩
    rw [markOfPage, result, unopened, askable, if_pos rfl]
    exact Mark.leave_of_gains gains
  | none =>
    rw [refused] at result ends
    rw [Files.stored_congr grown.frame, Files.storable_congr grown.frame] at result
    refine ⟨by rw [result]; exact gains.frame, ?_, by rw [result, ends]; exact .inl rfl⟩
    rw [markOfPage, result, isOpened.2 ⟨alone, refused⟩, askable, if_pos rfl, if_pos rfl,
      grown.baseOf]
    exact Mark.leave_of_put gains (isFile.goal_ne_nil _) _

/-- A page is written into a tree that a run comes to as into the first one. -/
theorem IsFile.follows (isFile : IsFile output folders last path)
    (grown : Grown (Files.trail (first.baseOf output) output.names) first files) (html : Text) :
    Follows path html first files := by
  have base := grown.baseOf path
  cases askable : Files.isAskable path.parent with
  | false => exact follows_of_not_isAskable askable html
  | true =>
    have taken : ∀ place ∈ Files.trail (first.baseOf path) path.parent.names,
        files.isTaken place = first.isTaken place := fun place passed => by
      rw [isFile.baseOf] at passed
      exact grown.isTaken_eq (isFile.mayBeFolder passed)
    have opened := Files.opened_congr taken
    have same := Files.isOpen_congr taken
    rw [← base] at opened same
    nth_rewrite 2 [base] at opened same
    cases isOpen : first.isOpen (first.baseOf path) path.parent.names with
    | false => exact follows_of_closed askable opened isOpen (same.trans isOpen) html
    | true => exact isFile.follows_of_isOpen grown askable opened isOpen (same.trans isOpen) html

end Follows

/-! ### Tasks -/

/-- Whether the folders of the page of a note cannot be made in a tree. -/
def IsBlocked (config : Config) (files : Files) (note : Note) : Prop :=
  ∃ path error, fileOf config note = .ok path ∧
    ((Files.makeFolders path.parent).on files).1 = .error error

/-- Outcomes that are the same, but for the words of a failure to make folders. -/
inductive Outcome.Like (isBlocked : Note → Prop) : Outcome → Outcome → Prop
  | same (outcome : Outcome) : Like isBlocked outcome outcome
  | refused (note : Note) (blocked : isBlocked note) (message other : Text) :
    Like isBlocked (.failed note message) (.failed note other)

section Task

variable {config : Config} {first files : Files} {note : Note}

/-- A task ends in a tree that a run comes to as it ends in the first one, and leaves the same. -/
theorem task_of_grown (found : Vault.Found first note)
    (grown : Grown (wayTo config first) first files) (site : Site) :
    ((task config site note).run files).2.toFrame = files.toFrame ∧
    ((task config site note).run files).2.at? = (markOf config site first note).leave files.at? ∧
    Outcome.Like (IsBlocked config first) ((task config site note).run files).1
      ((task config site note).run first).1 := by
  rw [run_task, run_task, pageOf_eq grown found, markOf]
  cases pageOf site first note with
  | error error => exact ⟨rfl, rfl, .same _⟩
  | ok page =>
    cases isFile : fileOf config note with
    | error error =>
      dsimp only
      split <;> exact ⟨rfl, rfl, .same _⟩
    | ok path =>
      dsimp only
      split
      · exact ⟨rfl, rfl, .same _⟩
      · obtain ⟨output, folders, last, isPath, isFile', -⟩ := exists_of_fileOf found.slug isFile
        rw [wayTo, isPath] at grown
        obtain ⟨frame, leaves, ends⟩ := isFile'.follows grown page.html
        generalize (placing path page.html).on files = result at frame leaves ends ⊢
        generalize (placing path page.html).on first = alone at ends ⊢
        obtain ⟨end₁, later⟩ := result
        obtain ⟨end₂, left⟩ := alone
        rcases ends with same | ⟨error, other, refused, fails, refuses, blocked⟩
        · obtain rfl : end₁ = end₂ := same
          cases end₁ <;> exact ⟨frame, leaves, .same _⟩
        · obtain rfl : end₁ = .error error := fails
          obtain rfl : end₂ = .error other := refuses
          exact ⟨frame, leaves, .refused note ⟨path, refused, isFile, blocked⟩ _ _⟩

/-- A mark that can be left among others: no folder where a file was, and a page where no folder
was or may be made. -/
structure Mark.IsFair (way : List (List Text)) (first : Files) (mark : Mark) : Prop where
  folders : ∀ place ∈ mark.folders, MayBeFolder way place ∧ first.isTaken place = false
  page : ∀ written content, mark.page? = some (written, content) →
    MayBePage way written ∧ first.at? written ≠ some .folder

theorem Mark.isFair_blank (way : List (List Text)) (first : Files) : blank.IsFair way first :=
  ⟨nofun, nofun⟩

theorem Mark.IsFair.grown {way : List (List Text)} {mark : Mark} (fair : mark.IsFair way first)
    (grown : Grown way first files) {later : Files} (frame : later.toFrame = files.toFrame)
    (leaves : later.at? = mark.leave files.at?) : Grown way first later := by
  refine ⟨frame.trans grown.frame, fun place => ?_⟩
  rw [leaves, leave]
  cases written : mark.content? place with
  | some content =>
    obtain ⟨page, clear⟩ := fair.page place content (content?_eq_some_iff.1 written)
    exact .inr (.inr ⟨clear, ⟨content, rfl⟩, page⟩)
  | none =>
    dsimp only
    by_cases made : place ∈ mark.folders
    · obtain ⟨mayBeFolder, free⟩ := fair.folders place made
      rw [if_pos made]
      rcases grown.at? place with same | ⟨empty, folder, -⟩ | ⟨-, -, page⟩
      · rcases Files.isTaken_eq_false_iff.1 free with empty | folder
        · rw [same, empty]
          exact .inr (.inl ⟨rfl, rfl, mayBeFolder⟩)
        · rw [same, folder]
          exact .inl rfl
      · rw [folder]
        exact .inr (.inl ⟨empty, rfl, mayBeFolder⟩)
      · exact absurd mayBeFolder page.not_mayBeFolder
    · rw [if_neg made]
      exact grown.at? place

theorem IsFile.isFair_markOfPage {output path : Path} {folders : List Text} {last : Text}
    (isFile : IsFile output folders last path) (first : Files) (html : Text) :
    (markOfPage first path html).IsFair (Files.trail (first.baseOf output) output.names) first := by
  constructor
  · intro place member
    rw [markOfPage] at member
    dsimp only at member
    split at member
    · have passed := Files.opened_subset_trail member
      rw [isFile.baseOf] at passed
      exact ⟨isFile.mayBeFolder passed, Files.isTaken_of_mem_opened member⟩
    · exact absurd member List.not_mem_nil
  · intro written content found
    rw [markOfPage] at found
    dsimp only at found
    split at found
    · rename_i opens
      obtain ⟨rfl, rfl⟩ := Prod.mk.inj (Option.some.inj found)
      have clear := (isFile.opens_iff.1 opens).2.2.2
      rw [isCovered, Bool.or_eq_false_iff, decide_eq_false_iff_not, decide_eq_false_iff_not] at clear
      refine ⟨?_, clear.1⟩
      have page := isFile.mayBePage clear.2
      rwa [isFile.baseOf] at page ⊢
    · exact nomatch found

/-- A task leaves a page, or a part of one, exactly if the run is not dry and the file of the page
can be opened. -/
theorem page?_markOf_eq_some_iff {site : Site} {written : List Text} {content : List UInt8} :
    (markOf config site first note).page? = some (written, content) ↔
      isDry config = false ∧ ∃ page path, pageOf site first note = .ok page ∧
        fileOf config note = .ok path ∧ opens first path ∧
        written = Files.goal (first.baseOf path) path.names ∧
        content = first.storable (Text.utf8 page.html) := by
  have left : ∀ path html, (markOfPage first path html).page? = some (written, content) ↔
      opens first path ∧ written = Files.goal (first.baseOf path) path.names ∧
        content = first.storable (Text.utf8 html) := by
    intro path html
    rw [markOfPage]
    dsimp only
    cases opens first path <;> simp [eq_comm]
  rw [markOf]
  cases pageOf site first note with
  | error error => simp [Mark.blank]
  | ok page =>
    cases fileOf config note with
    | error error => simp [Mark.blank]
    | ok path =>
      cases isDry config <;> simp [Mark.blank, left]

theorem isFair_markOf (found : Vault.Found first note) (config : Config) (site : Site) :
    (markOf config site first note).IsFair (wayTo config first) first := by
  rw [markOf]
  split
  · rename_i page path _ isFile
    split
    · exact Mark.isFair_blank _ _
    · obtain ⟨output, folders, last, isPath, isFile, -⟩ := exists_of_fileOf found.slug isFile
      rw [wayTo, isPath]
      exact isFile.isFair_markOfPage first page.html
  · exact Mark.isFair_blank _ _

end Task

end Publication

end CampaignPress
