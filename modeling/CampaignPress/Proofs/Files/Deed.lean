/-
This file says how the deeds on a tree of files end and what tree they leave.
Making the folders of a path succeeds if the way is open, and makes a folder of
every place up to the first one that cannot be; it does so also where it fails.
A file is then opened unless a folder stands in its place, and holds as much of
its content as it may.
-/
import CampaignPress.Proofs.Files.Tree

namespace CampaignPress

namespace Files

/-! ### Deeds on a tree -/

/-- How a deed ends, and the tree that it leaves. -/
def Deed.on {α : Type} (deed : Deed α) (files : Files) : Except Error α × Files :=
  deed.run.run files

section On

variable {α β : Type} (files : Files)

theorem on_bind (deed : Deed α) (next : α → Deed β) :
    Deed.on (deed >>= next) files =
      match deed.on files with
      | (.ok value, later) => (next value).on later
      | (.error error, later) => (.error error, later) := by
  show (ExceptT.run (deed >>= next)).run files = _
  rw [Deed.on, ExceptT.run_bind, StateT.run_bind]
  generalize (deed.run).run files = result
  obtain ⟨_ | _, later⟩ := result <;> rfl

theorem on_tryCatch (deed : Deed α) (handle : Error → Deed α) :
    Deed.on (tryCatch deed handle) files =
      match deed.on files with
      | (.ok value, later) => (.ok value, later)
      | (.error error, later) => (handle error).on later := by
  rw [Deed.on]
  show (ExceptT.tryCatch deed handle).run files = _
  rw [Deed.on]
  generalize same : (deed.run).run files = result
  show (deed.run >>= _ : StateM Files _).run files = _
  rw [StateT.run_bind, same]
  obtain ⟨_ | _, later⟩ := result <;> rfl

end On

/-! ### Folders -/

/-- A path that the tree may be asked for. -/
def isAskable (path : Path) : Bool :=
  !holdsNull path && (Text.utf8 path.toText).length ≤ pathLimit

theorem isAskable_iff {path : Path} : isAskable path = true ↔
    holdsNull path = false ∧ (Text.utf8 path.toText).length ≤ pathLimit := by
  rw [isAskable, Bool.and_eq_true, Bool.not_eq_true', decide_eq_true_eq]

theorem place_eq_walk {path : Path} (askable : isAskable path) (files : Files) :
    files.place path = files.walk (files.baseOf path) path.names :=
  if_neg (Nat.not_lt.2 (isAskable_iff.1 askable).2)

theorem on_makeFolder {path : Path} (noNull : holdsNull path = false) (files : Files) :
    (makeFolder path).on files =
      match files.place path with
      | .error cause => (.error (.refused cause path), files)
      | .ok place =>
        if (files.at? place).isSome then (.error (.refused .alreadyThere path), files)
        else (.ok (), files.put place .folder) := by
  rw [makeFolder, noNull]
  show Deed.on (match files.place path with
    | .error cause => throw (.refused cause path)
    | .ok place =>
      if (files.at? place).isSome then throw (.refused .alreadyThere path)
      else set (files.put place .folder)) files = _
  rcases files.place path with cause | place
  · rfl
  · show Deed.on (if _ then _ else _) files = if _ then _ else _
    split <;> rfl

theorem on_unlessThere_eq (path : Path) {cause : Cause} (other : cause ≠ .missing) (files : Files) :
    (unlessThere path (.refused cause path)).on files =
      match files.isFolder path with
      | .ok true => (.ok (), files)
      | .ok false => (.error (.refused cause path), files)
      | .error further => (.error further, files) := by
  have asked : Deed.on get files = (.ok files, files) := rfl
  cases cause with
  | missing => exact absurd rfl other
  | _ =>
    show Deed.on (get >>= _) files = _
    rw [on_bind, asked]
    dsimp only
    rcases files.isFolder path with further | _ | _ <;> rfl

/-- A failure to make a folder changes nothing, and is none where a folder stands. -/
theorem on_unlessThere {path : Path} (noNull : holdsNull path = false) (cause : Cause)
    (other : cause ≠ .missing) (files : Files) :
    ((unlessThere path (.refused cause path)).on files).2 = files ∧
      (((unlessThere path (.refused cause path)).on files).1 = .ok () ↔
        files.find path = .ok .folder) := by
  rw [on_unlessThere_eq path other, isFolder, find?, noNull]
  rcases files.find path with cause | entry
  · cases cause <;> simp
  · cases entry <;> simp [Entry.isFile]

/-- Making the folders of a path succeeds if the way is open, and opens it as far as it can. -/
structure Made (path : Path) (before : Files) (result : Except Error Unit × Files) : Prop where
  ok_iff : result.1 = .ok () ↔ before.isOpen (before.baseOf path) path.names
  gains : Gains before (before.opened (before.baseOf path) path.names) result.2

theorem Made.exists_error {path : Path} {before : Files} {result : Except Error Unit × Files}
    (made : Made path before result)
    (closed : before.isOpen (before.baseOf path) path.names = false) :
    ∃ error, result.1 = .error error := by
  cases ends : result.1 with
  | error error => exact ⟨error, rfl⟩
  | ok done => exact absurd (made.ok_iff.1 ends) (Bool.eq_false_iff.1 closed)

theorem find_eq (path : Path) (files : Files) : files.find path = match files.place path with
    | .error cause => .error cause
    | .ok place =>
      match files.at? place with
      | some entry => .ok entry
      | none => .error .missing := rfl

section Single

variable {path : Path} (noNull : holdsNull path = false) {files : Files}
include noNull

/-- Nothing is made if the way to a folder breaks off at something other than a missing entry. -/
theorem made_of_walk_eq_error {cause : Cause} (other : cause ≠ .missing)
    (placed : files.place path = .error cause)
    (walked : files.walk (files.baseOf path) path.names = .error cause) :
    Made path files ((unlessThere path (.refused cause path)).on files) := by
  have find := find_eq path files
  rw [placed] at find
  obtain ⟨closed, folders⟩ := not_isOpen_of_walk walked other
  obtain ⟨same, ends⟩ := on_unlessThere noNull cause other files
  refine ⟨?_, ?_⟩
  · rw [ends, find, closed]
    simp
  · rw [same]
    exact .of_folders folders

/-- A folder is made in a place where nothing stands. -/
theorem made_of_walk_eq_ok {place : List Text}
    (placed : files.place path = .ok place)
    (walked : files.walk (files.baseOf path) path.names = .ok place) :
    Made path files (if (files.at? place).isSome then
      (unlessThere path (.refused .alreadyThere path)).on files
      else (.ok (), files.put place .folder)) := by
  have find := find_eq path files
  rw [placed] at find
  obtain ⟨ends, passed, folders, split⟩ := isOpen_of_walk walked
  obtain ⟨same, iff⟩ := on_unlessThere noNull .alreadyThere (by decide) files
  cases entry : files.at? place with
  | none =>
    have free : files.isTaken place = false := isTaken_eq_false_iff.2 (.inl entry)
    rw [free] at ends split
    refine ⟨⟨fun _ => ends, fun _ => rfl⟩, ?_⟩
    rw [split]
    exact (Gains.of_folders folders).trans (.put entry)
  | some found =>
    simp only [entry] at find
    rw [Option.isSome_some, if_pos rfl]
    cases found with
    | folder =>
      have free : files.isTaken place = false := isTaken_eq_false_iff.2 (.inr entry)
      rw [free] at ends split
      refine ⟨⟨fun _ => ends, fun _ => iff.2 find⟩, ?_⟩
      rw [same, split]
      exact .of_folders (List.forall_mem_append.2 ⟨folders, List.forall_mem_singleton.2 entry⟩)
    | file content =>
      have taken : files.isTaken place = true := by rw [isTaken, entry]; rfl
      rw [taken] at ends split
      refine ⟨⟨fun ok => ?_, fun isOpen => ?_⟩, ?_⟩
      · rw [iff, find] at ok
        cases ok
      · rw [ends] at isOpen
        cases isOpen
      · rw [same, split]
        exact .of_folders (List.forall_mem_append.2 ⟨folders, by simp⟩)

end Single

/-- Making a single folder, where what it lies in is there or cannot be. -/
theorem made_tryCatch {path : Path} (askable : isAskable path) {files : Files}
    (there : files.place path ≠ .error .missing) :
    Made path files (Deed.on (tryCatch (makeFolder path) (unlessThere path)) files) := by
  have noNull := (isAskable_iff.1 askable).1
  rw [on_tryCatch, on_makeFolder noNull]
  have walked := place_eq_walk askable files
  cases placed : files.place path with
  | error cause =>
    have other : cause ≠ .missing := fun same => there (placed.trans (congrArg Except.error same))
    exact made_of_walk_eq_error noNull other placed (walked.symm.trans placed)
  | ok place =>
    have made := made_of_walk_eq_ok noNull placed (walked.symm.trans placed)
    dsimp only
    by_cases taken : (files.at? place).isSome
    · rwa [if_pos taken] at made ⊢
    · rwa [if_neg taken] at made ⊢

theorem length_utf8_append (left right : Text) :
    (Text.utf8 (left ++ right)).length = (Text.utf8 left).length + (Text.utf8 right).length := by
  rw [Text.utf8, List.flatMap_append, List.length_append]
  rfl

theorem join_prefix_append_singleton (separator : Text) (parts : List Text) (last : Text) :
    Text.join separator parts <+: Text.join separator (parts ++ [last]) := by
  induction parts with
  | nil => exact List.nil_prefix
  | cons part parts inductionHypothesis =>
    have more : parts ++ [last] ≠ [] := List.append_ne_nil_of_right_ne_nil _ (List.cons_ne_nil _ _)
    rw [List.cons_append, Text.join, Text.join, List.intercalate_cons_of_ne_nil more]
    by_cases single : parts = []
    · rw [single, List.intercalate_singleton, List.append_assoc]
      exact List.prefix_append _ _
    · rw [List.intercalate_cons_of_ne_nil single]
      exact List.prefix_append_right_inj _ |>.2 inductionHypothesis

theorem length_toText_parent (path : Path) :
    (Text.utf8 path.parent.toText).length ≤ max 1 (Text.utf8 path.toText).length := by
  obtain ⟨root, names⟩ := path
  rcases List.eq_nil_or_concat' names with rfl | ⟨init, last, rfl⟩
  · exact le_max_right _ _
  · rw [Path.parent, Path.toText, Path.toText, List.dropLast_concat]
    split
    · exact le_max_left _ _
    · obtain ⟨rest, whole⟩ := join_prefix_append_singleton ['/'] init last
      rw [if_neg (by simp)]
      show _ ≤ max 1 (Text.utf8 (root ++ Text.join ['/'] (init ++ [last]))).length
      rw [← whole, ← List.append_assoc, length_utf8_append (_ ++ _)]
      exact le_max_of_le_right (Nat.le_add_right _ _)

theorem isAskable_parent {path : Path} (askable : isAskable path) : isAskable path.parent := by
  rw [isAskable_iff] at askable ⊢
  refine ⟨?_, (length_toText_parent path).trans (max_le (by decide) askable.2)⟩
  rw [holdsNull, List.any_eq_false] at askable ⊢
  exact fun name member => askable.1 name (List.mem_of_mem_dropLast member)

section Append

variable {root : Text} {names : List Text} {before later : Files}

/-- Where the folders before the last one cannot be made, nothing more is made. -/
theorem Made.append_of_error {error : Error} (name : Text)
    (made : Made ⟨root, names⟩ before (.error error, later)) :
    Made ⟨root, names ++ [name]⟩ before (.error error, later) := by
  have closed : before.isOpen (before.baseOf ⟨root, names⟩) names = false := by
    rw [Bool.eq_false_iff]
    exact fun isOpen => nomatch made.ok_iff.2 isOpen
  have gains := made.gains
  rw [← opened_append_of_not_isOpen closed [name]] at gains
  refine ⟨⟨nofun, fun isOpen => ?_⟩, gains⟩
  rw [isOpen_append_singleton] at isOpen
  change (before.isOpen (before.baseOf ⟨root, names⟩) names && _ && _) = true at isOpen
  rw [closed] at isOpen
  exact nomatch isOpen

/-- Where the folders before the last one have been made, the last one can be made alone. -/
theorem Made.append_of_ok {result : Except Error Unit × Files} (name : Text)
    (made : Made ⟨root, names⟩ before (.ok (), later))
    (askable : isAskable ⟨root, names ++ [name]⟩)
    (last : later.place ⟨root, names ++ [name]⟩ ≠ .error .missing →
      Made ⟨root, names ++ [name]⟩ later result) :
    Made ⟨root, names ++ [name]⟩ before result := by
  have isOpen := made.ok_iff.1 rfl
  obtain ⟨free, fit⟩ := isOpen_iff.1 isOpen
  have gains := made.gains
  have base : later.baseOf ⟨root, names ++ [name]⟩ = before.baseOf ⟨root, names⟩ :=
    baseOf_congr gains.frame _
  have clear : ∀ place ∈ trail (before.baseOf ⟨root, names⟩) names,
      later.at? place = some .folder := fun place member =>
    gains.at?_of_mem (opened_eq_trail isOpen ▸ member) (free place member)
  have there : later.place ⟨root, names ++ [name]⟩ ≠ .error .missing := by
    rw [place_eq_walk askable, base, walk_append_singleton fit clear]
    split <;> exact nofun
  obtain ⟨ends, further⟩ := last there
  have same : ∀ passed ∈ trail (before.baseOf ⟨root, names⟩) (names ++ [name]),
      later.isTaken passed = before.isTaken passed := fun passed _ => gains.isTaken_eq passed
  rw [base, isOpen_congr same] at ends
  rw [base, opened_congr same] at further
  refine ⟨ends, (gains.trans further).congr fun place => ?_⟩
  show place ∈ before.opened (before.baseOf ⟨root, names⟩) (names ++ [name]) ↔ _
  rw [opened_append_singleton isOpen, ← List.append_assoc]
  simp

end Append

/-- The folders that a path lies in are made first only where one of them is missing. -/
theorem on_makeFoldersWithin_succ {path : Path} (noNull : holdsNull path = false) (depth : Nat)
    (files : Files) :
    (makeFoldersWithin (depth + 1) path).on files =
      if files.place path = .error .missing then
        match (makeFoldersWithin depth path.parent).on files with
        | (.ok _, later) => Deed.on (tryCatch (makeFolder path) (unlessThere path)) later
        | (.error error, later) => (.error error, later)
      else Deed.on (tryCatch (makeFolder path) (unlessThere path)) files := by
  rw [makeFoldersWithin, on_tryCatch, on_tryCatch, on_makeFolder noNull]
  cases files.place path with
  | error cause =>
    cases cause with
    | missing =>
      rw [if_pos rfl]
      refine (on_bind files (makeFoldersWithin depth path.parent) fun _ =>
        tryCatch (makeFolder path) (unlessThere path)).trans ?_
      rcases (makeFoldersWithin depth path.parent).on files with ⟨_ | _, later⟩ <;> rfl
    | _ => exact (if_neg nofun).symm
  | ok place =>
    rw [if_neg nofun]
    dsimp only
    cases (files.at? place).isSome <;> rfl

theorem made_makeFoldersWithin {path : Path} (askable : isAskable path) (files : Files) :
    Made path files ((makeFoldersWithin path.names.length path).on files) := by
  obtain ⟨root, names⟩ := path
  induction names using List.reverseRecOn generalizing files with
  | nil =>
    refine made_tryCatch askable ?_
    rw [place_eq_walk askable]
    exact nofun
  | append_singleton names name inductionHypothesis =>
    have noNull := (isAskable_iff.1 askable).1
    have parent : (⟨root, names ++ [name]⟩ : Path).parent = ⟨root, names⟩ := by
      rw [Path.parent, List.dropLast_concat]
    rw [List.length_append, List.length_singleton, on_makeFoldersWithin_succ noNull, parent]
    split
    · have parentAskable := isAskable_parent askable
      rw [parent] at parentAskable
      have first := inductionHypothesis files parentAskable
      generalize (makeFoldersWithin names.length ⟨root, names⟩).on files = result at first ⊢
      obtain ⟨error | ⟨⟩, later⟩ := result
      · exact first.append_of_error name
      · exact first.append_of_ok name askable fun there => made_tryCatch askable there
    · rename_i there
      exact made_tryCatch askable there

/-- Making the folders of a path. -/
theorem made_makeFolders {path : Path} (askable : isAskable path) (files : Files) :
    Made path files ((makeFolders path).on files) := made_makeFoldersWithin askable files

/-- A path that no tree may be asked for is refused in the same words by every tree. -/
theorem exists_on_makeFolders_eq {path : Path} (odd : isAskable path = false) :
    ∃ error, ∀ files, (makeFolders path).on files = (.error error, files) := by
  cases null : holdsNull path with
  | true =>
    refine ⟨.nullToMake, fun files => ?_⟩
    rw [makeFolders]
    cases path.names.length <;>
    · rw [makeFoldersWithin, on_tryCatch, makeFolder, null]
      rfl
  | false =>
    have long : pathLimit < (Text.utf8 path.toText).length := by
      simpa [isAskable, null] using odd
    refine ⟨.refused .nameTooLong path, fun files => ?_⟩
    have placed : files.place path = .error .nameTooLong := if_pos long
    have alone : Deed.on (tryCatch (makeFolder path) (unlessThere path)) files =
        (.error (.refused .nameTooLong path), files) := by
      rw [on_tryCatch, on_makeFolder null, placed]
      dsimp only
      rw [on_unlessThere_eq path (by decide), isFolder, find?, null, find, placed]
      rfl
    rw [makeFolders]
    cases path.names.length with
    | zero => exact alone
    | succ depth => rw [on_makeFoldersWithin_succ null, placed, if_neg (by simp), alone]

/-! ### Files -/

/-- How the writing of a content into an open file ends. -/
def stored (files : Files) (content : List UInt8) : Except Error Unit :=
  if files.storable content = content then .ok () else .error .tooLarge

theorem stored_eq_ok_iff {files : Files} {content : List UInt8} :
    files.stored content = .ok () ↔ files.storable content = content := by
  rw [stored]
  split
  · exact ⟨fun _ => ‹_›, fun _ => rfl⟩
  · exact ⟨nofun, fun same => absurd same ‹_›⟩

theorem stored_nil (files : Files) : files.stored [] = .ok () := by
  rw [stored_eq_ok_iff, storable]
  split
  · exact List.take_nil
  · rfl

theorem stored_congr {files other : Files} (frame : other.toFrame = files.toFrame)
    (content : List UInt8) : other.stored content = files.stored content := by
  rw [stored, stored, storable_congr frame]

theorem on_write (path : Path) (content : List UInt8) (files : Files) :
    (write path content).on files =
      if holdsNull path then (.error .nullToOpen, files)
      else match files.place path with
        | .error cause => (.error (.refused cause path), files)
        | .ok place =>
          if files.at? place = some .folder then (.error (.refused .isFolder path), files)
          else if files.at? place.dropLast = some .folder then
            (files.stored content, files.put place (.file (files.storable content)))
          else (.error (.refused .missing path), files) := by
  rw [write]
  by_cases null : holdsNull path = true
  · rw [if_pos null, null]
    rfl
  · rw [if_neg null, Bool.eq_false_iff.2 null]
    show Deed.on (match files.place path with
      | .error cause => throw (.refused cause path)
      | .ok place =>
        if files.at? place = some .folder then throw (.refused .isFolder path)
        else if files.at? place.dropLast = some .folder then do
          set (files.put place (.file (files.storable content)))
          if files.storable content ≠ content then throw .tooLarge
        else throw (.refused .missing path)) files = _
    cases files.place path with
    | error cause => rfl
    | ok place =>
      dsimp only
      split
      · rfl
      · split
        · rw [stored]
          by_cases whole : files.storable content = content
          · rw [if_neg (not_not.2 whole), if_pos whole]
            rfl
          · rw [if_pos whole, if_neg whole]
            rfl
        · rfl

/-- What keeps a file from being opened, once the folders that it lies in are there. -/
def refusal? (path : Path) (name : Text) (isFolder : Bool) : Option Error :=
  if holdsNull path then some .nullToOpen
  else if pathLimit < (Text.utf8 path.toText).length || !fits name then
    some (.refused .nameTooLong path)
  else if isFolder then some (.refused .isFolder path)
  else none

theorem refusal?_eq_none_iff {path : Path} {name : Text} {isFolder : Bool} :
    refusal? path name isFolder = none ↔ isAskable path ∧ fits name ∧ isFolder = false := by
  rw [refusal?, isAskable]
  by_cases long : pathLimit < (Text.utf8 path.toText).length
  · cases holdsNull path <;> simp [long]
  · cases holdsNull path <;> cases fits name <;> cases isFolder <;> simp [long, not_lt.1 long]

/-- A file is opened below folders that are there. -/
theorem on_write_of_clear {path : Path} {names : List Text} {name : Text}
    (whole : path.names = names ++ [name]) (forward : name ≠ ['.', '.']) (fit : names.all fits)
    {files : Files}
    (clear : ∀ place ∈ trail (files.baseOf path) names, files.at? place = some .folder)
    (content : List UInt8) :
    (write path content).on files =
      match refusal? path name (files.at? (goal (files.baseOf path) path.names) = some .folder) with
      | some error => (.error error, files)
      | none => (files.stored content,
          files.put (goal (files.baseOf path) path.names) (.file (files.storable content))) := by
  rw [on_write, refusal?]
  by_cases null : holdsNull path = true
  · rw [if_pos null, if_pos null]
  rw [if_neg null, if_neg null]
  by_cases long : pathLimit < (Text.utf8 path.toText).length
  · have placed : files.place path = .error .nameTooLong := if_pos long
    rw [placed, decide_eq_true long]
    rfl
  have placed : files.place path =
      if fits name then .ok (goal (files.baseOf path) path.names) else .error .nameTooLong := by
    rw [place, if_neg long, whole]
    exact walk_append_singleton fit clear
  rw [placed, decide_eq_false long, Bool.false_or]
  cases room : fits name with
  | false => rfl
  | true =>
    have inside : (goal (files.baseOf path) path.names).dropLast =
        goal (files.baseOf path) names := by
      rw [whole, goal_append_singleton, stepTo, if_neg forward, List.dropLast_concat]
    show (if _ then _ else _) = _
    rw [inside, if_pos (clear _ (goal_mem_trail _ names))]
    by_cases folder : files.at? (goal (files.baseOf path) path.names) = some .folder
    · rw [if_pos folder, decide_eq_true folder]
      rfl
    · rw [if_neg folder, decide_eq_false folder]
      rfl

/-! ### Reading -/

/-- Where a text is read from, there is a file. -/
theorem exists_of_readText {files : Files} {path : Path} {text : Text}
    (read : files.readText path = .ok text) : holdsNull path = false ∧
      ∃ place content, files.place path = .ok place ∧ files.at? place = some (.file content) := by
  rw [readText, Files.read, find] at read
  cases null : holdsNull path with
  | true =>
    rw [null] at read
    exact nomatch read
  | false =>
    rw [null] at read
    cases placed : files.place path with
    | error cause =>
      rw [placed] at read
      exact nomatch read
    | ok place =>
      rw [placed] at read
      dsimp only at read
      refine ⟨rfl, place, ?_⟩
      rcases entry : files.at? place with _ | _ | content
      · rw [entry] at read
        exact nomatch read
      · rw [entry] at read
        exact nomatch read
      · exact ⟨content, rfl, rfl⟩

/-- A text is read from a tree that has all folders of another one, and its file. -/
theorem readText_of_kept {files other : Files} {path : Path} {text : Text}
    (read : files.readText path = .ok text) (frame : other.toFrame = files.toFrame)
    (folders : ∀ place, files.at? place = some .folder → other.at? place = some .folder)
    (kept : ∀ place, files.place path = .ok place → other.at? place = files.at? place) :
    other.readText path = .ok text := by
  obtain ⟨-, place, content, placed, -⟩ := exists_of_readText read
  have same : other.place path = .ok place := by
    rw [Files.place] at placed ⊢
    split at placed
    · exact nomatch placed
    · rename_i short
      rw [if_neg short, baseOf_congr frame]
      exact walk_of_folders folders placed
  have found : other.find path = files.find path := by
    rw [find, find, same, placed]
    dsimp only
    rw [kept place placed]
  rw [readText, Files.read, found]
  exact read

end Files

end CampaignPress
