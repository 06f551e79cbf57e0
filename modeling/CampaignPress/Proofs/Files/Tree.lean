/-
This file tells what a tree of files holds in each place, and what the deeds on
it change. Folders are made along the way that a path takes: every place on it
becomes a folder, up to the first one that holds a file or has too long a name.
How far the way is open depends on the files and on the names alone, so further
folders in the tree make no difference to it.
-/
import CampaignPress.Files
import Mathlib

namespace CampaignPress

namespace Files

/-! ### Places -/

section Places

variable {files : Files}

theorem lookup_cons_eq (place other : List Text) (entry : Entry)
    (entries : List (List Text × Entry)) : ((place, entry) :: entries).lookup other =
      if other = place then some entry else entries.lookup other := by
  rw [List.lookup_cons]
  by_cases same : other = place
  · simp [same]
  · rw [beq_eq_false_iff_ne.2 same, if_neg same]

theorem lookup_putEntry (place other : List Text) (entry : Entry)
    (entries : List (List Text × Entry)) :
    (putEntry place entry entries).lookup other =
      if other = place then some entry else entries.lookup other := by
  induction entries with
  | nil => exact lookup_cons_eq place other entry []
  | cons first entries inductionHypothesis =>
    obtain ⟨next, old⟩ := first
    rw [putEntry, lookup_cons_eq]
    by_cases here : next = place
    · rw [if_pos here, lookup_cons_eq, here]
      split <;> rfl
    · rw [if_neg here, lookup_cons_eq, inductionHypothesis]
      by_cases found : other = next
      · rw [if_pos found, if_neg fun same => here (found.symm.trans same), if_pos found]
      · rw [if_neg found, if_neg found]

theorem at?_of_ne {place : List Text} (inside : place ≠ []) :
    files.at? place = files.entries.lookup place := if_neg (by simpa using inside)

theorem at?_put {place : List Text} (inside : place ≠ []) (entry : Entry) (other : List Text) :
    (files.put place entry).at? other = if other = place then some entry else files.at? other := by
  by_cases root : other = []
  · rw [root, if_neg (Ne.symm inside)]
    rfl
  · rw [at?_of_ne root, at?_of_ne root]
    exact lookup_putEntry place other entry files.entries

/-- Whether a place holds a file, so that it cannot be a folder. -/
def isTaken (files : Files) (place : List Text) : Bool := (files.at? place).any Entry.isFile

theorem isTaken_eq_false_iff {place : List Text} :
    files.isTaken place = false ↔ files.at? place = none ∨ files.at? place = some .folder := by
  rw [isTaken]
  rcases files.at? place with _ | _ | content <;> simp [Entry.isFile]

theorem baseOf_congr {other : Files} (frame : other.toFrame = files.toFrame) (path : Path) :
    other.baseOf path = files.baseOf path := by
  rw [baseOf, baseOf, frame]

theorem storable_congr {other : Files} (frame : other.toFrame = files.toFrame)
    (content : List UInt8) : other.storable content = files.storable content := by
  rw [storable, storable, frame]

end Places

/-! ### Ways -/

/-- The place that a name leads to from another one. -/
def stepTo (place : List Text) (name : Text) : List Text :=
  if name = ['.', '.'] then place.dropLast else place ++ [name]

/-- Whether a name may be passed. -/
def fits (name : Text) : Bool := name = ['.', '.'] || (Text.utf8 name).length ≤ nameLimit

/-- The place that names lead to. -/
def goal (place names : List Text) : List Text := names.foldl stepTo place

/-- The places that names pass, from the first one to the goal. -/
def trail : (place names : List Text) → List (List Text)
  | place, [] => [place]
  | place, name :: names => place :: trail (stepTo place name) names

/-- Whether every place on a way is a folder or can become one. -/
def isOpen (files : Files) (place names : List Text) : Bool :=
  (trail place names).all (fun place => !files.isTaken place) && names.all fits

/-- The places on a way up to the first one that cannot be a folder. -/
def opened (files : Files) : (place names : List Text) → List (List Text)
  | place, [] => if files.isTaken place then [] else [place]
  | place, name :: names =>
    if files.isTaken place then []
    else place :: if fits name then opened files (stepTo place name) names else []

section Ways

variable {files : Files} {place names : List Text} {name : Text}

theorem goal_append (place names others : List Text) :
    goal place (names ++ others) = goal (goal place names) others := List.foldl_append

theorem goal_append_singleton (place names : List Text) (name : Text) :
    goal place (names ++ [name]) = stepTo (goal place names) name := goal_append place names [name]

theorem goal_eq_append (forward : ∀ name ∈ names, name ≠ ['.', '.']) (place : List Text) :
    goal place names = place ++ names := by
  induction names using List.reverseRecOn with
  | nil => exact (List.append_nil place).symm
  | append_singleton names name inductionHypothesis =>
    rw [List.forall_mem_append, List.forall_mem_singleton] at forward
    rw [goal_append_singleton, inductionHypothesis forward.1, stepTo, if_neg forward.2,
      List.append_assoc]

theorem trail_append_singleton (place names : List Text) (name : Text) :
    trail place (names ++ [name]) = trail place names ++ [goal place (names ++ [name])] := by
  induction names generalizing place with
  | nil => rfl
  | cons first names inductionHypothesis =>
    rw [List.cons_append, trail, trail, inductionHypothesis]
    rfl

theorem trail_subset_append (place names others : List Text) :
    trail place names ⊆ trail place (names ++ others) := by
  induction others using List.reverseRecOn with
  | nil => simp
  | append_singleton others name inductionHypothesis =>
    rw [← List.append_assoc, trail_append_singleton]
    exact List.subset_append_of_subset_left _ inductionHypothesis

theorem goal_mem_trail (place names : List Text) : goal place names ∈ trail place names := by
  induction names generalizing place with
  | nil => exact List.mem_singleton_self place
  | cons name names inductionHypothesis =>
    exact List.mem_cons_of_mem place (inductionHypothesis (stepTo place name))

theorem isOpen_cons : files.isOpen place (name :: names) =
    (!files.isTaken place && fits name && files.isOpen (stepTo place name) names) := by
  rw [isOpen, isOpen, trail, List.all_cons, List.all_cons]
  cases files.isTaken place <;> cases fits name <;> simp

theorem isOpen_nil : files.isOpen place [] = !files.isTaken place := by
  simp [isOpen, trail]

theorem isOpen_append_singleton : files.isOpen place (names ++ [name]) =
    (files.isOpen place names && fits name &&
      !files.isTaken (goal place (names ++ [name]))) := by
  rw [isOpen, isOpen, trail_append_singleton, List.all_append, List.all_append]
  simp only [List.all_cons, List.all_nil, Bool.and_true]
  cases (trail place names).all _ <;> cases names.all fits <;> cases fits name <;> simp

theorem isOpen_iff : files.isOpen place names ↔
    (∀ passed ∈ trail place names, files.isTaken passed = false) ∧ names.all fits := by
  simp only [isOpen, Bool.and_eq_true, List.all_eq_true, Bool.not_eq_true']

theorem opened_eq_trail (isOpen : files.isOpen place names) :
    files.opened place names = trail place names := by
  induction names generalizing place with
  | nil =>
    rw [isOpen_nil, Bool.not_eq_true'] at isOpen
    simp [opened, trail, isOpen]
  | cons name names inductionHypothesis =>
    rw [isOpen_cons, Bool.and_eq_true, Bool.and_eq_true, Bool.not_eq_true'] at isOpen
    simp [opened, trail, isOpen.1.1, isOpen.1.2, inductionHypothesis isOpen.2]

theorem opened_subset_trail : files.opened place names ⊆ trail place names := by
  induction names generalizing place with
  | nil =>
    rw [opened]
    split <;> simp [trail]
  | cons name names inductionHypothesis =>
    rw [opened, trail]
    split
    · exact List.nil_subset _
    · split
      · exact List.cons_subset_cons place inductionHypothesis
      · exact List.cons_subset_cons place (List.nil_subset _)

theorem isTaken_of_mem_opened {passed : List Text} (member : passed ∈ files.opened place names) :
    files.isTaken passed = false := by
  induction names generalizing place with
  | nil =>
    rw [opened] at member
    split at member
    · exact absurd member List.not_mem_nil
    · rename_i free
      rw [List.mem_singleton.1 member]
      exact Bool.eq_false_iff.2 free
  | cons name names inductionHypothesis =>
    rw [opened] at member
    split at member
    · exact absurd member List.not_mem_nil
    · rename_i free
      rcases List.mem_cons.1 member with rfl | later
      · exact Bool.eq_false_iff.2 free
      · split at later
        · exact inductionHypothesis later
        · exact absurd later List.not_mem_nil

theorem opened_append_singleton (isOpen : files.isOpen place names) :
    files.opened place (names ++ [name]) = files.opened place names ++
      if fits name && !files.isTaken (goal place (names ++ [name]))
      then [goal place (names ++ [name])] else [] := by
  induction names generalizing place with
  | nil =>
    rw [isOpen_nil, Bool.not_eq_true'] at isOpen
    rw [List.nil_append, opened, opened, opened, isOpen]
    show place :: (if fits name then _ else _) = [place] ++ _
    cases fits name with
    | false => rfl
    | true =>
      rw [Bool.true_and]
      show place :: (if files.isTaken (stepTo place name) then _ else _) =
        [place] ++ if !files.isTaken (stepTo place name) then [stepTo place name] else []
      cases files.isTaken (stepTo place name) <;> rfl
  | cons first names inductionHypothesis =>
    rw [isOpen_cons, Bool.and_eq_true, Bool.and_eq_true, Bool.not_eq_true'] at isOpen
    simp only [List.cons_append, opened, isOpen.1.1, isOpen.1.2, if_true, Bool.false_eq_true,
      if_false, inductionHypothesis isOpen.2]
    rfl

theorem opened_append_of_not_isOpen (closed : files.isOpen place names = false)
    (others : List Text) : files.opened place (names ++ others) = files.opened place names := by
  induction names generalizing place with
  | nil =>
    rw [isOpen_nil, Bool.not_eq_false'] at closed
    cases others <;> simp [opened, closed]
  | cons first names inductionHypothesis =>
    rw [isOpen_cons] at closed
    rw [List.cons_append, opened, opened]
    cases taken : files.isTaken place
    · cases room : fits first
      · rfl
      · rw [taken, room] at closed
        simp only [if_true, Bool.false_eq_true, if_false, inductionHypothesis closed]
    · rfl

end Ways

/-! ### Walking -/

section Walking

variable {files : Files} {place names : List Text} {name : Text}

theorem walk_cons (files : Files) (place : List Text) (name : Text) (names : List Text) :
    files.walk place (name :: names) =
      match files.at? place with
      | none => .error .missing
      | some (.file _) => .error .notFolder
      | some .folder =>
        if fits name then files.walk (stepTo place name) names else .error .nameTooLong := by
  rw [walk]
  rcases files.at? place with _ | _ | content
  · rfl
  · by_cases back : name = ['.', '.']
    · simp [fits, stepTo, back]
    · by_cases long : nameLimit < (Text.utf8 name).length
      · simp [fits, back, long, Nat.not_le.2 long]
      · simp [fits, stepTo, back, long, Nat.not_lt.1 long]
  · rfl

/-- A walk goes on from a folder only, to a name that fits. -/
theorem walk_cons_eq_ok_iff {last : List Text} : files.walk place (name :: names) = .ok last ↔
    files.at? place = some .folder ∧ fits name ∧ files.walk (stepTo place name) names = .ok last := by
  rw [walk_cons]
  rcases files.at? place with _ | _ | content
  · simp
  · cases fits name <;> simp
  · simp

/-- Names are walked where every place before the last one is a folder. -/
theorem walk_append_singleton (fit : names.all fits)
    (clear : ∀ passed ∈ trail place names, files.at? passed = some .folder) :
    files.walk place (names ++ [name]) =
      if fits name then .ok (goal place (names ++ [name])) else .error .nameTooLong := by
  induction names generalizing place with
  | nil =>
    rw [List.nil_append, walk_cons, clear place (List.mem_singleton_self place)]
    rfl
  | cons first names inductionHypothesis =>
    rw [trail, List.forall_mem_cons] at clear
    rw [List.all_cons, Bool.and_eq_true] at fit
    rw [List.cons_append, walk_cons, clear.1]
    show (if fits first then _ else _) = _
    rw [if_pos fit.1, inductionHypothesis fit.2 clear.2]
    rfl

/-- Where a walk ends, every place before the last one is a folder, and all names fit. -/
theorem walk_append_singleton_eq_ok {last : List Text}
    (walked : files.walk place (names ++ [name]) = .ok last) :
    (∀ passed ∈ trail place names, files.at? passed = some .folder) ∧
      (names ++ [name]).all fits ∧ last = goal place (names ++ [name]) := by
  induction names generalizing place with
  | nil =>
    obtain ⟨folder, room, walked⟩ := walk_cons_eq_ok_iff.1 walked
    obtain rfl := Except.ok.inj walked
    exact ⟨List.forall_mem_singleton.2 folder, by simpa using room, rfl⟩
  | cons first names inductionHypothesis =>
    obtain ⟨folder, room, walked⟩ := walk_cons_eq_ok_iff.1 walked
    obtain ⟨clear, fit, rfl⟩ := inductionHypothesis walked
    exact ⟨List.forall_mem_cons.2 ⟨folder, clear⟩,
      by rw [List.cons_append, List.all_cons, room, fit]; rfl, rfl⟩

theorem eq_goal_of_walk {last : List Text} (walked : files.walk place names = .ok last) :
    last = goal place names := by
  rcases List.eq_nil_or_concat' names with rfl | ⟨names, name, rfl⟩
  · exact (Except.ok.inj walked).symm
  · exact (walk_append_singleton_eq_ok walked).2.2

/-- A walk that fails, but not for want of a folder, passes folders only until it fails. -/
theorem not_isOpen_of_walk {cause : Cause} (failed : files.walk place names = .error cause)
    (other : cause ≠ .missing) : files.isOpen place names = false ∧
      ∀ passed ∈ files.opened place names, files.at? passed = some .folder := by
  induction names generalizing place with
  | nil => exact nomatch failed
  | cons name names inductionHypothesis =>
    rw [walk_cons] at failed
    split at failed
    · exact absurd (Except.error.inj failed).symm other
    · rename_i file
      have taken : files.isTaken place = true := by rw [isTaken, file]; rfl
      exact ⟨by rw [isOpen_cons, taken]; rfl, by simp [opened, taken]⟩
    · rename_i folder
      have free : files.isTaken place = false := isTaken_eq_false_iff.2 (.inr folder)
      split at failed
      · rename_i room
        obtain ⟨closed, folders⟩ := inductionHypothesis failed
        refine ⟨by rw [isOpen_cons, closed, Bool.and_false], ?_⟩
        rw [opened, free, room]
        exact List.forall_mem_cons.2 ⟨folder, folders⟩
      · rename_i room
        rw [Bool.not_eq_true] at room
        refine ⟨by rw [isOpen_cons, room, Bool.and_false, Bool.false_and], ?_⟩
        rw [opened, free, room]
        exact List.forall_mem_singleton.2 folder

/-- Where a walk ends, the way is open unless a file stands there. -/
theorem isOpen_of_walk {last : List Text} (walked : files.walk place names = .ok last) :
    files.isOpen place names = !files.isTaken last ∧
      ∃ passed, (∀ place ∈ passed, files.at? place = some .folder) ∧
        files.opened place names = passed ++ if files.isTaken last then [] else [last] := by
  induction names generalizing place with
  | nil =>
    obtain rfl := Except.ok.inj walked
    exact ⟨isOpen_nil, [], by simp, by rw [opened]; rfl⟩
  | cons name names inductionHypothesis =>
    obtain ⟨folder, room, walked⟩ := walk_cons_eq_ok_iff.1 walked
    have free : files.isTaken place = false := isTaken_eq_false_iff.2 (.inr folder)
    obtain ⟨ends, passed, folders, split⟩ := inductionHypothesis walked
    refine ⟨by rw [isOpen_cons, ends, free, room]; rfl, place :: passed,
      List.forall_mem_cons.2 ⟨folder, folders⟩, ?_⟩
    rw [opened, free, room, List.cons_append, ← split]
    rfl

/-- A walk goes the same way in a tree that has all folders of the first one. -/
theorem walk_of_folders {other : Files} {last : List Text}
    (folders : ∀ passed, files.at? passed = some .folder → other.at? passed = some .folder)
    (walked : files.walk place names = .ok last) : other.walk place names = .ok last := by
  induction names generalizing place with
  | nil => exact walked
  | cons name names inductionHypothesis =>
    obtain ⟨folder, room, walked⟩ := walk_cons_eq_ok_iff.1 walked
    exact walk_cons_eq_ok_iff.2 ⟨folders place folder, room, inductionHypothesis walked⟩

end Walking

/-! ### Further folders -/

/-- A tree with folders in some places where nothing was, and no other change. -/
structure Gains (before : Files) (places : List (List Text)) (after : Files) : Prop where
  frame : after.toFrame = before.toFrame
  at? : ∀ place, after.at? place =
    if place ∈ places then some ((before.at? place).getD .folder) else before.at? place

section Gains

variable {before after last : Files} {places others : List (List Text)}

theorem Gains.of_folders (folders : ∀ place ∈ places, before.at? place = some .folder) :
    Gains before places before where
  frame := rfl
  at? place := by
    split
    · rename_i member
      rw [folders place member]
      rfl
    · rfl

theorem Gains.put {place : List Text} (empty : before.at? place = none) :
    Gains before [place] (before.put place .folder) where
  frame := rfl
  at? other := by
    have inside : place ≠ [] := by
      rintro rfl
      exact nomatch empty
    rw [at?_put inside]
    by_cases same : other = place
    · rw [if_pos same, if_pos (List.mem_singleton.2 same), same, empty]
      rfl
    · rw [if_neg same, if_neg fun member => same (List.mem_singleton.1 member)]

theorem Gains.congr (gains : Gains before places after)
    (same : ∀ place, place ∈ others ↔ place ∈ places) : Gains before others after where
  frame := gains.frame
  at? place := by simp only [gains.at?, same]

theorem Gains.trans (first : Gains before places after) (second : Gains after others last) :
    Gains before (places ++ others) last where
  frame := second.frame.trans first.frame
  at? place := by
    rw [second.at?, first.at?]
    by_cases member : place ∈ places <;> by_cases later : place ∈ others <;>
      simp [member, later]

variable (gains : Gains before places after)
include gains

theorem Gains.isTaken_eq (place : List Text) : after.isTaken place = before.isTaken place := by
  rw [isTaken, isTaken, gains.at?]
  split
  · cases before.at? place <;> rfl
  · rfl

theorem Gains.at?_of_mem {place : List Text} (member : place ∈ places)
    (free : before.isTaken place = false) : after.at? place = some .folder := by
  rw [gains.at?, if_pos member]
  rcases isTaken_eq_false_iff.1 free with empty | folder
  · rw [empty]
    rfl
  · rw [folder]
    rfl

end Gains

theorem isOpen_congr {files other : Files} {place names : List Text}
    (same : ∀ passed ∈ trail place names, other.isTaken passed = files.isTaken passed) :
    other.isOpen place names = files.isOpen place names := by
  have free : (trail place names).all (fun passed => !other.isTaken passed) =
      (trail place names).all fun passed => !files.isTaken passed := by
    rw [Bool.eq_iff_iff, List.all_eq_true, List.all_eq_true]
    exact forall₂_congr fun passed member => by rw [same passed member]
  rw [isOpen, isOpen, free]

theorem opened_congr {files other : Files} {place names : List Text}
    (same : ∀ passed ∈ trail place names, other.isTaken passed = files.isTaken passed) :
    other.opened place names = files.opened place names := by
  induction names generalizing place with
  | nil => rw [opened, opened, same place (List.mem_singleton_self place)]
  | cons name names inductionHypothesis =>
    rw [trail, List.forall_mem_cons] at same
    rw [opened, opened, same.1, inductionHypothesis same.2]

end Files

end CampaignPress
