/-
This file says what a run comes to if its tasks are done in any order. The
report puts the outcomes together in the order of the notes. It is the same for
every order, but for the words for folders that cannot be made; and so is the
tree, as long as no two notes share a file. Notes whose slugs are equal do share
one, and the page that is written last is the one that stays.
-/
import CampaignPress.Proofs.Publication.Order

namespace CampaignPress

/-! ### Reports that are alike -/

/-- Failures of the same note, with the same message but where its folders cannot be made. -/
structure Failure.Like (isBlocked : Text → Prop) (left right : Failure) : Prop where
  path : left.path = right.path
  title : left.title = right.title
  message : left.message = right.message ∨ isBlocked left.path

/-- Reports that are the same, but for the words for folders that cannot be made. -/
structure Report.Like (isBlocked : Text → Prop) (left right : Report) : Prop where
  published : left.published = right.published
  failures : List.Forall₂ (Failure.Like isBlocked) left.failures right.failures
  written : left.written = right.written
  isDry : left.isDry = right.isDry

namespace Publication

/-! ### Runs -/

/-- The outcome of the task of a note. -/
def outcomeFor? (outcomes : List Outcome) (note : Note) : Option Outcome :=
  outcomes.find? fun outcome => (noteOf outcome).path = note.path

/-- Publishes the notes with their tasks done in another order. -/
def publishIn (order : List Note → List Note) (run : Publication) :
    ExceptT Error (StateM Files) Report := do
  match run.begin (← get) with
  | .error error => throw error
  | .ok (notes, site) =>
    let outcomes ← ((order notes).mapM (task run.config site) : StateM Files (List Outcome))
    return reportOf run.config (notes.filterMap (outcomeFor? outcomes))

/-- The run with a number of workers. -/
def withWorkers (run : Publication) (count : Nat) : Publication :=
  { run with config := { run.config with workers := .int count } }

section Runs

variable {run : Publication} {files : Files}

theorem run_publishIn_of_error (order : List Note → List Note) {error : Error}
    (ends : run.begin files = .error error) :
    (run.publishIn order).run.run files = (.error error, files) := by
  show (match run.begin files with
    | .error error => throw error
    | .ok (notes, site) => _ : ExceptT Error (StateM Files) Report).run.run files = _
  rw [ends]
  rfl

theorem run_publishIn (order : List Note → List Note) {notes : List Note} {site : Site}
    (begins : run.begin files = .ok (notes, site)) :
    (run.publishIn order).run.run files =
      (.ok (reportOf run.config (notes.filterMap (outcomeFor?
        (((order notes).mapM (task run.config site)).run files).1))),
        (((order notes).mapM (task run.config site)).run files).2) := by
  show (match run.begin files with
    | .error error => throw error
    | .ok (notes, site) => _ : ExceptT Error (StateM Files) Report).run.run files = _
  rw [begins]
  rfl

theorem run_publish_of_error {error : Error} (ends : run.begin files = .error error) :
    run.publish.run.run files = (.error error, files) := by
  show (match run.begin files with
    | .error error => throw error
    | .ok (notes, site) => _ : ExceptT Error (StateM Files) Report).run.run files = _
  rw [ends]
  rfl

theorem run_publish {notes : List Note} {site : Site}
    (begins : run.begin files = .ok (notes, site)) :
    run.publish.run.run files =
      (.ok (reportOf run.config ((notes.mapM (task run.config site)).run files).1),
        ((notes.mapM (task run.config site)).run files).2) := by
  show (match run.begin files with
    | .error error => throw error
    | .ok (notes, site) => _ : ExceptT Error (StateM Files) Report).run.run files = _
  rw [begins]
  rfl

/-- The notes of a run are found in the files that it begins with, in the order of their paths. -/
theorem found_of_begin {notes : List Note} {site : Site}
    (begins : run.begin files = .ok (notes, site)) :
    (∀ note ∈ notes, Vault.Found files note) ∧ notes.Pairwise fun a b => a.path < b.path := by
  rw [begin] at begins
  obtain ⟨found, discovered, rest⟩ := bind_eq_ok.1 begins
  obtain ⟨_, -, rest⟩ := bind_eq_ok.1 rest
  obtain ⟨_, -, rest⟩ := bind_eq_ok.1 rest
  obtain ⟨rfl, -⟩ := Prod.mk.inj (Except.ok.inj rest)
  cases notes' : run.vault.notes files with
  | error error =>
    rw [notes'] at discovered
    exact nomatch discovered
  | ok notes =>
    rw [notes'] at discovered
    obtain rfl := Except.ok.inj discovered
    exact Vault.found_of_notes notes'

end Runs

/-! ### Outcomes in order -/

section Gather

variable {config : Config} {site : Site} {first : Files} {order notes : List Note}
variable {outcomes : List Outcome}

theorem outcomeFor?_noteOf (separate : (outcomes.map noteOf).Pairwise fun a b => a.path ≠ b.path)
    {outcome : Outcome} (member : outcome ∈ outcomes) :
    outcomeFor? outcomes (noteOf outcome) = some outcome := by
  induction outcomes with
  | nil => exact absurd member List.not_mem_nil
  | cons first outcomes inductionHypothesis =>
    rw [List.map_cons, List.pairwise_cons] at separate
    rcases List.mem_cons.1 member with rfl | later
    · exact List.find?_cons_of_pos (decide_eq_true rfl)
    · have different := separate.1 (noteOf outcome) (List.mem_map_of_mem later)
      exact (List.find?_cons_of_neg (by simpa using different)).trans
        (inductionHypothesis separate.2 later)

/-- Outcomes that come in any order are put in that of the notes. -/
theorem AreOutcomes.gather (areOutcomes : AreOutcomes config site first order outcomes)
    (arranged : order.Perm notes) (separate : notes.Pairwise fun a b => a.path ≠ b.path) :
    AreOutcomes config site first notes (notes.filterMap (outcomeFor? outcomes)) := by
  have distinct : (outcomes.map noteOf).Pairwise fun a b => a.path ≠ b.path := by
    rw [areOutcomes.notes]
    exact (arranged.pairwise_iff fun different => Ne.symm different).2 separate
  constructor
  · rw [List.map_filterMap]
    refine (List.filterMap_congr fun note member => ?_).trans (List.filterMap_some)
    rw [← arranged.mem_iff, ← areOutcomes.notes] at member
    obtain ⟨outcome, inOutcomes, rfl⟩ := List.mem_map.1 member
    rw [outcomeFor?_noteOf distinct inOutcomes]
    rfl
  · intro outcome member
    obtain ⟨note, -, found⟩ := List.mem_filterMap.1 member
    exact areOutcomes.like outcome (List.mem_of_find?_eq_some found)

/-- Outcomes that come in the order of the notes stay as they are. -/
theorem AreOutcomes.gather_self (areOutcomes : AreOutcomes config site first notes outcomes)
    (separate : notes.Pairwise fun a b => a.path ≠ b.path) :
    notes.filterMap (outcomeFor? outcomes) = outcomes := by
  rw [← areOutcomes.notes] at separate ⊢
  rw [List.filterMap_map]
  exact (List.filterMap_congr fun outcome member => outcomeFor?_noteOf separate member).trans
    List.filterMap_some

end Gather

/-- Tasks that are done in the order of the notes make the run as it is. -/
theorem publishIn_id (run : Publication) (files : Files) :
    (run.publishIn id).run.run files = run.publish.run.run files := by
  cases begins : run.begin files with
  | error error => rw [run_publishIn_of_error id begins, run_publish_of_error begins]
  | ok start =>
    obtain ⟨notes, site⟩ := start
    obtain ⟨found, sorted⟩ := found_of_begin begins
    obtain ⟨-, -, areOutcomes⟩ := run_tasks site found (.refl (wayTo run.config files) files)
    rw [run_publishIn id begins, run_publish begins,
      show id notes = notes from rfl, areOutcomes.gather_self (sorted.imp fun less => ne_of_lt less)]

/-! ### Reports -/

/-- Whether the folders of the page of the note at a path cannot be made. -/
def IsBlockedAt (config : Config) (files : Files) (notes : List Note) (path : Text) : Prop :=
  ∃ note ∈ notes, note.path = path ∧ IsBlocked config files note

section Reports

variable {config : Config} {site : Site} {first : Files} {notes : List Note}
variable {outcomes others : List Outcome}

theorem AreOutcomes.filterMap_doneNote? (areOutcomes : AreOutcomes config site first notes outcomes) :
    outcomes.filterMap doneNote? = notes.filter (isDone config site first) := by
  obtain ⟨rfl, like⟩ := areOutcomes
  induction outcomes with
  | nil => rfl
  | cons outcome outcomes inductionHypothesis =>
    rw [List.forall_mem_cons] at like
    have done := like.1.doneNote?_eq
    rw [List.map_cons, List.filterMap_cons, List.filter_cons, inductionHypothesis like.2, isDone, done]
    rcases outcomeOf_eq config site first (noteOf outcome) with same | ⟨message, same⟩ <;>
      rw [same] <;> rfl

theorem AreOutcomes.map_failures (areOutcomes : AreOutcomes config site first notes outcomes) :
    (outcomes.filterMap failure?).map (fun failure => (failure.path, failure.title)) =
      (notes.filter fun note => !isDone config site first note).map fun note =>
        (note.path, note.title) := by
  obtain ⟨rfl, like⟩ := areOutcomes
  induction outcomes with
  | nil => rfl
  | cons outcome outcomes inductionHypothesis =>
    rw [List.forall_mem_cons] at like
    have done := like.1.doneNote?_eq
    rw [List.map_cons, List.filterMap_cons, List.filter_cons, isDone, ← done]
    cases outcome with
    | done note => exact inductionHypothesis like.2
    | failed note message => exact congrArg _ (inductionHypothesis like.2)

theorem AreOutcomes.forall₂_like (left : AreOutcomes config site first notes outcomes)
    (right : AreOutcomes config site first notes others) :
    List.Forall₂ (Outcome.Like (IsBlocked config first)) outcomes others := by
  obtain ⟨rfl, like⟩ := left
  obtain ⟨same, otherLike⟩ := right
  induction outcomes generalizing others with
  | nil =>
    rw [List.map_nil, List.map_eq_nil_iff] at same
    rw [same]
    exact .nil
  | cons outcome outcomes inductionHypothesis =>
    obtain ⟨other, others, rfl, here, later⟩ := List.map_eq_cons_iff.1 same
    rw [List.forall_mem_cons] at like otherLike
    refine .cons (like.1.join ?_) (inductionHypothesis like.2 later otherLike.2)
    rw [← here]
    exact otherLike.1

theorem forall₂_failures (inNotes : ∀ outcome ∈ outcomes, noteOf outcome ∈ notes)
    (like : List.Forall₂ (Outcome.Like (IsBlocked config first)) outcomes others) :
    List.Forall₂ (Failure.Like (IsBlockedAt config first notes)) (outcomes.filterMap failure?)
      (others.filterMap failure?) := by
  induction like with
  | nil => exact .nil
  | @cons outcome other outcomes others here later inductionHypothesis =>
    rw [List.forall_mem_cons] at inNotes
    have rest := inductionHypothesis inNotes.2
    cases here with
    | same outcome =>
      cases outcome with
      | done note => exact rest
      | failed note message => exact .cons ⟨rfl, rfl, .inl rfl⟩ rest
    | refused note blocked message other =>
      exact .cons ⟨rfl, rfl, .inr ⟨note, inNotes.1, rfl, blocked⟩⟩ rest

/-- Outcomes of the same tasks make the same report. -/
theorem AreOutcomes.reportOf_like (left : AreOutcomes config site first notes outcomes)
    (right : AreOutcomes config site first notes others) :
    (reportOf config outcomes).Like (IsBlockedAt config first notes) (reportOf config others) := by
  have done := left.filterMap_doneNote?.trans right.filterMap_doneNote?.symm
  refine ⟨congrArg (List.map Note.title) done, ?_, ?_, rfl⟩
  · have blocked : ∀ outcome ∈ outcomes, noteOf outcome ∈ notes := fun outcome member =>
      left.notes ▸ List.mem_map_of_mem member
    exact forall₂_failures blocked (left.forall₂_like right)
  · rw [reportOf, reportOf, done]

/-- The tasks that are each done alone in the first tree. -/
theorem areOutcomes_alone (config : Config) (site : Site) (first : Files) (notes : List Note) :
    AreOutcomes config site first notes (notes.map (outcomeOf config site first)) := by
  constructor
  · rw [List.map_map]
    exact (List.map_congr_left fun note _ => noteOf_outcomeOf config site first note).trans
      (List.map_id notes)
  · intro outcome member
    obtain ⟨note, -, rfl⟩ := List.mem_map.1 member
    rw [noteOf_outcomeOf]
    exact .same _

end Reports

/-! ### Any order -/

section AnyOrder

variable {run : Publication} {files : Files}

theorem run_publishIn_withWorkers (sequential : run.config.workers = .int 1) (count : Nat)
    (order : List Note → List Note) :
    ((run.withWorkers count).publishIn order).run.run files = (run.publishIn order).run.run files := by
  have same : (run.withWorkers count).begin files = run.begin files := by
    rw [begin, begin, sequential]
    rfl
  cases begins : run.begin files with
  | error error =>
    rw [begins] at same
    rw [run_publishIn_of_error order same, run_publishIn_of_error order begins]
  | ok start =>
    obtain ⟨notes, site⟩ := start
    rw [begins] at same
    rw [run_publishIn order same, run_publishIn order begins]
    rfl

/-- What a run on some notes comes to: all of them are reported, each as its task would end alone
in the first tree, and the pages that are made are in their files. -/
structure Settled (config : Config) (site : Site) (first : Files) (notes : List Note)
    (report : Report) (last : Files) : Prop where
  sorted : notes.Pairwise fun a b => a.path < b.path
  published : report.published = (notes.filter (isDone config site first)).map Note.title
  failures : (report.failures.map fun failure => (failure.path, failure.title)) =
    (notes.filter fun note => !isDone config site first note).map fun note => (note.path, note.title)
  alone : report.Like (IsBlockedAt config first notes)
    (reportOf config (notes.map (outcomeOf config site first)))
  pages : isDry config = false → ∀ note ∈ notes, isDone config site first note →
    ∃ path page, fileOf config note = .ok path ∧ pageOf site first note = .ok page ∧
      last.read path = .ok (Text.utf8 page.html)
  dry : isDry config → last = first

/-- The page of a note that shares its file with no other one is in its file after the run. -/
theorem exists_read_page {config : Config} {site : Site} {order notes : List Note}
    (arranged : order.Perm notes) (found : ∀ note ∈ notes, Vault.Found files note)
    (separate : notes.Pairwise fun a b => a.path ≠ b.path)
    (apart : notes.Pairwise (AreApart config)) (wet : isDry config = false) {note : Note}
    (member : note ∈ notes) (done : isDone config site files note) :
    ∃ path page, fileOf config note = .ok path ∧ pageOf site files note = .ok page ∧
      ((order.mapM (task config site)).run files).2.read path = .ok (Text.utf8 page.html) := by
  obtain ⟨_, -, dry | ⟨path, isFile, -⟩⟩ := isDone_iff.1 done
  · exact absurd dry (Bool.eq_false_iff.1 wet)
  obtain ⟨before, later, rfl⟩ := List.append_of_mem (arranged.mem_iff.2 member)
  have others : (note :: later).Pairwise fun a b => a.path ≠ b.path :=
    ((arranged.pairwise_iff fun different => Ne.symm different).2 separate).sublist
      (List.sublist_append_right before _)
  obtain ⟨page, made, read⟩ := read_last_page
    (fun other inOrder => found other (arranged.mem_iff.1 inOrder)) wet done isFile
    fun other inLater _ => by
      have inOrder := List.mem_append_right before (List.mem_cons_of_mem note inLater)
      refine apart.forall member (arranged.mem_iff.1 inOrder) ?_ path isFile
      rintro rfl
      exact (List.pairwise_cons.1 others).1 note inLater rfl
  exact ⟨path, page, isFile, made, read⟩

theorem settled_publishIn {order : List Note → List Note} {notes : List Note} {site : Site}
    (begins : run.begin files = .ok (notes, site)) (arranged : (order notes).Perm notes)
    (apart : notes.Pairwise (AreApart run.config)) :
    ∃ outcomes last, (run.publishIn order).run.run files = (.ok (reportOf run.config outcomes), last) ∧
      AreOutcomes run.config site files notes outcomes ∧
      Settled run.config site files notes (reportOf run.config outcomes) last ∧
      last.toFrame = files.toFrame ∧
      last.at? = (notes.map (markOf run.config site files)).foldl Mark.leave files.at? := by
  obtain ⟨found, sorted⟩ := found_of_begin begins
  have separate := sorted.imp fun less => ne_of_lt less
  obtain ⟨frame, leaves, inOrder⟩ := run_tasks site
    (fun note member => found note (arranged.mem_iff.1 member)) (.refl (wayTo run.config files) files)
  have areOutcomes := inOrder.gather arranged separate
  refine ⟨_, _, run_publishIn order begins, areOutcomes, ?_, frame, ?_⟩
  · constructor
    · exact sorted
    · exact congrArg (List.map Note.title) areOutcomes.filterMap_doneNote?
    · exact areOutcomes.map_failures
    · exact areOutcomes.reportOf_like (areOutcomes_alone run.config site files notes)
    · exact fun wet note member done => exists_read_page arranged found separate apart wet member done
    · exact fun dry => run_tasks_of_isDry dry (order notes) files
  · rw [leaves, foldl_leave_perm arranged found apart]

end AnyOrder

/-! ### Small runs -/

/-- A run on the notes in a folder, with the names that lead to the folder of the pages. -/
def small (output : List Text) : Publication where
  config := { vault := .path ⟨['/'], [['v']]⟩, output := .path ⟨['/'], output⟩ }
  vault := { folder := ⟨['/'], [['v']]⟩, sources := [⟨['/'], [['v']]⟩], excluded := [] }

/-- Files with two notes, and with others that are no notes. -/
def smallFiles (first second : Char) (others : List (List Text × Entry)) : Files where
  entries := [([['v']], .folder), ([['v'], first :: Vault.noteEnding], .file (Text.utf8 ['x'])),
    ([['v'], second :: Vault.noteEnding], .file (Text.utf8 ['y']))] ++ others

def smallNote (letter : Char) : Note where
  path := letter :: Vault.noteEnding
  slug := Slug.ofPath (letter :: Vault.noteEnding)
  title := [letter]
  frontmatter := []
  source := some ⟨['/'], [['v'], letter :: Vault.noteEnding]⟩

def smallSite (first second : Char) : Site :=
  .ofNotes [smallNote first, smallNote second] [] "/attachments" .standard

theorem begin_small {output : List Text} {files : Files} {first second : Char}
    (found : (small output).vault.notes files = .ok [smallNote first, smallNote second]) :
    (small output).begin files =
      .ok ([smallNote first, smallNote second], smallSite first second) := by
  rw [begin, found]
  rfl

/-! ### Any order of notes with files of their own -/

/-- The number of workers and the order of the tasks make no difference to the files that a run
leaves, or to its report but for the words for folders that cannot be made. -/
theorem publishIn_like_publish (run : Publication) (files : Files)
    (sequential : run.config.workers = .int 1) (count : Nat) (order : List Note → List Note)
    (arranged : ∀ notes, (order notes).Perm notes)
    (apart : ∀ notes site, run.begin files = .ok (notes, site) →
      notes.Pairwise (AreApart run.config)) :
    match run.begin files with
    | .error error =>
      ((run.withWorkers count).publishIn order).run.run files = (.error error, files) ∧
        run.publish.run.run files = (.error error, files)
    | .ok (notes, site) => ∃ report last standard final,
      ((run.withWorkers count).publishIn order).run.run files = (.ok report, last) ∧
        run.publish.run.run files = (.ok standard, final) ∧
        last.toFrame = final.toFrame ∧ last.at? = final.at? ∧
        report.Like (IsBlockedAt run.config files notes) standard ∧
        Settled run.config site files notes report last ∧
        Settled run.config site files notes standard final := by
  rw [run_publishIn_withWorkers sequential]
  cases begins : run.begin files with
  | error error => exact ⟨run_publishIn_of_error order begins, run_publish_of_error begins⟩
  | ok start =>
    obtain ⟨notes, site⟩ := start
    have own := apart notes site begins
    obtain ⟨outcomes, last, ends, areOutcomes, settled, frame, leaves⟩ :=
      settled_publishIn begins (arranged notes) own
    obtain ⟨others, final, ends', areOthers, settled', frame', leaves'⟩ :=
      settled_publishIn begins (.refl (id notes)) own
    rw [publishIn_id] at ends'
    exact ⟨_, last, _, final, ends, ends', frame.trans frame'.symm, leaves.trans leaves'.symm,
      areOutcomes.reportOf_like areOthers, settled, settled'⟩

/-- Two notes, and a folder in the place of the second one's page. -/
def takenFiles : Files :=
  smallFiles 'a' 'b' [([['s']], .folder), ([['s'], "b.html".toList], .folder)]

theorem begin_taken : (small [['s']]).begin takenFiles =
    .ok ([smallNote 'a', smallNote 'b'], smallSite 'a' 'b') := begin_small (by cbv)

set_option maxRecDepth 20000 in
/-- Four workers publish the first note in any order; the second one fails. -/
theorem publishIn_like_publish_taken : ∃ report last,
    (((small [['s']]).withWorkers 4).publishIn List.reverse).run.run takenFiles =
      (.ok report, last) ∧
    report.published = [['a']] ∧ report.failures.map Failure.path = [['b', '.', 'm', 'd']] := by
  have alike := publishIn_like_publish (small [['s']]) takenFiles rfl 4 List.reverse
    List.reverse_perm fun notes site begins => by
      rw [begin_taken] at begins
      obtain ⟨rfl, -⟩ := Prod.mk.inj (Except.ok.inj begins)
      exact List.pairwise_pair.2 (areApart_of_ne (by decide +kernel))
  rw [begin_taken] at alike
  obtain ⟨report, last, _, _, ends, -, -, -, -, settled, -⟩ := alike
  refine ⟨report, last, ends, settled.published.trans (by decide +kernel), ?_⟩
  have failures := congrArg (List.map Prod.fst) settled.failures
  rw [List.map_map, List.map_map] at failures
  exact failures.trans (by decide +kernel)

/-- Two notes, and a file on the way to the folder of the pages. -/
def barredFiles : Files := smallFiles 'a' 'b' [([['f']], .file [])]

def barredOutput : List Text := [['s'], ['.', '.'], ['f'], ['q']]

theorem begin_barred : (small barredOutput).begin barredFiles =
    .ok ([smallNote 'a', smallNote 'b'], smallSite 'a' 'b') := begin_small (by cbv)

set_option maxRecDepth 20000 in
/-- Where the folder of the pages cannot be made, the first task to fail says so in other words
than the next one: the report depends on the order of the tasks. -/
theorem exists_report_of_order : ∃ run files notes site report last other final,
    begin run files = .ok (notes, site) ∧ notes.Pairwise (AreApart run.config) ∧
    (run.publishIn List.reverse).run.run files = (.ok report, last) ∧
    run.publish.run.run files = (.ok other, final) ∧ report.failures ≠ other.failures :=
  ⟨small barredOutput, barredFiles, _, _, _, _, _, _, begin_barred,
    List.pairwise_pair.2 (areApart_of_ne (by decide +kernel)),
    run_publishIn List.reverse begin_barred, run_publish begin_barred, by decide +kernel⟩

/-! ### Any order of notes that may share files -/

/-- A list falls apart at the last element of a kind. -/
theorem exists_last_split {Element : Type} (isMeant : Element → Prop) {elements : List Element}
    {element : Element} (member : element ∈ elements) (meant : isMeant element) :
    ∃ before last later, elements = before ++ last :: later ∧ isMeant last ∧
      ∀ other ∈ later, ¬ isMeant other := by
  induction elements generalizing element with
  | nil => exact absurd member List.not_mem_nil
  | cons first elements inductionHypothesis =>
    by_cases more : ∃ other ∈ elements, isMeant other
    · obtain ⟨other, inElements, meant⟩ := more
      obtain ⟨before, last, later, rfl, isLast, others⟩ := inductionHypothesis inElements meant
      exact ⟨first :: before, last, later, rfl, isLast, others⟩
    · rw [not_exists] at more
      rcases List.mem_cons.1 member with rfl | inElements
      · exact ⟨[], element, elements, rfl, meant, fun other inLater isOther =>
          more other ⟨inLater, isOther⟩⟩
      · exact absurd ⟨inElements, meant⟩ (more element)

/-- Notes share a file exactly if they share a slug; and in the file of a page is, after a run in
which no operation on files fails, the page of the note with that file whose task was done last. -/
theorem publishIn_keeps_last_page (run : Publication) (files : Files)
    (order : List Note → List Note) {notes : List Note} {site : Site}
    (begins : run.begin files = .ok (notes, site)) (arranged : (order notes).Perm notes)
    (wet : isDry run.config = false) (serve : filesServe run.config site (order notes) files) :
    ∃ report last, (run.publishIn order).run.run files = (.ok report, last) ∧
      report.published = (notes.filter (isDone run.config site files)).map Note.title ∧
      (∀ a ∈ notes, ∀ b ∈ notes, isDone run.config site files a →
        (fileOf run.config b = fileOf run.config a ↔ pageName a = pageName b)) ∧
      ∀ note ∈ notes, isDone run.config site files note →
        ∃ path before writer later page, fileOf run.config note = .ok path ∧
          order notes = before ++ writer :: later ∧
          isDone run.config site files writer ∧ fileOf run.config writer = .ok path ∧
          (∀ other ∈ later, isDone run.config site files other →
            fileOf run.config other ≠ .ok path) ∧
          pageOf site files writer = .ok page ∧ last.read path = .ok (Text.utf8 page.html) := by
  obtain ⟨found, sorted⟩ := found_of_begin begins
  have foundIn : ∀ note ∈ order notes, Vault.Found files note := fun note member =>
    found note (arranged.mem_iff.1 member)
  have opened := isDone_of_isOpened foundIn (.refl (wayTo run.config files) files) serve
  have file : ∀ note, isDone run.config site files note → ∃ path, fileOf run.config note = .ok path :=
    fun note done => by
      obtain ⟨_, -, dry | ⟨path, isFile, -⟩⟩ := isDone_iff.1 done
      · exact absurd dry (Bool.eq_false_iff.1 wet)
      · exact ⟨path, isFile⟩
  obtain ⟨-, -, inOrder⟩ := run_tasks site foundIn (.refl (wayTo run.config files) files)
  have areOutcomes := inOrder.gather arranged (sorted.imp fun less => ne_of_lt less)
  refine ⟨_, _, run_publishIn order begins,
    congrArg (List.map Note.title) areOutcomes.filterMap_doneNote?, ?_, ?_⟩
  · intro a inNotes b inNotes' done
    obtain ⟨path, isFile⟩ := file a done
    rw [isFile]
    exact fileOf_eq_iff (found a inNotes).slug (found b inNotes').slug isFile
  · intro note inNotes done
    obtain ⟨path, isFile⟩ := file note done
    obtain ⟨before, writer, later, split, ⟨isWritten, isHere⟩, others⟩ := exists_last_split
      (fun other => isDone run.config site files other ∧ fileOf run.config other = .ok path)
      (arranged.mem_iff.2 inNotes) ⟨done, isFile⟩
    have unlike : ∀ other ∈ later, isDone run.config site files other →
        fileOf run.config other ≠ .ok path := fun other inLater isOther same =>
      others other inLater ⟨isOther, same⟩
    rw [split] at foundIn opened ⊢
    obtain ⟨page, made, read⟩ := read_last_page foundIn wet isWritten isHere
      fun other inLater isOpened => unlike other inLater
        (opened other (List.mem_append_right before (List.mem_cons_of_mem writer inLater)) isOpened)
    exact ⟨path, before, writer, later, page, isFile, rfl, isWritten, isHere, unlike, made, read⟩

/-- Two notes whose paths differ in case only. -/
def namesakeFiles : Files := smallFiles 'A' 'a' []

theorem begin_namesakes : (small [['s']]).begin namesakeFiles =
    .ok ([smallNote 'A', smallNote 'a'], smallSite 'A' 'a') := begin_small (by cbv)

set_option maxRecDepth 20000 in
/-- Both of them are published, done backwards, and the page of the first one is left. -/
theorem publishIn_keeps_last_page_namesakes : ∃ report last,
    ((small [['s']]).publishIn List.reverse).run.run namesakeFiles = (.ok report, last) ∧
    report.published = [['A'], ['a']] ∧
    fileOf (small [['s']]).config (smallNote 'a') =
      fileOf (small [['s']]).config (smallNote 'A') := by
  obtain ⟨report, last, ends, published, shares, -⟩ := publishIn_keeps_last_page (small [['s']])
    namesakeFiles List.reverse begin_namesakes (List.reverse_perm _) (by decide +kernel)
    (by decide +kernel)
  refine ⟨report, last, ends, published.trans (by decide +kernel), ?_⟩
  exact (shares (smallNote 'A') (by simp) (smallNote 'a') (by simp) (by decide +kernel)).2
    (by decide +kernel)

set_option maxRecDepth 20000 in
/-- A run without failures may leave a published page without a file: the two notes have one file,
and what is in it is not the page of the first one. -/
theorem exists_page_overwritten : ∃ run files notes site report last note path,
    begin run files = .ok (notes, site) ∧ isDry run.config = false ∧
    run.publish.run.run files = (.ok report, last) ∧ report.failures = [] ∧
    report.published = notes.map Note.title ∧ note ∈ notes ∧
    fileOf run.config note = .ok path ∧ ¬ notes.Pairwise (AreApart run.config) ∧
    ∃ html, (pageOf site files note).toOption.map Page.html = some html ∧
      last.read path ≠ .ok (Text.utf8 html) := by
  have shared : ¬ AreApart (small [['s']]).config (smallNote 'A') (smallNote 'a') := fun apart =>
    apart ⟨['/'], [['s'], "a.html".toList]⟩ (by decide +kernel) (by decide +kernel)
  refine ⟨small [['s']], namesakeFiles, _, _, _, _, smallNote 'A', ⟨['/'], [['s'], "a.html".toList]⟩,
    begin_namesakes, by decide +kernel, run_publish begin_namesakes, by decide +kernel,
    by decide +kernel, by simp, by decide +kernel, fun apart => shared (List.pairwise_pair.1 apart),
    "<p>x</p>\n", by decide +kernel, by decide +kernel⟩

end Publication

end CampaignPress
