/-
This file says which configurations are refused, and which of them with a word
on what is wrong with them. A mapping is refused exactly if a key is unknown, a
folder is not named by a text, or the number of workers is no positive integer.
Three times the refusal fails itself: keys that are no texts cannot be listed, a
value other than a text is tried as a path, and a number of workers with more
digits than the limit cannot be shown. Everywhere else it is reported as such.
-/
import CampaignPress.Config.Reader
import CampaignPress.Proofs.Value.Text

namespace CampaignPress

namespace Config

/-! ### What is wrong with a mapping -/

def IsKnownKey (key : Value) : Prop := ∃ name ∈ keys, key = .text name

/-- A whole number from one on; true is the number one. -/
def IsPositiveInteger (value : Value) : Prop :=
  ∃ number : Int, value.quantity? = some (.whole number) ∧ 1 ≤ number

/-- A text stands under the key, and is not empty. -/
def Names (entries : List (Value × Value)) (key content : Text) : Prop :=
  Frontmatter.field? key entries = some (.text content) ∧ content ≠ []

/-- A key is unknown, a folder is not named, or the number of workers is no positive integer. -/
inductive IsWrong (entries : List (Value × Value)) : Prop
  | key {entry : Value × Value} (member : entry ∈ entries) (unknown : ¬ IsKnownKey entry.1) :
    IsWrong entries
  | folder {key : Text} (isFolder : key ∈ [vaultKey, outputKey])
    (unnamed : ∀ content, ¬ Names entries key content) : IsWrong entries
  | workers {value : Value} (given : Frontmatter.field? workersKey entries = some value)
    (bad : ¬ IsPositiveInteger value) : IsWrong entries

/-- The folder that a text names: an absolute path stands for itself, another one is joined to the
folder of the configuration. -/
def IsFolder (base : Path) (content : Text) (folder : Folder) : Prop :=
  let path := Path.ofText content
  (path.isAbsolute ∧ folder = .path path) ∨
    (¬ path.isAbsolute ∧ folder = .path { base with names := base.names ++ path.names })

/-- A mapping gives a configuration that can be used, or is refused as a bad configuration; and it is
refused exactly if something is wrong with it. -/
structure IsReported (base : Path) (entries : List (Value × Value)) : Prop where
  returned : ∀ config, ofMapping base entries = .ok config → IsPositiveInteger config.workers ∧
    (∃ content, Names entries vaultKey content ∧ IsFolder base content config.vault) ∧
    ∃ content, Names entries outputKey content ∧ IsFolder base content config.output
  refused : ∀ error, ofMapping base entries = .error error → error.isBadConfig
  refused_iff : (∃ error, ofMapping base entries = .error error ∧ error.isBadConfig) ↔ IsWrong entries

/-! ### Keys -/

section Mapping

variable {base : Path} {entries : List (Value × Value)} {key : Text} {value : Value}

theorem isSameKey_text_iff {value : Value} {name : Text} :
    value.isSameKey (.text name) ↔ value = .text name := by
  cases value <;> simp [Value.isSameKey, Value.quantity?]

theorem field?_eq_none_iff : Frontmatter.field? key entries = none ↔
    ∀ entry ∈ entries, entry.1 ≠ .text key := by
  simp [Frontmatter.field?, isSameKey_text_iff]

/-- In a mapping without two equal keys the value of an entry is found under its key. -/
theorem field?_of_mem (distinct : (entries.map (·.1)).Nodup) (member : (.text key, value) ∈ entries) :
    Frontmatter.field? key entries = some value := by
  cases found : Frontmatter.field? key entries with
  | none => exact absurd rfl (field?_eq_none_iff.1 found _ member)
  | some other =>
    obtain ⟨entry, first, rfl⟩ := Option.map_eq_some_iff.1 found
    have same : entry.1 = .text key := by
      simpa only [isSameKey_text_iff] using List.find?_some first
    obtain rfl := List.inj_on_of_nodup_map distinct (List.mem_of_find?_eq_some first) member same
    rfl

theorem isKnown_iff {key : Value} : isKnown key ↔ IsKnownKey key := by
  cases key <;> simp [isKnown, IsKnownKey, textKey?]

/-- The keys that are unknown, in the order of the mapping. -/
def strangeKeys (entries : List (Value × Value)) : List Value :=
  (entries.map (·.1)).filter fun key => !isKnown key

theorem mem_strangeKeys_iff {key : Value} :
    key ∈ strangeKeys entries ↔ (∃ entry ∈ entries, entry.1 = key) ∧ ¬ IsKnownKey key := by
  rw [strangeKeys, List.mem_filter, List.mem_map, Bool.not_eq_true', Bool.eq_false_iff, Ne,
    isKnown_iff]

theorem strangeKeys_eq_nil_iff :
    strangeKeys entries = [] ↔ ∀ entry ∈ entries, IsKnownKey entry.1 := by
  simp [strangeKeys, isKnown_iff]

theorem mapM_textKey?_eq_none_iff {keys : List Value} :
    keys.mapM textKey? = none ↔ ∃ key ∈ keys, ∀ content, key ≠ .text content := by
  have odd (key : Value) : textKey? key = none ↔ ∀ content, key ≠ .text content := by
    cases key <;> simp [textKey?]
  induction keys with
  | nil => simp
  | cons key keys inductionHypothesis =>
    rw [List.mapM_cons, List.exists_mem_cons_iff, ← odd]
    cases textKey? key with
    | none => simp
    | some content =>
      refine Iff.trans ?_ (inductionHypothesis.trans (by simp))
      cases keys.mapM textKey? <;> simp

/-- Unknown keys are reported if all of them are texts. -/
theorem isBadConfig_unknown_iff {keys : List Value} (some' : keys ≠ []) :
    (unknown keys).isBadConfig ↔ ∀ key ∈ keys, ∃ content, key = .text content := by
  cases texts : keys.mapM textKey? with
  | none =>
    have odd := mapM_textKey?_eq_none_iff.1 texts
    have unreported : (unknown keys).isBadConfig = false := by
      rw [unknown.eq_def, texts]
      rcases keys with _ | ⟨first, _ | ⟨second, others⟩⟩
      · exact absurd rfl some'
      · rfl
      · dsimp only
        split <;> rfl
    rw [unreported]
    refine iff_of_false Bool.false_ne_true fun all => ?_
    obtain ⟨key, member, other⟩ := odd
    obtain ⟨content, same⟩ := all key member
    exact other content same
  | some texts' =>
    have reported : (unknown keys).isBadConfig = true := by
      rw [unknown.eq_def, texts]
      rfl
    rw [reported]
    refine iff_of_true rfl fun key member => ?_
    by_contra! other
    exact nomatch (mapM_textKey?_eq_none_iff.2 ⟨key, member, other⟩).symm.trans texts

/-! ### Folders -/

/-- A value stands under the key, and counts as something. -/
def IsGiven (entries : List (Value × Value)) (key : Text) (value : Value) : Prop :=
  Frontmatter.field? key entries = some value ∧ value.isSomething

theorem isGiven_text_iff {content : Text} :
    IsGiven entries key (.text content) ↔ Names entries key content := by
  simp [IsGiven, Names, Value.isSomething]

theorem required_of_isGiven (given : IsGiven entries key value) :
    required entries key = .ok value := by
  rw [required, given.1]
  exact if_pos given.2

theorem required_of_not_isGiven (missing : ∀ value, ¬ IsGiven entries key value) :
    required entries key = .error (.missingKey key) := by
  rw [required]
  split
  · rename_i value found
    exact if_neg fun something => missing value ⟨found, something⟩
  · rfl

/-- The folder of a text, as the reader builds it. -/
def folderOf (base : Path) (content : Text) : Folder := .path (base.append (Path.ofText content))

theorem isFolder_folderOf (base : Path) (content : Text) :
    IsFolder base content (folderOf base content) := by
  by_cases absolute : (Path.ofText content).isAbsolute
  · exact .inl ⟨absolute, congrArg Folder.path (if_pos absolute)⟩
  · exact .inr ⟨absolute, congrArg Folder.path (if_neg absolute)⟩

theorem exists_folderAt_eq_error (base : Path) (odd : ∀ content, value ≠ .text content) :
    ∃ error, folderAt base value = .error (.setting error) := by
  cases value with
  | text content => exact absurd rfl (odd content)
  | bytes content => exact ⟨_, rfl⟩
  | _ => exact ⟨_, rfl⟩

/-! ### Workers -/

theorem isPositive_iff {value : Value} : isPositive value ↔ IsPositiveInteger value := by
  cases value with
  | bool flag => cases flag <;> simp [isPositive, IsPositiveInteger, Value.quantity?]
  | int number => simp [isPositive, IsPositiveInteger, Value.quantity?]
  | _ => simp [isPositive, IsPositiveInteger, Value.quantity?]

theorem checkWorkers_of_positive (positive : IsPositiveInteger value) :
    checkWorkers value = .ok () := if_pos (isPositive_iff.2 positive)

theorem checkWorkers_of_not (bad : ¬ IsPositiveInteger value) : ∃ error,
    checkWorkers value = .error error ∧ (error.isBadConfig ↔ Succeeds value.quoted) := by
  rw [checkWorkers, if_neg (mt isPositive_iff.1 bad)]
  cases value.quoted with
  | ok quoted => exact ⟨_, rfl, iff_of_true rfl (.ok quoted)⟩
  | error fault => exact ⟨_, rfl, iff_of_false Bool.false_ne_true nofun⟩

/-! ### Other settings -/

theorem workersKey_ne : workersKey ≠ vaultKey ∧ workersKey ≠ outputKey := by decide

/-- The folders are left as they are. -/
theorem folders_takeOther (config : Config) (entry : Value × Value) :
    (takeOther config entry).vault = config.vault ∧
      (takeOther config entry).output = config.output := by
  rw [takeOther]
  split
  · split_ifs with folder
    · exact ⟨rfl, rfl⟩
    · rw [Bool.or_eq_true, decide_eq_true_eq, decide_eq_true_eq, not_or] at folder
      rw [put, if_neg folder.1, if_neg folder.2]
      split_ifs <;> exact ⟨rfl, rfl⟩
  · exact ⟨rfl, rfl⟩

theorem folders_foldl (config : Config) (entries : List (Value × Value)) :
    (entries.foldl takeOther config).vault = config.vault ∧
      (entries.foldl takeOther config).output = config.output := by
  induction entries generalizing config with
  | nil => exact ⟨rfl, rfl⟩
  | cons entry entries inductionHypothesis =>
    obtain ⟨vault, output⟩ := inductionHypothesis (takeOther config entry)
    obtain ⟨vault', output'⟩ := folders_takeOther config entry
    exact ⟨vault.trans vault', output.trans output'⟩

theorem workers_takeOther_self (config : Config) (value : Value) :
    (takeOther config (.text workersKey, value)).workers = value := by
  obtain ⟨vault, output⟩ := workersKey_ne
  show (if workersKey = vaultKey || workersKey = outputKey then config
    else config.put workersKey value).workers = value
  rw [if_neg (by simp [vault, output]), put, if_neg vault, if_neg output, if_pos rfl]

theorem workers_takeOther {config : Config} {entry : Value × Value}
    (other : entry.1 ≠ .text workersKey) : (takeOther config entry).workers = config.workers := by
  rw [takeOther]
  split
  · rename_i key same
    have unlike : key ≠ workersKey := by
      rintro rfl
      cases found : entry.1 with
      | text content =>
        rw [found] at same other
        exact other (congrArg Value.text (Option.some.inj same))
      | _ => rw [found] at same; exact nomatch same
    split_ifs
    · rfl
    · rw [put]
      split_ifs <;> rfl
  · rfl

theorem workers_foldl {config : Config} {entries : List (Value × Value)}
    (others : ∀ entry ∈ entries, entry.1 ≠ .text workersKey) :
    (entries.foldl takeOther config).workers = config.workers := by
  induction entries generalizing config with
  | nil => rfl
  | cons entry entries inductionHypothesis =>
    rw [List.forall_mem_cons] at others
    rw [List.foldl_cons, inductionHypothesis others.2, workers_takeOther others.1]

/-- A mapping without two equal keys settles the number of workers by the value under its key. -/
theorem workers_foldl_eq (distinct : (entries.map (·.1)).Nodup) (config : Config) :
    (entries.foldl takeOther config).workers =
      (Frontmatter.field? workersKey entries).getD config.workers := by
  cases found : Frontmatter.field? workersKey entries with
  | none => exact workers_foldl (field?_eq_none_iff.1 found)
  | some value =>
    obtain ⟨⟨key, _⟩, first, rfl⟩ := Option.map_eq_some_iff.1 found
    obtain ⟨same, before, after, rfl, -⟩ := List.find?_eq_some_iff_append.1 first
    obtain rfl := isSameKey_text_iff.1 same
    have later : ∀ entry ∈ after, entry.1 ≠ .text workersKey := by
      rw [List.map_append, List.map_cons, List.nodup_append, List.nodup_cons] at distinct
      exact fun entry member same => distinct.2.1.1 (List.mem_map.2 ⟨entry, member, same⟩)
    rw [List.foldl_append, List.foldl_cons, workers_foldl later, workers_takeOther_self]
    rfl

/-! ### Outcomes -/

theorem ofMapping_of_strange (strange : strangeKeys entries ≠ []) :
    ofMapping base entries = .error (unknown (strangeKeys entries)) := by
  have found : ¬ (strangeKeys entries).isEmpty := mt List.isEmpty_iff.1 strange
  rw [strangeKeys] at found
  simp only [ofMapping, found]
  rfl

/-- Where all keys are known, the folders are read, then the number of workers. -/
theorem ofMapping_of_known (known : strangeKeys entries = []) :
    ofMapping base entries = (do
      let vault ← required entries vaultKey
      let output ← required entries outputKey
      let vault ← folderAt base vault
      let output ← folderAt base output
      checkWorkers ((Frontmatter.field? workersKey entries).getD (.int 1))
      return entries.foldl takeOther { vault, output }) := by
  rw [strangeKeys] at known
  simp only [ofMapping, known]
  rfl

theorem exists_ofMapping_of_not_isGiven (base : Path) (known : strangeKeys entries = [])
    (missing : (∀ value, ¬ IsGiven entries vaultKey value) ∨
      ∀ value, ¬ IsGiven entries outputKey value) :
    ∃ key, ofMapping base entries = .error (.missingKey key) := by
  rw [ofMapping_of_known known]
  by_cases vault : ∃ value, IsGiven entries vaultKey value
  · obtain ⟨value, given⟩ := vault
    rw [required_of_isGiven given,
      required_of_not_isGiven (missing.resolve_left fun none' => none' value given)]
    exact ⟨outputKey, rfl⟩
  · rw [required_of_not_isGiven (not_exists.1 vault)]
    exact ⟨vaultKey, rfl⟩

theorem exists_ofMapping_of_odd (base : Path) (known : strangeKeys entries = [])
    {vault output : Value} (vaultGiven : IsGiven entries vaultKey vault)
    (outputGiven : IsGiven entries outputKey output)
    (odd : (∀ content, vault ≠ .text content) ∨ ∀ content, output ≠ .text content) :
    ∃ error, ofMapping base entries = .error (.setting error) := by
  rw [ofMapping_of_known known, required_of_isGiven vaultGiven, required_of_isGiven outputGiven]
  by_cases text : ∃ content, vault = .text content
  · obtain ⟨content, rfl⟩ := text
    obtain ⟨error, failed⟩ := exists_folderAt_eq_error base
      (odd.resolve_left fun other => other content rfl)
    refine ⟨error, ?_⟩
    show (folderAt base output >>= _) = _
    rw [failed]
    rfl
  · obtain ⟨error, failed⟩ := exists_folderAt_eq_error base (not_exists.1 text)
    refine ⟨error, ?_⟩
    show (folderAt base vault >>= _) = _
    rw [failed]
    rfl

/-- With all keys known and both folders named, the number of workers decides. -/
theorem ofMapping_of_names (base : Path) (known : strangeKeys entries = []) {vault output : Text}
    (vaultNamed : Names entries vaultKey vault) (outputNamed : Names entries outputKey output) :
    ofMapping base entries = (do
      checkWorkers ((Frontmatter.field? workersKey entries).getD (.int 1))
      return entries.foldl takeOther
        { vault := folderOf base vault, output := folderOf base output }) := by
  rw [ofMapping_of_known known, required_of_isGiven (isGiven_text_iff.2 vaultNamed),
    required_of_isGiven (isGiven_text_iff.2 outputNamed)]
  rfl

theorem isReported_of_error (wrong : IsWrong entries) {error : Error}
    (failed : ofMapping base entries = .error error) :
    IsReported base entries ↔ error.isBadConfig := by
  constructor
  · exact fun reported => reported.refused error failed
  · intro bad
    refine ⟨fun config done => absurd (failed.symm.trans done) nofun, fun other same => ?_,
      iff_of_true ⟨error, failed, bad⟩ wrong⟩
    obtain rfl := Except.error.inj (failed.symm.trans same)
    exact bad

/-! ### Refusals that fail -/

/-- Something is wrong with a mapping that the refusal itself fails at: a key that is no text; with all
keys known, a value that counts as something but is no text in the place of a folder; and with the
folders named too, a number of workers that has no text. -/
inductive IsUnreportable (entries : List (Value × Value)) : Prop
  | key {entry : Value × Value} (member : entry ∈ entries)
    (odd : ∀ content, entry.1 ≠ .text content) : IsUnreportable entries
  | folder {vault output : Value} (known : ∀ entry ∈ entries, IsKnownKey entry.1)
    (vaultGiven : IsGiven entries vaultKey vault) (outputGiven : IsGiven entries outputKey output)
    (odd : (∀ content, vault ≠ .text content) ∨ ∀ content, output ≠ .text content) :
    IsUnreportable entries
  | workers {vault output : Text} {value : Value} (known : ∀ entry ∈ entries, IsKnownKey entry.1)
    (vaultNamed : Names entries vaultKey vault) (outputNamed : Names entries outputKey output)
    (given : Frontmatter.field? workersKey entries = some value) (bad : ¬ IsPositiveInteger value)
    (unwritten : ¬ Succeeds value.quoted) : IsUnreportable entries

theorem isUnreportable_iff_of_strange (strange : strangeKeys entries ≠ []) :
    IsUnreportable entries ↔ ∃ key ∈ strangeKeys entries, ∀ content, key ≠ .text content := by
  have unknown := mt strangeKeys_eq_nil_iff.2 strange
  constructor
  · rintro (⟨member, odd⟩ | ⟨known, -, -, -⟩ | ⟨known, -, -, -, -, -⟩)
    · refine ⟨_, mem_strangeKeys_iff.2 ⟨⟨_, member, rfl⟩, ?_⟩, odd⟩
      rintro ⟨name, -, same⟩
      exact odd name same
    · exact absurd known unknown
    · exact absurd known unknown
  · rintro ⟨key, member, odd⟩
    obtain ⟨⟨entry, inEntries, rfl⟩, -⟩ := mem_strangeKeys_iff.1 member
    exact .key inEntries odd

theorem not_odd_of_known (known : ∀ entry ∈ entries, IsKnownKey entry.1) {entry : Value × Value}
    (member : entry ∈ entries) : ¬ ∀ content, entry.1 ≠ .text content := fun odd => by
  obtain ⟨name, -, same⟩ := known entry member
  exact odd name same

theorem IsGiven.unique {other : Value} (given : IsGiven entries key value)
    (again : IsGiven entries key other) : value = other :=
  Option.some.inj (given.1.symm.trans again.1)

/-! ### Reports -/

theorem isReported_of_strange (strange : strangeKeys entries ≠ []) :
    IsReported base entries ↔ ¬ IsUnreportable entries := by
  obtain ⟨key, member⟩ := List.exists_mem_of_ne_nil _ strange
  obtain ⟨⟨entry, inEntries, rfl⟩, unknown⟩ := mem_strangeKeys_iff.1 member
  rw [isReported_of_error (.key inEntries unknown) (ofMapping_of_strange strange),
    isBadConfig_unknown_iff strange, isUnreportable_iff_of_strange strange]
  push Not
  rfl

section Known

variable (known : ∀ entry ∈ entries, IsKnownKey entry.1)
include known

theorem isReported_of_missing (missing : (∀ value, ¬ IsGiven entries vaultKey value) ∨
    ∀ value, ¬ IsGiven entries outputKey value) :
    IsReported base entries ↔ ¬ IsUnreportable entries := by
  obtain ⟨key, failed⟩ :=
    exists_ofMapping_of_not_isGiven base (strangeKeys_eq_nil_iff.2 known) missing
  have wrong : IsWrong entries := by
    rcases missing with unset | unset
    · exact .folder List.mem_cons_self fun content named => unset _ (isGiven_text_iff.2 named)
    · exact .folder (List.mem_cons_of_mem _ List.mem_cons_self) fun content named =>
        unset _ (isGiven_text_iff.2 named)
  rw [isReported_of_error wrong failed]
  refine iff_of_true rfl ?_
  rintro (⟨member, odd⟩ | ⟨-, vault, output, -⟩ | ⟨-, vault, output, -, -, -⟩)
  · exact not_odd_of_known known member odd
  · exact missing.elim (· _ vault) (· _ output)
  · exact missing.elim (· _ (isGiven_text_iff.2 vault)) (· _ (isGiven_text_iff.2 output))

theorem isReported_of_odd {vault output : Value} (vaultGiven : IsGiven entries vaultKey vault)
    (outputGiven : IsGiven entries outputKey output)
    (odd : (∀ content, vault ≠ .text content) ∨ ∀ content, output ≠ .text content) :
    IsReported base entries ↔ ¬ IsUnreportable entries := by
  obtain ⟨error, failed⟩ := exists_ofMapping_of_odd base
    (strangeKeys_eq_nil_iff.2 known) vaultGiven outputGiven odd
  have wrong : IsWrong entries := by
    rcases odd with other | other
    · exact .folder List.mem_cons_self fun content named =>
        other content (vaultGiven.unique (isGiven_text_iff.2 named))
    · exact .folder (List.mem_cons_of_mem _ List.mem_cons_self) fun content named =>
        other content (outputGiven.unique (isGiven_text_iff.2 named))
  rw [isReported_of_error wrong failed]
  exact iff_of_false Bool.false_ne_true (not_not_intro (.folder known vaultGiven outputGiven odd))

variable {vault output : Text} (vaultNamed : Names entries vaultKey vault)
  (outputNamed : Names entries outputKey output)
include vaultNamed outputNamed

/-- With all keys known and both folders named, only the number of workers may be wrong. -/
theorem isWrong_iff_of_names : IsWrong entries ↔
    ¬ IsPositiveInteger ((Frontmatter.field? workersKey entries).getD (.int 1)) := by
  constructor
  · rintro (⟨member, unknown⟩ | ⟨isFolder, unnamed⟩ | ⟨given, bad⟩)
    · exact absurd (known _ member) unknown
    · rcases List.mem_pair.1 isFolder with rfl | rfl
      · exact absurd vaultNamed (unnamed vault)
      · exact absurd outputNamed (unnamed output)
    · rwa [given]
  · intro bad
    cases given : Frontmatter.field? workersKey entries with
    | none =>
      rw [given] at bad
      exact absurd ⟨1, rfl, le_rfl⟩ bad
    | some value =>
      rw [given] at bad
      exact .workers given bad

/-- Then the refusal fails exactly if the number of workers is wrong and has no text. -/
theorem isUnreportable_iff_of_names : IsUnreportable entries ↔ ∃ value,
    Frontmatter.field? workersKey entries = some value ∧ ¬ IsPositiveInteger value ∧
      ¬ Succeeds value.quoted := by
  constructor
  · rintro (⟨member, odd⟩ | ⟨-, vaultGiven, outputGiven, odd⟩ | ⟨-, -, -, given, bad, unwritten⟩)
    · exact absurd odd (not_odd_of_known known member)
    · rcases odd with other | other
      · exact absurd (vaultGiven.unique (isGiven_text_iff.2 vaultNamed)) (other vault)
      · exact absurd (outputGiven.unique (isGiven_text_iff.2 outputNamed)) (other output)
    · exact ⟨_, given, bad, unwritten⟩
  · rintro ⟨value, given, bad, unwritten⟩
    exact .workers known vaultNamed outputNamed given bad unwritten

theorem isReported_of_names (distinct : (entries.map (·.1)).Nodup) :
    IsReported base entries ↔ ¬ IsUnreportable entries := by
  have outcome := ofMapping_of_names base (strangeKeys_eq_nil_iff.2 known) vaultNamed
    outputNamed
  have wrong := isWrong_iff_of_names known vaultNamed outputNamed
  rw [isUnreportable_iff_of_names known vaultNamed outputNamed]
  by_cases positive : IsPositiveInteger ((Frontmatter.field? workersKey entries).getD (.int 1))
  · rw [checkWorkers_of_positive positive] at outcome
    refine iff_of_true ⟨fun config done => ?_, fun error failed => ?_, ?_⟩ ?_
    · obtain rfl := Except.ok.inj (outcome.symm.trans done)
      obtain ⟨vaultKept, outputKept⟩ := folders_foldl
        { vault := folderOf base vault, output := folderOf base output } entries
      rw [workers_foldl_eq distinct, vaultKept, outputKept]
      exact ⟨positive, ⟨vault, vaultNamed, isFolder_folderOf base vault⟩,
        output, outputNamed, isFolder_folderOf base output⟩
    · exact nomatch outcome.symm.trans failed
    · rw [wrong]
      exact iff_of_false (fun ⟨error, failed, _⟩ => nomatch outcome.symm.trans failed)
        (not_not_intro positive)
    · rintro ⟨value, given, bad, -⟩
      rw [given] at positive
      exact bad positive
  · obtain ⟨error, refused, reported⟩ := checkWorkers_of_not positive
    rw [refused] at outcome
    rw [isReported_of_error (wrong.2 positive) outcome, reported]
    cases given : Frontmatter.field? workersKey entries with
    | none =>
      rw [given] at positive
      exact absurd ⟨1, rfl, le_rfl⟩ positive
    | some value =>
      rw [given] at positive
      constructor
      · rintro written ⟨other, same, -, unwritten⟩
        obtain rfl := Option.some.inj same
        exact unwritten written
      · intro none'
        by_contra unwritten
        exact none' ⟨value, rfl, positive, unwritten⟩

end Known

/-- A mapping is a usable configuration or is reported as a bad one, and this exactly if something is
wrong with it, unless the refusal itself fails at what is wrong. This is about folders that are named
without a tilde for a home folder: one stands for itself. -/
theorem isReported_iff (base : Path) (distinct : (entries.map (·.1)).Nodup) :
    IsReported base entries ↔ ¬ IsUnreportable entries := by
  by_cases strange : strangeKeys entries ≠ []
  · exact isReported_of_strange strange
  have known := strangeKeys_eq_nil_iff.1 (not_ne_iff.1 strange)
  by_cases missing : (∀ value, ¬ IsGiven entries vaultKey value) ∨
      ∀ value, ¬ IsGiven entries outputKey value
  · exact isReported_of_missing known missing
  obtain ⟨⟨vault, vaultGiven⟩, output, outputGiven⟩ : (∃ value, IsGiven entries vaultKey value) ∧
      ∃ value, IsGiven entries outputKey value := by
    simpa [not_or] using missing
  by_cases odd : (∀ content, vault ≠ .text content) ∨ ∀ content, output ≠ .text content
  · exact isReported_of_odd known vaultGiven outputGiven odd
  obtain ⟨⟨vaultText, rfl⟩, outputText, rfl⟩ : (∃ content, vault = .text content) ∧
      ∃ content, output = .text content := by
    simpa [not_or] using odd
  exact isReported_of_names known (isGiven_text_iff.1 vaultGiven) (isGiven_text_iff.1 outputGiven)
    distinct

end Mapping

/-- Folders from the root and from the folder of the configuration, and workers that are none. -/
theorem isReported_iff_false_workers :
    let entries : List (Value × Value) := [(.text vaultKey, .text "v"), (.text outputKey, .text "/o"),
      (.text "base_url", .text "/log"), (.text workersKey, .bool false)]
    (entries.map (·.1)).Nodup ∧ IsReported ⟨"/", ["b"]⟩ entries := by
  intro entries
  let texts : List Text := [vaultKey, outputKey, "base_url", workersKey]
  have apart : texts.Nodup := by decide
  have inKeys : ∀ name ∈ texts, name ∈ keys := by decide
  have written : entries.map (·.1) = texts.map .text := rfl
  have distinct : (entries.map (·.1)).Nodup := by
    rw [written]
    exact apart.map fun _ _ same => Value.text.inj same
  have known : ∀ entry ∈ entries, IsKnownKey entry.1 := fun entry member => by
    have inside : entry.1 ∈ texts.map .text := written ▸ List.mem_map_of_mem member
    obtain ⟨name, inTexts, same⟩ := List.mem_map.1 inside
    exact ⟨name, inKeys name inTexts, same.symm⟩
  have vaultNamed : Names entries vaultKey "v" :=
    ⟨field?_of_mem distinct List.mem_cons_self, nofun⟩
  have outputNamed : Names entries outputKey "/o" :=
    ⟨field?_of_mem distinct (.tail _ List.mem_cons_self), nofun⟩
  have workers : Frontmatter.field? workersKey entries = some (.bool false) :=
    field?_of_mem distinct (.tail _ (.tail _ (.tail _ List.mem_cons_self)))
  refine ⟨distinct, (isReported_iff ⟨"/", ["b"]⟩ distinct).2 ?_⟩
  rw [isUnreportable_iff_of_names known vaultNamed outputNamed]
  rintro ⟨value, given, -, unwritten⟩
  obtain rfl := Option.some.inj (workers.symm.trans given)
  exact unwritten (.ok _)

/-- A number in the place of a key is unknown, and is not reported as such. -/
theorem exists_unreported : ¬ IsReported ⟨"/", ["b"]⟩ [(.int 1, .text "x")] := fun reported =>
  absurd (reported.refused _ rfl) Bool.false_ne_true

end Config

end CampaignPress
