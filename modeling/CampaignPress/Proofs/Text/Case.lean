/-
This file shows that writing a text in small or in capital letters brings in no
control characters and no blanks: every character that is mapped to another one
is mapped to letters and marks. Blanks stay as they are, and no sigma looks past
them to see whether it ends a word, so a text may be trimmed before or after it
is written in small letters.
-/
import CampaignPress.Proofs.Text.Lines
import CampaignPress.Text.Case

namespace CampaignPress.Text

/-! ### Tables -/

/-- Whether a code is that of a character other than the first controls. -/
def isGraphicCode (code : Int) : Bool := 32 ≤ code && (code < 55296 || (57343 < code && code < 1114112))

/-- Whether all characters that a run leads to are of use in a line. -/
def CaseRun.isGraphic (run : CaseRun) : Bool :=
  32 ≤ run.first + run.shift &&
    (run.last + run.shift < 55296 ||
      (57343 < run.first + run.shift && run.last + run.shift < 1114112))

theorem le_toNat_ofNat {code : Nat} (graphic : isGraphicCode code) :
    32 ≤ (Char.ofNat code).toNat := by
  simp only [isGraphicCode, Bool.and_eq_true, Bool.or_eq_true, decide_eq_true_eq] at graphic
  have valid : code.isValidChar := by
    rw [Nat.isValidChar]
    omega
  rw [Char.toNat_ofNat, if_pos valid]
  omega

/-- A partner lies where the run leads to that the code is in. -/
theorem CaseRun.exists_of_partner? {runs : List CaseRun} {code partner : Nat}
    (found : partner? code runs = some partner) : ∃ run ∈ runs,
      run.first ≤ code ∧ code ≤ run.last ∧ partner = ((code : Int) + run.shift).toNat := by
  obtain ⟨run, inRuns, rfl⟩ := Option.map_eq_some_iff.1 found
  have range := List.find?_some inRuns
  simp only [Bool.and_eq_true, decide_eq_true_eq] at range
  exact ⟨run, List.mem_of_find?_eq_some inRuns, range.1.1, range.1.2, rfl⟩

theorem le_toNat_of_partner? {runs : List CaseRun} (graphic : ∀ run ∈ runs, run.isGraphic)
    {code partner : Nat} (found : CaseRun.partner? code runs = some partner) :
    32 ≤ (Char.ofNat partner).toNat := by
  obtain ⟨run, inRuns, low, high, rfl⟩ := CaseRun.exists_of_partner? found
  have holds := graphic run inRuns
  refine le_toNat_ofNat ?_
  simp only [CaseRun.isGraphic, isGraphicCode, Bool.and_eq_true, Bool.or_eq_true,
    decide_eq_true_eq] at holds ⊢
  omega

theorem le_toNat_of_spelled? {table : List (Nat × List Nat)}
    (graphic : ∀ entry ∈ table, ∀ code ∈ entry.2, isGraphicCode (code : Nat)) {code : Nat}
    {spelling : Text} (found : spelled? code table = some spelling) {c : Char}
    (member : c ∈ spelling) : 32 ≤ c.toNat := by
  rw [spelled?, Option.map_eq_some_iff] at found
  obtain ⟨entry, inTable, rfl⟩ := found
  obtain ⟨code, inEntry, rfl⟩ := List.mem_map.1 member
  exact le_toNat_ofNat (graphic entry (List.mem_of_find?_eq_some inTable) code inEntry)

set_option maxRecDepth 4000 in
theorem isGraphic_lowerRuns : ∀ run ∈ lowerRuns, run.isGraphic := List.all_eq_true.1 (by decide)

set_option maxRecDepth 4000 in
theorem isGraphic_upperRuns : ∀ run ∈ upperRuns, run.isGraphic := List.all_eq_true.1 (by decide)

set_option maxRecDepth 4000 in
theorem isGraphic_upperSpelled :
    ∀ entry ∈ upperSpelled, ∀ code ∈ entry.2, isGraphicCode (code : Nat) := by
  decide

/-! ### Single characters -/

/-- What is so of everything that the tables of small letters lead to is so of the small form of
every character that is mapped to another one. -/
theorem eq_or_of_mem_lowerChar (Holds : Char → Prop)
    (ascii : ∀ code, 97 ≤ code → code ≤ 122 → Holds (Char.ofNat code))
    (spelled : ∀ {code spelling}, spelled? code lowerSpelled = some spelling →
      ∀ d ∈ spelling, Holds d)
    (runs : ∀ {code partner}, CaseRun.partner? code lowerRuns = some partner →
      Holds (Char.ofNat partner))
    {c d : Char} (member : d ∈ lowerChar c) : d = c ∨ Holds d := by
  rw [lowerChar] at member
  split at member
  · split at member
    · rename_i capital
      rw [Bool.and_eq_true, decide_eq_true_eq, decide_eq_true_eq] at capital
      have low : 65 ≤ c.toNat := UInt32.le_iff_toNat_le.1 capital.1
      have high : c.toNat ≤ 90 := UInt32.le_iff_toNat_le.1 capital.2
      rw [List.mem_singleton.1 member]
      exact .inr (ascii _ (by omega) (by omega))
    · exact .inl (List.mem_singleton.1 member)
  · split at member
    · rename_i spelling found
      exact .inr (spelled found d member)
    · rw [List.mem_singleton] at member
      rw [member]
      cases found : CaseRun.partner? c.toNat lowerRuns with
      | none => exact .inl rfl
      | some partner => exact .inr (runs found)

theorem eq_or_le_of_mem_lowerChar {c d : Char} (member : d ∈ lowerChar c) :
    d = c ∨ 32 ≤ d.toNat := by
  refine eq_or_of_mem_lowerChar (fun d => 32 ≤ d.toNat) (fun code low high => ?_)
    (fun found d => le_toNat_of_spelled? (by decide) found)
    (le_toNat_of_partner? isGraphic_lowerRuns) member
  refine le_toNat_ofNat ?_
  simp only [isGraphicCode, Bool.and_eq_true, Bool.or_eq_true, decide_eq_true_eq]
  omega

theorem eq_or_le_of_mem_upperChar {c d : Char} (member : d ∈ upperChar c) :
    d = c ∨ 32 ≤ d.toNat := by
  rw [upperChar] at member
  split at member
  · rename_i ascii
    split at member
    · rename_i small
      rw [Bool.and_eq_true, decide_eq_true_eq, decide_eq_true_eq] at small
      have low : 97 ≤ c.toNat := UInt32.le_iff_toNat_le.1 small.1
      rw [List.mem_singleton.1 member]
      refine .inr (le_toNat_ofNat ?_)
      simp only [isGraphicCode, Bool.and_eq_true, Bool.or_eq_true, decide_eq_true_eq]
      omega
    · exact .inl (List.mem_singleton.1 member)
  · split at member
    · rename_i spelling found
      exact .inr (le_toNat_of_spelled? isGraphic_upperSpelled found member)
    · rw [List.mem_singleton] at member
      cases found : CaseRun.partner? c.toNat upperRuns with
      | none =>
        rw [found] at member
        exact .inl member
      | some partner =>
        rw [found] at member
        rw [member]
        exact .inr (le_toNat_of_partner? isGraphic_upperRuns found)

/-! ### Texts -/

/-- A character that is the small form of no other one comes from the text itself. -/
theorem mem_of_mem_lowerFrom {d : Char} (fixed : ∀ c, d ∈ lowerChar c → d = c)
    (noSigma : d ≠ 'ς' ∧ d ≠ 'σ') {passed text : Text} (member : d ∈ lowerFrom passed text) :
    d ∈ text := by
  induction text generalizing passed with
  | nil => exact absurd member List.not_mem_nil
  | cons c rest inductionHypothesis =>
    rw [lowerFrom] at member
    rcases List.mem_append.1 member with here | later
    · by_cases sigma : c = 'Σ'
      · rw [if_pos sigma] at here
        split at here <;> rw [List.mem_singleton] at here
        · exact absurd here noSigma.1
        · exact absurd here noSigma.2
      · rw [if_neg sigma] at here
        rw [fixed c here]
        exact List.mem_cons_self
    · exact List.mem_cons_of_mem c (inductionHypothesis later)

/-- A control character in the small form of a text is in the text. -/
theorem mem_of_mem_lower {d : Char} (control : d.toNat < 32) {text : Text}
    (member : d ∈ lower text) : d ∈ text := by
  have small {e : Char} (large : 32 ≤ e.toNat) : d ≠ e := by
    rintro rfl
    exact absurd control (Nat.not_lt.2 large)
  refine mem_of_mem_lowerFrom (fun c inChar => ?_) ⟨small (by decide), small (by decide)⟩ member
  exact (eq_or_le_of_mem_lowerChar inChar).resolve_right (Nat.not_le.2 control)

/-- A control character in the capital form of a text is in the text. -/
theorem mem_of_mem_upper {d : Char} (control : d.toNat < 32) {text : Text}
    (member : d ∈ upper text) : d ∈ text := by
  obtain ⟨c, inText, here⟩ := List.mem_flatMap.1 member
  rwa [(eq_or_le_of_mem_upperChar here).resolve_right (Nat.not_le.2 control)]

/-! ### Characters that no other one leads to -/

/-- Whether a code is none that the tables of small letters lead to. -/
def isUnreached (code : Nat) : Bool :=
  0 < code && (code < 97 || 122 < code) && lowerSpelled.all (fun entry => !entry.2.contains code) &&
    lowerRuns.all fun run => (code : Int) < run.first + run.shift || run.last + run.shift < code

theorem eq_of_mem_lowerChar {c d : Char} (unreached : isUnreached d.toNat)
    (member : d ∈ lowerChar c) : d = c := by
  rw [isUnreached] at unreached
  simp only [Bool.and_eq_true, Bool.or_eq_true, decide_eq_true_eq, List.all_eq_true,
    Bool.not_eq_true', List.contains_eq_mem, decide_eq_false_iff_not] at unreached
  obtain ⟨⟨⟨positive, ascii⟩, spelled⟩, runs⟩ := unreached
  have code_eq {code : Nat} (same : Char.ofNat code = d) : d.toNat = code := by
    rw [← same, Char.toNat_ofNat] at positive ⊢
    split at positive
    · rename_i valid
      rw [if_pos valid]
    · exact absurd positive (Nat.lt_irrefl 0)
  refine (eq_or_of_mem_lowerChar (· ≠ d) (fun code low high same => ?_)
    (fun found e inSpelling same => ?_) (fun {code partner} found same => ?_) member).resolve_right
      fun other => other rfl
  · have := code_eq same
    omega
  · obtain ⟨entry, inTable, rfl⟩ := Option.map_eq_some_iff.1 found
    obtain ⟨code, inEntry, rfl⟩ := List.mem_map.1 inSpelling
    exact spelled entry (List.mem_of_find?_eq_some inTable) (code_eq same ▸ inEntry)
  · obtain ⟨run, inRuns, low, high, partner_eq⟩ := CaseRun.exists_of_partner? found
    have apart := runs run inRuns
    have := code_eq same
    omega

set_option maxRecDepth 4000 in
/-- An opening bracket in the small form of a text is in the text. -/
theorem opening_mem_of_mem_lower {text : Text} (member : '[' ∈ lower text) : '[' ∈ text :=
  mem_of_mem_lowerFrom (fun _ => eq_of_mem_lowerChar (by decide)) (by decide) member

/-! ### Blanks -/

/-- The codes of the blank characters. -/
def blankCodes : List Nat :=
  [9, 10, 11, 12, 13, 28, 29, 30, 31, 32, 133, 160, 5760, 8192, 8193, 8194, 8195, 8196, 8197,
   8198, 8199, 8200, 8201, 8202, 8232, 8233, 8239, 8287, 12288]

theorem toNat_mem_blankCodes {c : Char} (blank : isBlank c) : c.toNat ∈ blankCodes := by
  simp only [isBlank, Bool.or_eq_true, Bool.and_eq_true, decide_eq_true_eq] at blank
  simp only [blankCodes, List.mem_cons, List.not_mem_nil]
  omega

set_option maxRecDepth 8000 in
/-- The tables of small letters lead to no blank. -/
theorem isUnreached_of_mem_blankCodes : ∀ code ∈ blankCodes, isUnreached code := by
  decide

set_option maxRecDepth 8000 in
theorem lowerChar_of_mem_blankCodes :
    ∀ code ∈ blankCodes, lowerChar (Char.ofNat code) = [Char.ofNat code] := by
  decide

set_option maxRecDepth 8000 in
/-- A blank is no letter with a case, and none that is passed over in the search for one. -/
theorem inRanges_of_mem_blankCodes : ∀ code ∈ blankCodes,
    inRanges code caseIgnorableRanges = false ∧ inRanges code casedRanges = false := by
  decide

theorem lowerChar_of_isBlank {c : Char} (blank : isBlank c) : lowerChar c = [c] := by
  have fixed := lowerChar_of_mem_blankCodes c.toNat (toNat_mem_blankCodes blank)
  rwa [Char.ofNat_toNat] at fixed

/-- A character that is not blank is written small without blanks. -/
theorem isBlank_of_mem_lowerChar {c : Char} (inked : isBlank c = false) {d : Char}
    (member : d ∈ lowerChar c) : isBlank d = false := by
  cases blank : isBlank d with
  | false => rfl
  | true =>
    have unreached := isUnreached_of_mem_blankCodes d.toNat (toNat_mem_blankCodes blank)
    rw [eq_of_mem_lowerChar unreached member] at blank
    exact blank.symm.trans inked

theorem lowerChar_ne_nil (c : Char) : lowerChar c ≠ [] := by
  rw [lowerChar]
  split
  · split <;> exact List.cons_ne_nil _ _
  · split
    · rename_i spelling found
      have table : ∀ entry ∈ lowerSpelled, entry.2 ≠ [] := by decide
      obtain ⟨entry, inTable, rfl⟩ := Option.map_eq_some_iff.1 found
      exact fun empty =>
        table entry (List.mem_of_find?_eq_some inTable) (List.map_eq_nil_iff.1 empty)
    · exact List.cons_ne_nil _ _

/-! ### Trimming -/

theorem meetsCased_cons (c : Char) (text : Text) : meetsCased (c :: text) =
    if inRanges c.toNat caseIgnorableRanges then meetsCased text
    else inRanges c.toNat casedRanges := by
  cases passedOver : inRanges c.toNat caseIgnorableRanges with
  | true => simp [meetsCased, passedOver]
  | false => simp [meetsCased, passedOver]

/-- The search for a letter with a case ends at a blank, without one. -/
theorem meetsCased_append_blanks {blanks : Text} (blank : ∀ c ∈ blanks, isBlank c) (text : Text) :
    meetsCased (text ++ blanks) = meetsCased text := by
  induction text with
  | nil =>
    cases blanks with
    | nil => rfl
    | cons c blanks =>
      have member := toNat_mem_blankCodes (blank c List.mem_cons_self)
      obtain ⟨stops, caseless⟩ := inRanges_of_mem_blankCodes c.toNat member
      rw [List.nil_append, meetsCased_cons, stops, caseless]
      rfl
  | cons c text inductionHypothesis =>
    rw [List.cons_append, meetsCased_cons, meetsCased_cons, inductionHypothesis]

section Blanks

variable {blanks : Text} (blank : ∀ c ∈ blanks, isBlank c)
include blank

theorem lowerFrom_passed_blanks (passed text : Text) :
    lowerFrom (passed ++ blanks) text = lowerFrom passed text := by
  induction text generalizing passed with
  | nil => rfl
  | cons c text inductionHypothesis =>
    rw [lowerFrom, lowerFrom, meetsCased_append_blanks blank, ← List.cons_append,
      inductionHypothesis]

theorem lowerFrom_blanks_append (passed text : Text) :
    lowerFrom passed (blanks ++ text) = blanks ++ lowerFrom (blanks.reverse ++ passed) text := by
  induction blanks generalizing passed with
  | nil => rfl
  | cons c blanks inductionHypothesis =>
    rw [List.forall_mem_cons] at blank
    have other : c ≠ 'Σ' := by
      rintro rfl
      exact absurd blank.1 (by decide)
    rw [List.cons_append, lowerFrom, if_neg other, lowerChar_of_isBlank blank.1,
      inductionHypothesis blank.2, List.reverse_cons, List.append_assoc]
    rfl

theorem lowerFrom_append_blanks (passed text : Text) :
    lowerFrom passed (text ++ blanks) = lowerFrom passed text ++ blanks := by
  induction text generalizing passed with
  | nil =>
    have alone := lowerFrom_blanks_append blank passed []
    rwa [List.append_nil, lowerFrom, List.append_nil] at alone
  | cons c text inductionHypothesis =>
    rw [List.cons_append, lowerFrom, lowerFrom, meetsCased_append_blanks blank,
      inductionHypothesis, List.append_assoc]

end Blanks

/-- The small form of a text begins with that of its first character. -/
theorem exists_lowerFrom_cons {c : Char} (inked : isBlank c = false) (passed rest : Text) :
    ∃ small, lowerFrom passed (c :: rest) = small ++ lowerFrom (c :: passed) rest ∧
      small ≠ [] ∧ ∀ d ∈ small, isBlank d = false := by
  refine ⟨_, rfl, ?_⟩
  split
  · split
    · exact ⟨List.cons_ne_nil _ _, List.forall_mem_singleton.2 rfl⟩
    · exact ⟨List.cons_ne_nil _ _, List.forall_mem_singleton.2 rfl⟩
  · exact ⟨lowerChar_ne_nil c, fun d => isBlank_of_mem_lowerChar inked⟩

/-- The small form of a text ends with that of its last character. -/
theorem exists_lowerFrom_concat {c : Char} (inked : isBlank c = false) (passed text : Text) :
    ∃ start small, lowerFrom passed (text ++ [c]) = start ++ small ∧
      small ≠ [] ∧ ∀ d ∈ small, isBlank d = false := by
  induction text generalizing passed with
  | nil =>
    obtain ⟨small, same, small_inked⟩ := exists_lowerFrom_cons inked passed []
    rw [lowerFrom, List.append_nil] at same
    exact ⟨[], small, same, small_inked⟩
  | cons d text inductionHypothesis =>
    obtain ⟨start, small, same, small_inked⟩ := inductionHypothesis (d :: passed)
    rw [List.cons_append, lowerFrom, same, ← List.append_assoc]
    exact ⟨_, small, rfl, small_inked⟩

/-- A trimmed text is trimmed in small letters. -/
theorem trim_lower_of_trim_eq {text : Text} (trimmed : trim text = text) :
    trim (lower text) = lower text := by
  have head : ∀ c ∈ text.head?, isBlank c = false := fun c => by
    rw [← trimmed]
    exact isBlank_head_trim c
  have last : ∀ c ∈ text.getLast?, isBlank c = false := fun c => by
    rw [← trimmed]
    exact isBlank_getLast_trim c
  refine trim_eq_self (fun d first => ?_) fun d found => ?_
  · cases text with
    | nil => exact nomatch first
    | cons c rest =>
      obtain ⟨small, same, filled, inked⟩ := exists_lowerFrom_cons (head c rfl) [] rest
      rw [lower, same, List.head?_append_of_ne_nil _ filled] at first
      exact inked d (List.mem_of_head? first)
  · rcases List.eq_nil_or_concat' text with rfl | ⟨before, c, rfl⟩
    · exact nomatch found
    · obtain ⟨start, small, same, filled, inked⟩ :=
        exists_lowerFrom_concat (last c List.getLast?_concat) [] before
      rw [lower, same, List.getLast?_append_of_ne_nil _ filled] at found
      exact inked d (List.mem_of_getLast? found)

/-- Trimming and small letters do not get in each other's way. -/
theorem trim_lower (text : Text) : trim (lower text) = lower (trim text) := by
  obtain ⟨before, after, same, blankBefore, blankAfter⟩ := exists_trim text
  have inner : lower text = before ++ (lower (trim text) ++ after) := by
    have reversed : ∀ c ∈ before.reverse, isBlank c := fun c member =>
      blankBefore c (List.mem_reverse.1 member)
    have whole := congrArg lower same
    rw [lower, lower, List.append_assoc, lowerFrom_blanks_append blankBefore,
      lowerFrom_append_blanks blankAfter] at whole
    rw [lower, whole, List.append_nil, lower]
    have alone := lowerFrom_passed_blanks reversed [] (trim text)
    rw [List.nil_append] at alone
    rw [alone]
  rw [inner, trim_append_left blankBefore, trim_append_right _ blankAfter,
    trim_lower_of_trim_eq (trim_trim text)]

/-! ### Length -/

set_option maxRecDepth 8000 in
theorem length_lowerChar_sigma : (lowerChar 'Σ').length = 1 := by
  decide

/-- The form of a sigma does not matter to the length of the small form. -/
theorem length_lowerFrom (passed text : Text) :
    (lowerFrom passed text).length = (text.flatMap lowerChar).length := by
  induction text generalizing passed with
  | nil => rfl
  | cons c text inductionHypothesis =>
    rw [lowerFrom, List.length_append, List.flatMap_cons, List.length_append, inductionHypothesis]
    congr 1
    split
    · rename_i sigma
      rw [sigma, length_lowerChar_sigma]
      split <;> rfl
    · rfl

/-- A text has another small form than any text that is left when characters are taken out. -/
theorem lower_ne_of_sublist {part text : Text} (sublist : part.Sublist text)
    (shorter : part ≠ text) : lower part ≠ lower text := by
  have less : (part.flatMap lowerChar).length < (text.flatMap lowerChar).length := by
    induction sublist with
    | slnil => exact absurd rfl shorter
    | @cons part text c sublist inductionHypothesis =>
      have filled := List.length_pos_iff.2 (lowerChar_ne_nil c)
      rw [List.flatMap_cons, List.length_append]
      by_cases same : part = text
      · rw [same]
        omega
      · have := inductionHypothesis same
        omega
    | @cons_cons part text c sublist inductionHypothesis =>
      have := inductionHypothesis fun same => shorter (congrArg (c :: ·) same)
      rw [List.flatMap_cons, List.flatMap_cons, List.length_append, List.length_append]
      omega
  intro same
  have lengths := congrArg List.length same
  rw [lower, lower, length_lowerFrom, length_lowerFrom] at lengths
  omega

end CampaignPress.Text
