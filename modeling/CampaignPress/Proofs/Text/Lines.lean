/-
This file shows how texts fall into lines. Cutting at a character is the
standard library's `List.splitOn`, so that lines and their joining are inverse
to each other. Trimming a text takes nothing from its trimmed lines but empty
ones at the beginning and at the end.
-/
import CampaignPress.Text.Basic
import Mathlib

namespace CampaignPress.Text

/-! ### Cutting and joining -/

/-- What stands before the first cut is passed over. -/
theorem pieces_append {isCut : Char → Bool} {before : Text}
    (uncut : ∀ c ∈ before, isCut c = false) (rest : Text) :
    pieces isCut (before ++ rest) =
      (before ++ (pieces isCut rest).1, (pieces isCut rest).2) := by
  induction before with
  | nil => rfl
  | cons c before inductionHypothesis =>
    rw [List.forall_mem_cons] at uncut
    rw [List.cons_append, pieces, inductionHypothesis uncut.2]
    exact if_neg (Bool.eq_false_iff.1 uncut.1)

theorem splitWhere_eq_splitOnP (isCut : Char → Bool) (text : Text) :
    splitWhere isCut text = text.splitOnP isCut := by
  induction text with
  | nil => rfl
  | cons c rest inductionHypothesis =>
    rw [List.splitOnP_cons_eq_if_modifyHead, ← inductionHypothesis]
    simp only [splitWhere, pieces]
    cases isCut c <;> rfl

theorem splitOn_eq (separator : Char) (text : Text) :
    splitOn separator text = List.splitOn separator text :=
  splitWhere_eq_splitOnP _ text

theorem splitOn_of_not_mem {separator : Char} {text : Text} (single : separator ∉ text) :
    splitOn separator text = [text] := by
  rw [splitOn_eq]
  exact List.splitOn_eq_singleton single

theorem splitOn_join {separator : Char} {parts : List Text}
    (uncut : ∀ part ∈ parts, separator ∉ part) (nonempty : parts ≠ []) :
    splitOn separator (join [separator] parts) = parts := by
  rw [splitOn_eq]
  exact List.splitOn_intercalate separator uncut nonempty

theorem join_splitOn (separator : Char) (text : Text) :
    join [separator] (splitOn separator text) = text := by
  rw [splitOn_eq]
  exact List.intercalate_splitOn separator

theorem lines_eq_splitOn (text : Text) : lines text = List.splitOn '\n' text :=
  splitOn_eq '\n' text

theorem lines_ne_nil (text : Text) : lines text ≠ [] := by
  rw [lines_eq_splitOn]
  exact List.splitOn_ne_nil _ _

theorem unlines_lines (text : Text) : unlines (lines text) = text := join_splitOn '\n' text

theorem lines_unlines {parts : List Text} (single : ∀ part ∈ parts, '\n' ∉ part)
    (nonempty : parts ≠ []) : lines (unlines parts) = parts := by
  rw [lines_eq_splitOn]
  exact List.splitOn_intercalate '\n' single nonempty

theorem lines_of_not_mem {line : Text} (single : '\n' ∉ line) : lines line = [line] := by
  rw [lines_eq_splitOn]
  exact List.splitOn_eq_singleton single

theorem lines_append_break (before after : Text) :
    lines (before ++ '\n' :: after) = lines before ++ lines after := by
  simp only [lines_eq_splitOn]
  exact List.splitOn_append_cons_self before after

/-- No piece holds a character that the text was cut at. -/
theorem isCut_of_mem_splitWhere {isCut : Char → Bool} {text piece : Text}
    (member : piece ∈ splitWhere isCut text) {c : Char} (inPiece : c ∈ piece) :
    isCut c = false := by
  induction text generalizing piece with
  | nil =>
    obtain rfl : piece = [] := List.mem_singleton.1 member
    exact absurd inPiece List.not_mem_nil
  | cons d rest inductionHypothesis =>
    rw [splitWhere, pieces] at member
    rw [splitWhere] at inductionHypothesis
    obtain ⟨first, others⟩ := pieces isCut rest
    dsimp only at member inductionHypothesis
    split at member
    · rcases List.mem_cons.1 member with rfl | later
      · exact absurd inPiece List.not_mem_nil
      · exact inductionHypothesis later inPiece
    · rename_i other
      rcases List.mem_cons.1 member with rfl | later
      · rcases List.mem_cons.1 inPiece with rfl | inFirst
        · exact Bool.eq_false_iff.2 other
        · exact inductionHypothesis List.mem_cons_self inFirst
      · exact inductionHypothesis (List.mem_cons_of_mem _ later) inPiece

/-- No line holds a line break. -/
theorem break_not_mem_of_mem_lines {text line : Text} (member : line ∈ lines text) :
    '\n' ∉ line := fun inLine => nomatch isCut_of_mem_splitWhere member inLine

/-- Each line with a line break after it. -/
def ended (parts : List Text) : Text := parts.flatMap (· ++ ['\n'])

@[simp]
theorem ended_nil : ended [] = [] := rfl

@[simp]
theorem ended_cons (part : Text) (parts : List Text) :
    ended (part :: parts) = part ++ '\n' :: ended parts := by
  rw [ended, List.flatMap_cons, List.append_assoc]
  rfl

@[simp]
theorem ended_append (left right : List Text) : ended (left ++ right) = ended left ++ ended right :=
  List.flatMap_append

theorem unlines_append (left : List Text) {right : List Text} (nonempty : right ≠ []) :
    unlines (left ++ right) = ended left ++ unlines right := by
  induction left with
  | nil => rfl
  | cons part left inductionHypothesis =>
    rw [List.cons_append, ended_cons, unlines, join,
      List.intercalate_cons_of_ne_nil (List.append_ne_nil_of_right_ne_nil left nonempty)]
    show part ++ ['\n'] ++ unlines (left ++ right) = _
    rw [inductionHypothesis]
    simp

theorem unlines_singleton (part : Text) : unlines [part] = part := by
  simp [unlines, join]

theorem unlines_append_singleton (parts : List Text) (last : Text) :
    unlines (parts ++ [last]) = ended parts ++ last := by
  rw [unlines_append parts (List.cons_ne_nil last []), unlines_singleton]

theorem unlines_cons (part : Text) {parts : List Text} (nonempty : parts ≠ []) :
    unlines (part :: parts) = part ++ '\n' :: unlines parts := by
  have split := unlines_append [part] nonempty
  rwa [ended_cons, ended_nil, List.append_assoc] at split

theorem unlines_append_eq {left right : List Text} (first : left ≠ []) (second : right ≠ []) :
    unlines (left ++ right) = unlines left ++ '\n' :: unlines right := by
  induction left with
  | nil => exact absurd rfl first
  | cons part left inductionHypothesis =>
    by_cases last : left = []
    · rw [last, unlines_singleton]
      exact unlines_cons part second
    · rw [List.cons_append, unlines_cons part (List.append_ne_nil_of_left_ne_nil last right),
        inductionHypothesis last, unlines_cons part last, List.append_assoc]
      rfl

/-- Joining texts adds only separators. -/
theorem mem_join {c separator : Char} (other : c ≠ separator) {parts : List Text} :
    c ∈ join [separator] parts ↔ ∃ part ∈ parts, c ∈ part := by
  induction parts with
  | nil => simp [join]
  | cons part parts inductionHypothesis =>
    by_cases last : parts = []
    · simp [last, join]
    · rw [join] at inductionHypothesis
      simp [join, List.intercalate_cons_of_ne_nil last, inductionHypothesis, other]

/-- Joining lines adds only line breaks. -/
theorem mem_unlines {c : Char} (other : c ≠ '\n') {parts : List Text} :
    c ∈ unlines parts ↔ ∃ part ∈ parts, c ∈ part := mem_join other

/-- Cutting a text adds nothing. -/
theorem mem_of_mem_splitOn {c separator : Char} {part text : Text}
    (member : part ∈ splitOn separator text) (inPart : c ∈ part) : c ∈ text := by
  have other : c ≠ separator := by
    rintro rfl
    simpa using isCut_of_mem_splitWhere member inPart
  rw [← join_splitOn separator text, mem_join other]
  exact ⟨part, member, inPart⟩

theorem mem_of_mem_lines {c : Char} {line text : Text} (member : line ∈ lines text)
    (inLine : c ∈ line) : c ∈ text := mem_of_mem_splitOn member inLine

/-- Lines may be joined in groups first. -/
theorem unlines_map_unlines {groups : List (List Text)} (nonempty : ∀ group ∈ groups, group ≠ []) :
    unlines (groups.map unlines) = unlines groups.flatten := by
  induction groups with
  | nil => rfl
  | cons group groups inductionHypothesis =>
    rw [List.forall_mem_cons] at nonempty
    cases groups with
    | nil => simp [unlines_singleton]
    | cons next groups =>
      have later : (next :: groups).flatten ≠ [] :=
        List.append_ne_nil_of_left_ne_nil (nonempty.2 next List.mem_cons_self) groups.flatten
      rw [List.flatten_cons, unlines_append_eq nonempty.1 later, List.map_cons,
        unlines_cons _ (by simp), inductionHypothesis nonempty.2]

/-- The lines of joined texts are the lines of each. -/
theorem lines_unlines_eq_flatMap {parts : List Text} (nonempty : parts ≠ []) :
    lines (unlines parts) = parts.flatMap lines := by
  induction parts with
  | nil => exact absurd rfl nonempty
  | cons part parts inductionHypothesis =>
    by_cases last : parts = []
    · rw [last, unlines_singleton, List.flatMap_singleton]
    · rw [unlines_cons part last, lines_append_break, inductionHypothesis last, List.flatMap_cons]

/-! ### Line breaks -/

theorem joinBreaks_of_not_mem {text : Text} (single : '\r' ∉ text) : joinBreaks text = text := by
  induction text with
  | nil => rfl
  | cons c text inductionHypothesis =>
    rw [List.mem_cons, not_or] at single
    rw [joinBreaks, inductionHypothesis single.2]
    rintro rest rfl
    exact absurd rfl single.1

theorem replaceChar_of_not_mem {old : Char} (new : Char) {text : Text} (none' : old ∉ text) :
    replaceChar old new text = text := by
  have each : ∀ c ∈ text, (if c = old then new else c) = c := by
    intro c member
    rw [if_neg]
    rintro rfl
    exact none' member
  rw [replaceChar, List.map_congr_left each, List.map_id']

/-- A text without carriage returns is normal. -/
theorem normalizeBreaks_of_not_mem {text : Text} (single : '\r' ∉ text) :
    normalizeBreaks text = text := by
  rw [normalizeBreaks, joinBreaks_of_not_mem single, replaceChar_of_not_mem _ single]

/-! ### Trimming -/

theorem trim_eq_rdropWhile (text : Text) :
    trim text = (text.dropWhile isBlank).rdropWhile isBlank := rfl

@[simp]
theorem trim_nil : trim [] = [] := rfl

theorem trim_append_left {blanks : Text} (blank : ∀ c ∈ blanks, isBlank c) (text : Text) :
    trim (blanks ++ text) = trim text := by
  rw [trim_eq_rdropWhile, List.dropWhile_append_of_pos blank, trim_eq_rdropWhile]

theorem trim_blank_cons (text : Text) : trim (' ' :: text) = trim text := rfl

theorem trim_of_blank {text : Text} (blank : ∀ c ∈ text, isBlank c) : trim text = [] := by
  have := trim_append_left blank []
  rwa [List.append_nil] at this

theorem trim_append_right {blanks : Text} (text : Text) (blank : ∀ c ∈ blanks, isBlank c) :
    trim (text ++ blanks) = trim text := by
  by_cases nothing : ∀ c ∈ text, isBlank c
  · rw [trim_append_left nothing, trim_of_blank blank, trim_of_blank nothing]
  · have stays : text.dropWhile isBlank ≠ [] := by
      rwa [Ne, List.dropWhile_eq_nil_iff]
    rw [trim_eq_rdropWhile, trim_eq_rdropWhile, List.dropWhile_append,
      if_neg (by rwa [List.isEmpty_iff]), List.rdropWhile, List.reverse_append,
      List.dropWhile_append_of_pos fun c member => blank c (List.mem_reverse.1 member)]
    rfl

/-- A text is its trimmed form between blanks. -/
theorem exists_trim (text : Text) : ∃ before after, text = before ++ trim text ++ after ∧
    (∀ c ∈ before, isBlank c) ∧ ∀ c ∈ after, isBlank c := by
  refine ⟨text.takeWhile isBlank, (text.dropWhile isBlank).rtakeWhile isBlank, ?_,
    fun c member => List.mem_takeWhile_imp member, fun c member => List.mem_rtakeWhile_imp member⟩
  rw [List.append_assoc, trim_eq_rdropWhile, List.rdropWhile_append_rtakeWhile,
    List.takeWhile_append_dropWhile]

theorem trim_eq_nil_iff {text : Text} : trim text = [] ↔ isBlankText text := by
  constructor
  · intro empty
    obtain ⟨before, after, same, blankBefore, blankAfter⟩ := exists_trim text
    rw [empty, List.append_nil] at same
    refine List.all_eq_true.2 fun c member => ?_
    rw [same] at member
    exact (List.mem_append.1 member).elim (blankBefore c) (blankAfter c)
  · intro blank
    exact trim_of_blank (List.all_eq_true.1 blank)

theorem dropEnd_dropEnd (drop : Char → Bool) (text : Text) :
    dropEnd drop (dropEnd drop text) = dropEnd drop text := by
  rw [dropEnd, dropEnd, List.reverse_reverse, List.dropWhile_idempotent]

theorem isPrefix_dropEnd (drop : Char → Bool) (text : Text) : dropEnd drop text <+: text := by
  rw [dropEnd, ← List.reverse_suffix, List.reverse_reverse]
  exact List.dropWhile_suffix _

theorem mem_of_mem_dropEnd {drop : Char → Bool} {c : Char} {text : Text}
    (member : c ∈ dropEnd drop text) : c ∈ text :=
  (isPrefix_dropEnd drop text).subset member

theorem mem_of_mem_trim {c : Char} {text : Text} (member : c ∈ trim text) : c ∈ text := by
  obtain ⟨before, after, same, -⟩ := exists_trim text
  rw [same]
  exact List.mem_append_left _ (List.mem_append_right _ member)

section Ends

variable {drop : Char → Bool} {text : Text}

theorem dropStart_eq_self (first : ∀ c ∈ text.head?, drop c = false) : dropStart drop text = text := by
  cases text with
  | nil => rfl
  | cons c text => exact List.dropWhile_cons_of_neg (by simp [first c rfl])

theorem dropEnd_eq_self (last : ∀ c ∈ text.getLast?, drop c = false) : dropEnd drop text = text := by
  rw [← List.head?_reverse] at last
  exact (congrArg List.reverse (dropStart_eq_self last)).trans (List.reverse_reverse text)

theorem eq_false_of_mem_head?_dropStart {c : Char} (found : c ∈ (dropStart drop text).head?) :
    drop c = false := by
  have stops := List.head?_dropWhile_not drop text
  rw [← dropStart, Option.mem_def.1 found] at stops
  simpa using stops

theorem eq_false_of_mem_getLast?_dropEnd {c : Char} (found : c ∈ (dropEnd drop text).getLast?) :
    drop c = false := by
  rw [dropEnd, List.getLast?_reverse] at found
  exact eq_false_of_mem_head?_dropStart found

end Ends

theorem trimStart_append {blanks rest : Text} (blank : ∀ c ∈ blanks, isBlank c)
    (first : ∀ c ∈ rest.head?, isBlank c = false) : trimStart (blanks ++ rest) = rest := by
  rw [trimStart, dropStart, List.dropWhile_append_of_pos blank]
  exact dropStart_eq_self first

theorem takeWhile_append_trimStart (text : Text) : text.takeWhile isBlank ++ trimStart text = text :=
  List.takeWhile_append_dropWhile

theorem sublist_trim (text : Text) : (trim text).Sublist text :=
  (isPrefix_dropEnd isBlank _).sublist.trans (List.dropWhile_sublist isBlank)

/-- A text is trimmed if no blank stands at either end of it. -/
theorem trim_eq_self {text : Text} (first : ∀ c ∈ text.head?, isBlank c = false)
    (last : ∀ c ∈ text.getLast?, isBlank c = false) : trim text = text := by
  rw [trim, dropEnds, dropStart_eq_self first, dropEnd_eq_self last]

theorem isBlank_head_trim {text : Text} : ∀ c ∈ (trim text).head?, isBlank c = false := by
  intro c found
  obtain ⟨rest, same⟩ := isPrefix_dropEnd isBlank (dropStart isBlank text)
  have start : c ∈ (dropStart isBlank text).head? := by
    rw [← same, List.head?_append]
    exact Option.mem_def.2 (congrArg (Option.or · rest.head?) (Option.mem_def.1 found))
  exact eq_false_of_mem_head?_dropStart start

theorem isBlank_getLast_trim {text : Text} : ∀ c ∈ (trim text).getLast?, isBlank c = false :=
  fun _ => eq_false_of_mem_getLast?_dropEnd

/-- Trimming takes nothing from a word at the end of a text. -/
theorem trim_append_word (before : Text) {word : Text} (nonempty : word ≠ [])
    (first : ∀ c ∈ word.head?, isBlank c = false)
    (last : ∀ c ∈ word.getLast?, isBlank c = false) :
    trim (before ++ word) = before.dropWhile isBlank ++ word := by
  have split := List.takeWhile_append_dropWhile (p := isBlank) (l := before)
  have same : trim (before ++ word) = trim (before.dropWhile isBlank ++ word) := by
    have blank : ∀ c ∈ before.takeWhile isBlank, isBlank c := fun c => List.mem_takeWhile_imp
    have whole := trim_append_left blank (before.dropWhile isBlank ++ word)
    rwa [← List.append_assoc, split] at whole
  rw [same]
  refine trim_eq_self (fun c found => ?_) fun c found => ?_
  · cases start : before.dropWhile isBlank with
    | nil =>
      rw [start] at found
      exact first c found
    | cons d rest =>
      rw [start] at found
      obtain rfl := Option.some.inj found
      have stops := List.head?_dropWhile_not isBlank before
      rw [start] at stops
      simpa using stops
  · rw [List.getLast?_append_of_ne_nil _ nonempty] at found
    exact last c found

@[simp]
theorem trim_trim (text : Text) : trim (trim text) = trim text :=
  trim_eq_self isBlank_head_trim isBlank_getLast_trim

/-! ### Padding -/

/-- A line as it may be written: with blanks around it. -/
def Padded (line written : Text) : Prop :=
  ∃ before after, written = before ++ line ++ after ∧
    ∀ c ∈ before ++ after, isBlank c ∧ c ≠ '\n'

theorem Padded.refl (line : Text) : Padded line line := ⟨[], [], by simp, by simp⟩

theorem Padded.trim_eq {line written : Text} (padded : Padded line written) :
    trim written = trim line := by
  obtain ⟨before, after, rfl, blank⟩ := padded
  rw [List.forall_mem_append] at blank
  rw [trim_append_right _ fun c member => (blank.2 c member).1,
    trim_append_left fun c member => (blank.1 c member).1]

theorem Padded.break_not_mem {line written : Text} (padded : Padded line written)
    (single : '\n' ∉ line) : '\n' ∉ written := by
  obtain ⟨before, after, rfl, blank⟩ := padded
  rw [List.forall_mem_append] at blank
  simp only [List.mem_append, not_or]
  exact ⟨⟨fun member => (blank.1 _ member).2 rfl, single⟩, fun member => (blank.2 _ member).2 rfl⟩

/-! ### Trimmed lines -/

/-- The lines of a text without the blanks around them. -/
def trimmedLines (text : Text) : List Text := (lines text).map trim

theorem trimmedLines_append_break (before after : Text) :
    trimmedLines (before ++ '\n' :: after) = trimmedLines before ++ trimmedLines after := by
  rw [trimmedLines, lines_append_break, List.map_append]
  rfl

theorem trimmedLines_of_not_mem {line : Text} (single : '\n' ∉ line) :
    trimmedLines line = [trim line] := by
  rw [trimmedLines, lines_of_not_mem single]
  rfl

/-- The first line break of a text stands between two shorter texts. -/
theorem exists_break {text : Text} (member : '\n' ∈ text) :
    ∃ before after, text = before ++ '\n' :: after ∧ '\n' ∉ before ∧
      after.length < text.length := by
  obtain ⟨before, after, same, first⟩ := List.eq_append_cons_of_mem member
  refine ⟨before, after, same, first, ?_⟩
  rw [same, List.length_append, List.length_cons]
  omega

/-- The blanks before a text add only empty lines to its trimmed ones. -/
theorem exists_trimmedLines_blank_append {blanks : Text} (blank : ∀ c ∈ blanks, isBlank c)
    (text : Text) :
    ∃ count, trimmedLines (blanks ++ text) = List.replicate count [] ++ trimmedLines text := by
  induction blanks with
  | nil => exact ⟨0, rfl⟩
  | cons c blanks inductionHypothesis =>
    obtain ⟨count, found⟩ := inductionHypothesis fun d member =>
      blank d (List.mem_cons_of_mem _ member)
    by_cases same : c = '\n'
    · refine ⟨count + 1, ?_⟩
      subst same
      have := trimmedLines_append_break [] (blanks ++ text)
      rw [List.cons_append, List.replicate_succ, List.cons_append, ← found]
      exact this
    · refine ⟨count, ?_⟩
      rw [← found, trimmedLines, trimmedLines, List.cons_append, lines_eq_splitOn,
        List.splitOn_cons_eq_if_modifyHead, if_neg (by simpa using same), ← lines_eq_splitOn]
      cases shape : lines (blanks ++ text) with
      | nil => exact absurd shape (lines_ne_nil _)
      | cons first others =>
        rw [List.modifyHead_cons, List.map_cons, List.map_cons]
        have single : ∀ d ∈ [c], isBlank d := by
          intro d member
          rw [List.mem_singleton.1 member]
          exact blank c List.mem_cons_self
        exact congrArg (· :: others.map trim) (trim_append_left single first)

theorem exists_trimmedLines_of_blank {blanks : Text} (blank : ∀ c ∈ blanks, isBlank c) :
    ∃ count, trimmedLines blanks = List.replicate count [] := by
  obtain ⟨count, found⟩ := exists_trimmedLines_blank_append blank []
  rw [List.append_nil] at found
  exact ⟨count + 1, by rw [found, List.replicate_succ']; rfl⟩

/-- The blanks after a text add only empty lines to its trimmed ones. -/
theorem exists_trimmedLines_append_blank {blanks : Text} (blank : ∀ c ∈ blanks, isBlank c)
    (text : Text) :
    ∃ count, trimmedLines (text ++ blanks) = trimmedLines text ++ List.replicate count [] := by
  by_cases several : '\n' ∈ text
  · obtain ⟨before, after, same, -, shorter⟩ := exists_break several
    obtain ⟨count, found⟩ := exists_trimmedLines_append_blank blank after
    refine ⟨count, ?_⟩
    rw [same, List.append_assoc, List.cons_append, trimmedLines_append_break, found,
      trimmedLines_append_break, List.append_assoc]
  · by_cases broken : '\n' ∈ blanks
    · obtain ⟨before, after, same, first, -⟩ := exists_break broken
      rw [same] at blank
      obtain ⟨count, found⟩ := exists_trimmedLines_of_blank fun c member =>
        blank c (List.mem_append_right _ (List.mem_cons_of_mem _ member))
      refine ⟨count, ?_⟩
      rw [same, ← List.append_assoc, trimmedLines_append_break, found,
        trimmedLines_of_not_mem (by simp [several, first]), trimmedLines_of_not_mem several,
        trim_append_right text fun c member => blank c (List.mem_append_left _ member)]
    · refine ⟨0, ?_⟩
      rw [trimmedLines_of_not_mem (by simp [several, broken]), trimmedLines_of_not_mem several,
        trim_append_right text blank]
      rfl
termination_by text.length

/-- Trimming a text takes nothing from its trimmed lines but empty ones around them. -/
theorem exists_trimmedLines_trim (text : Text) : ∃ before after,
    trimmedLines text =
      List.replicate before [] ++ trimmedLines (trim text) ++ List.replicate after [] := by
  obtain ⟨start, stop, same, blankStart, blankStop⟩ := exists_trim text
  obtain ⟨before, found⟩ := exists_trimmedLines_blank_append blankStart (trim text ++ stop)
  obtain ⟨after, inner⟩ := exists_trimmedLines_append_blank blankStop (trim text)
  refine ⟨before, after, ?_⟩
  rw [List.append_assoc, ← inner, ← found, ← List.append_assoc, ← same]

/-- What the lines of a text say does not depend on the blanks around it, as long as an empty
line says nothing. -/
theorem filterMap_trimmedLines_trim {Meaning : Type} (read : Text → Option Meaning)
    (silent : read [] = none) (text : Text) :
    (trimmedLines (trim text)).filterMap read = (trimmedLines text).filterMap read := by
  obtain ⟨before, after, same⟩ := exists_trimmedLines_trim text
  have nothing : ∀ count, (List.replicate count []).filterMap read = [] := by
    intro count
    rw [List.filterMap_replicate_of_none silent]
  rw [same, List.filterMap_append, List.filterMap_append, nothing, nothing, List.nil_append,
    List.append_nil]

end CampaignPress.Text
