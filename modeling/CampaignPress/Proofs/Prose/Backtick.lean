/-
This file compares the code that is hidden from the passes over prose with the
code of markdown. Markdown reads a text as characters and maximal runs of
backticks: a run begins code if another run of its length follows, however far,
and is text as a whole otherwise. The hiding looks for the closing run on the
line alone, and where it finds none it tries the run again without its first
backtick. So the two agree exactly if no code goes beyond its line, and no run
that is text has a shorter one behind it on its line.
-/
import CampaignPress.Proofs.Prose.Template

namespace CampaignPress

namespace CodeSpan

/-! ### Runs of backticks -/

/-- A maximal run of backticks, or another character. -/
inductive Mark where
  | run (length : Nat)
  | char (c : Char)
  deriving DecidableEq, Repr

namespace Mark

def toText : Mark → Text
  | .run length => List.replicate length '`'
  | .char c => [c]

/-- The characters and runs of a text. -/
def ofText : Text → List Mark
  | [] => []
  | c :: rest =>
    if c = '`' then
      match ofText rest with
      | .run length :: later => .run (length + 1) :: later
      | later => .run 1 :: later
    else .char c :: ofText rest

/-- What is before the next run of a length, and what is behind it. -/
def cutRun? (length : Nat) : List Mark → Option (List Mark × List Mark)
  | [] => none
  | mark :: rest =>
    if mark = .run length then some ([], rest)
    else (cutRun? length rest).map fun (before, after) => (mark :: before, after)

theorem cutRun?_eq_some_iff {length : Nat} {marks before after : List Mark} :
    cutRun? length marks = some (before, after) ↔
      marks = before ++ .run length :: after ∧ .run length ∉ before := by
  induction marks generalizing before with
  | nil => simp [cutRun?]
  | cons mark rest inductionHypothesis =>
    rw [cutRun?]
    by_cases here : mark = .run length
    · rw [if_pos here, Option.some.injEq, Prod.mk.injEq]
      constructor
      · rintro ⟨rfl, rfl⟩
        exact ⟨congrArg (· :: rest) here, List.not_mem_nil⟩
      · rintro ⟨same, absent⟩
        cases before with
        | nil => exact ⟨rfl, (List.cons.inj same).2⟩
        | cons first before =>
          exact absurd (here ▸ (List.cons.inj same).1 ▸ List.mem_cons_self) absent
    · rw [if_neg here, Option.map_eq_some_iff]
      constructor
      · rintro ⟨⟨before', after'⟩, found, same⟩
        obtain ⟨rfl, rfl⟩ := Prod.mk.inj same
        obtain ⟨rfl, absent⟩ := inductionHypothesis.1 found
        exact ⟨rfl, by simp [Ne.symm here, absent]⟩
      · rintro ⟨same, absent⟩
        cases before with
        | nil => exact absurd (List.cons.inj same).1 here
        | cons first before =>
          obtain ⟨rfl, rfl⟩ := List.cons.inj same
          exact ⟨(before, after),
            inductionHypothesis.2 ⟨rfl, fun member => absent (List.mem_cons_of_mem _ member)⟩, rfl⟩

theorem cutRun?_eq_none_iff {length : Nat} {marks : List Mark} :
    cutRun? length marks = none ↔ .run length ∉ marks := by
  induction marks with
  | nil => simp [cutRun?]
  | cons mark rest inductionHypothesis =>
    rw [cutRun?]
    split
    · rename_i here
      simp [here]
    · rename_i other
      rw [Option.map_eq_none_iff, inductionHypothesis, List.mem_cons, not_or]
      exact (and_iff_right (Ne.symm other)).symm

theorem length_cutRun? {length : Nat} {marks before after : List Mark}
    (found : cutRun? length marks = some (before, after)) : after.length < marks.length := by
  rw [(cutRun?_eq_some_iff.1 found).1, List.length_append, List.length_cons]
  omega

end Mark

/-! ### The code of markdown -/

/-- A character, a run of backticks that is text, or code between two runs of one length. -/
inductive Piece where
  | char (c : Char)
  | run (length : Nat)
  | code (length : Nat) (inside : List Mark)
  deriving DecidableEq, Repr

namespace Piece

def marks : Piece → List Mark
  | .char c => [.char c]
  | .run length => [.run length]
  | .code length inside => .run length :: inside ++ [.run length]

def toText (piece : Piece) : Text := piece.marks.flatMap Mark.toText

@[simp]
theorem toText_char (c : Char) : (Piece.char c).toText = [c] := rfl

@[simp]
theorem toText_run (length : Nat) : (Piece.run length).toText = List.replicate length '`' :=
  List.flatMap_singleton _ _

@[simp]
theorem toText_code (length : Nat) (inside : List Mark) : (Piece.code length inside).toText =
    List.replicate length '`' ++ (inside.flatMap Mark.toText ++ List.replicate length '`') := by
  rw [toText, marks, List.flatMap_append, List.flatMap_cons, List.flatMap_singleton, Mark.toText,
    List.append_assoc]

/-- The pieces of a text from left to right: a run begins code if another one of its length
follows, and is text otherwise. -/
def ofMarks : List Mark → List Piece
  | [] => []
  | .char c :: rest => .char c :: ofMarks rest
  | .run length :: rest =>
    match _found : Mark.cutRun? length rest with
    | some (inside, after) => .code length inside :: ofMarks after
    | none => .run length :: ofMarks rest
termination_by marks => marks.length
decreasing_by
  · simp
  · exact (Mark.length_cutRun? _found).trans (Nat.lt_succ_self _)
  · simp

def ofText (text : Text) : List Piece := ofMarks (Mark.ofText text)

/-- The text with placeholders for its code, counted from `first`, and the code. -/
def hideFrom (first : Nat) : List Piece → Text × List Text
  | [] => ([], [])
  | .code length inside :: rest =>
    let (text, spans) := hideFrom (first + 1) rest
    (placeholder first ++ text, (Piece.code length inside).toText :: spans)
  | piece :: rest =>
    let (text, spans) := hideFrom first rest
    (piece.toText ++ text, spans)

/-- What is left of the line before pieces. -/
def line (pieces : List Piece) : List Mark :=
  (pieces.flatMap marks).takeWhile (· ≠ .char '\n')

/-- Code does not go beyond its line, and a run that is text has no shorter one behind it on its
line. -/
def StaysOnLine (after : List Piece) : Piece → Prop
  | .char _ => True
  | .run length => ∀ shorter < length, .run shorter ∉ line after
  | .code _ inside => .char '\n' ∉ inside

/-- Every piece stays on its line. -/
def AllStayOnLine (pieces : List Piece) : Prop :=
  ∀ piece after, piece :: after <:+ pieces → piece.StaysOnLine after

variable {piece : Piece} {rest : List Piece}

@[simp]
theorem allStayOnLine_nil : AllStayOnLine [] := fun _ _ suffix => nomatch List.suffix_nil.1 suffix

@[simp]
theorem allStayOnLine_cons :
    AllStayOnLine (piece :: rest) ↔ piece.StaysOnLine rest ∧ AllStayOnLine rest := by
  constructor
  · exact fun all => ⟨all piece rest List.suffix_rfl, fun later after suffix =>
      all later after (suffix.trans (List.suffix_cons piece rest))⟩
  · rintro ⟨here, all⟩ later after suffix
    rcases List.suffix_cons_iff.1 suffix with same | suffix
    · obtain ⟨rfl, rfl⟩ := List.cons.inj same
      exact here
    · exact all later after suffix

end Piece

/-! ### Runs of a text -/

namespace Mark

theorem ofText_cons {c : Char} (other : c ≠ '`') (rest : Text) :
    ofText (c :: rest) = .char c :: ofText rest := if_neg other

theorem ofText_replicate_append (length : Nat) {rest : Text} (ends : rest.head? ≠ some '`') :
    ofText (List.replicate (length + 1) '`' ++ rest) = .run (length + 1) :: ofText rest := by
  induction length with
  | zero =>
    cases rest with
    | nil => rfl
    | cons c rest =>
      have other : c ≠ '`' := fun same => ends (congrArg some same)
      simp [ofText, other]
  | succ length inductionHypothesis =>
    rw [List.replicate_succ, List.cons_append, ofText, if_pos rfl, inductionHypothesis]

theorem exists_run (text : Text) :
    ∃ length rest, text = List.replicate length '`' ++ rest ∧ rest.head? ≠ some '`' := by
  induction text with
  | nil => exact ⟨0, [], rfl, nofun⟩
  | cons c rest inductionHypothesis =>
    by_cases same : c = '`'
    · obtain ⟨length, later, rfl, ends⟩ := inductionHypothesis
      exact ⟨length + 1, later, congrArg (· :: _) same, ends⟩
    · exact ⟨0, c :: rest, rfl, fun first => same (Option.some.inj first)⟩

section Run

variable (length : Nat) {rest : Text} (ends : rest.head? ≠ some '`')
include ends

theorem takeWhile_run :
    (List.replicate length '`' ++ rest).takeWhile (· = '`') = List.replicate length '`' := by
  rw [List.takeWhile_append_of_pos (by simp)]
  cases rest with
  | nil => exact List.append_nil _
  | cons c rest => rw [List.takeWhile_cons_of_neg (by simpa using ends), List.append_nil]

theorem dropWhile_run : (List.replicate length '`' ++ rest).dropWhile (· = '`') = rest := by
  rw [List.dropWhile_append_of_pos (by simp)]
  cases rest with
  | nil => rfl
  | cons c rest => exact List.dropWhile_cons_of_neg (by simpa using ends)

end Run

/-- Every text is empty, or begins with another character or with a maximal run. -/
theorem induction {motive : Text → Prop} (nil : motive [])
    (char : ∀ c rest, c ≠ '`' → motive rest → motive (c :: rest))
    (run : ∀ length rest, rest.head? ≠ some '`' →
      (∀ later : Text, later.length ≤ rest.length → motive later) →
        motive (List.replicate (length + 1) '`' ++ rest)) (text : Text) : motive text := by
  induction size : text.length using Nat.strongRecOn generalizing text with
  | ind size inductionHypothesis =>
    cases text with
    | nil => exact nil
    | cons c rest =>
      by_cases same : c = '`'
      · obtain ⟨length, after, rfl, ends⟩ := exists_run rest
        subst same
        refine run length after ends fun later shorter => inductionHypothesis _ ?_ later rfl
        simp only [List.length_cons, List.length_append] at size
        omega
      · exact char c rest same (inductionHypothesis _ (by simp [← size]) rest rfl)

theorem flatMap_toText_ofText (text : Text) : (ofText text).flatMap toText = text := by
  induction text using induction with
  | nil => rfl
  | char c rest other inductionHypothesis =>
    rw [ofText_cons other, List.flatMap_cons, inductionHypothesis]
    rfl
  | run length rest ends inductionHypothesis =>
    rw [ofText_replicate_append length ends, List.flatMap_cons,
      inductionHypothesis rest (Nat.le_refl _)]
    rfl

theorem pos_of_run_mem {length : Nat} {text : Text} (member : .run length ∈ ofText text) :
    0 < length := by
  induction text using induction with
  | nil => exact nomatch member
  | char c rest other inductionHypothesis =>
    rw [ofText_cons other, List.mem_cons] at member
    exact inductionHypothesis (member.resolve_left nofun)
  | run length' rest ends inductionHypothesis =>
    rw [ofText_replicate_append length' ends, List.mem_cons] at member
    rcases member with same | member
    · exact Mark.run.inj same ▸ Nat.succ_pos length'
    · exact inductionHypothesis rest (Nat.le_refl _) member

/-! ### The next run on a line -/

/-- What is before the next run of a length on the line, and what is behind it. -/
def cutOnLine? (length : Nat) (marks : List Mark) : Option (List Mark × List Mark) :=
  (cutRun? length marks).filter fun (before, _) => .char '\n' ∉ before

section OnLine

variable {length : Nat} {mark : Mark} {rest : List Mark}

theorem cutOnLine?_run : cutOnLine? length (.run length :: rest) = some ([], rest) := by
  rw [cutOnLine?, cutRun?, if_pos rfl]
  rfl

theorem cutOnLine?_break : cutOnLine? length (.char '\n' :: rest) = none := by
  rw [cutOnLine?, cutRun?, if_neg nofun]
  cases cutRun? length rest <;> simp [Option.filter]

theorem cutOnLine?_cons (other : mark ≠ .run length) (sameLine : mark ≠ .char '\n') :
    cutOnLine? length (mark :: rest) =
      (cutOnLine? length rest).map fun (before, after) => (mark :: before, after) := by
  rw [cutOnLine?, cutRun?, if_neg other, cutOnLine?]
  cases cutRun? length rest with
  | none => rfl
  | some found =>
    by_cases inside : Mark.char '\n' ∈ found.1 <;> simp [Option.filter, Ne.symm sameLine, inside]

theorem cutOnLine?_eq_none_iff {marks : List Mark} :
    cutOnLine? length marks = none ↔ .run length ∉ marks.takeWhile (· ≠ .char '\n') := by
  induction marks with
  | nil => simp [cutOnLine?, cutRun?]
  | cons mark rest inductionHypothesis =>
    by_cases here : mark = .run length
    · simp [here, cutOnLine?_run]
    · by_cases ends : mark = .char '\n'
      · simp [ends, cutOnLine?_break]
      · rw [cutOnLine?_cons here ends, Option.map_eq_none_iff, inductionHypothesis,
          List.takeWhile_cons_of_pos (by simpa using ends), List.mem_cons, not_or]
        exact (and_iff_right (Ne.symm here)).symm

end OnLine

end Mark

/-! ### The code that the passes do not see -/

/-- The text of code from behind its first run on, and what is behind the code. -/
def closed (length : Nat) (cut : List Mark × List Mark) : Text × List Mark :=
  (cut.1.flatMap Mark.toText ++ List.replicate length '`', cut.2)

/-- A run of another length is passed over. -/
theorem map_cutOnLine?_of_ne {length run : Nat} (other : run ≠ length) {text : Text}
    (ends : text.head? ≠ some '`') :
    (Mark.cutOnLine? length (Mark.ofText (List.replicate run '`' ++ text))).map (closed length) =
      ((Mark.cutOnLine? length (Mark.ofText text)).map (closed length)).map
        fun (inside, after) => (List.replicate run '`' ++ inside, after) := by
  cases run with
  | zero => simp [Function.comp_def]
  | succ run =>
    rw [Mark.ofText_replicate_append run ends,
      Mark.cutOnLine?_cons (fun same => other (Mark.run.inj same)) nofun]
    simp [Function.comp_def, closed, Mark.toText]

/-- The hiding looks for the next run of a length on the line. -/
theorem map_cutCloser? {length : Nat} (some_length : length ≠ 0) (run : Nat) (text : Text) :
    (cutCloser? length run text).map
        (fun (inside, after) => (List.replicate run '`' ++ inside, Mark.ofText after)) =
      (Mark.cutOnLine? length (Mark.ofText (List.replicate run '`' ++ text))).map
        (closed length) := by
  have found {text : Text} (ends : text.head? ≠ some '`') :
      (Mark.cutOnLine? length (Mark.ofText (List.replicate length '`' ++ text))).map
        (closed length) = some (List.replicate length '`', Mark.ofText text) := by
    obtain ⟨shorter, rfl⟩ := Nat.exists_eq_succ_of_ne_zero some_length
    rw [Nat.succ_eq_add_one, Mark.ofText_replicate_append shorter ends, Mark.cutOnLine?_run]
    rfl
  -- The backticks that were just passed are put back before the text, so that both sides read the
  -- same run whole.
  induction text generalizing run with
  | nil =>
    rw [cutCloser?]
    by_cases here : run = length
    · rw [if_pos here, here, found (by simp)]
      simp
    · rw [if_neg here, map_cutOnLine?_of_ne here (by simp)]
      rfl
  | cons c rest inductionHypothesis =>
    by_cases same : c = '`'
    · have longer : List.replicate run '`' ++ c :: rest = List.replicate (run + 1) '`' ++ rest := by
        rw [same, List.replicate_succ', List.append_assoc]
        rfl
      rw [longer, ← inductionHypothesis (run + 1), cutCloser?, if_pos same, Option.map_map]
      simp [Function.comp_def, List.replicate_succ']
    · have ends : (c :: rest).head? ≠ some '`' := fun first => same (Option.some.inj first)
      rw [cutCloser?, if_neg same]
      by_cases here : run = length
      · rw [if_pos here, here, found ends]
        simp
      · rw [if_neg here, map_cutOnLine?_of_ne here ends, Mark.ofText_cons same]
        by_cases broken : c = '\n'
        · rw [if_pos broken, broken, Mark.cutOnLine?_break]
          rfl
        · have later := inductionHypothesis 0
          simp only [List.replicate_zero, List.nil_append] at later
          have next : (Mark.cutOnLine? length (.char c :: Mark.ofText rest)).map (closed length) =
              ((Mark.cutOnLine? length (Mark.ofText rest)).map (closed length)).map
                fun (inside, after) => (c :: inside, after) := by
            rw [Mark.cutOnLine?_cons (by simp) (by simpa using broken), Option.map_map,
              Option.map_map]
            rfl
          rw [if_neg broken, next, ← later]
          simp [Function.comp_def]

theorem cutCloser?_eq_none_iff {length : Nat} (some_length : length ≠ 0) {text : Text} :
    cutCloser? length 0 text = none ↔
      .run length ∉ (Mark.ofText text).takeWhile (· ≠ .char '\n') := by
  have same := congrArg Option.isNone (map_cutCloser? some_length 0 text)
  rw [Option.isNone_map, Option.isNone_map, Bool.eq_iff_iff, Option.isNone_iff_eq_none,
    Option.isNone_iff_eq_none] at same
  exact same.trans Mark.cutOnLine?_eq_none_iff

theorem exists_cutCloser? {length : Nat} (some_length : length ≠ 0) {text : Text}
    {inside after : List Mark} (found : Mark.cutRun? length (Mark.ofText text) = some (inside, after))
    (sameLine : .char '\n' ∉ inside) :
    ∃ later, cutCloser? length 0 text =
      some (inside.flatMap Mark.toText ++ List.replicate length '`', later) ∧
        Mark.ofText later = after := by
  have same := map_cutCloser? some_length 0 text
  have onLine : Mark.cutOnLine? length (Mark.ofText text) = some (inside, after) := by
    rw [Mark.cutOnLine?, found]
    simp [Option.filter, sameLine]
  simp only [List.replicate_zero, List.nil_append] at same
  rw [onLine] at same
  obtain ⟨⟨_, later⟩, cut, equal⟩ := Option.map_eq_some_iff.1 same
  obtain ⟨rfl, behind⟩ := Prod.mk.inj equal
  exact ⟨later, cut, behind⟩

/-- A run is not closed on its line if code goes beyond it. -/
theorem cutCloser?_of_break {length : Nat} (some_length : length ≠ 0) {text : Text}
    {inside after : List Mark} (found : Mark.cutRun? length (Mark.ofText text) = some (inside, after))
    (broken : .char '\n' ∈ inside) : cutCloser? length 0 text = none := by
  rw [cutCloser?_eq_none_iff some_length, ← Mark.cutOnLine?_eq_none_iff, Mark.cutOnLine?, found]
  simp [Option.filter, broken]

theorem cut?_of_ne {c : Char} (other : c ≠ '`') (rest : Text) : cut? (c :: rest) = none := by
  rw [cut?, List.takeWhile_cons_of_neg (by simpa using other)]
  rfl

theorem cut?_replicate_append (length : Nat) {rest : Text} (ends : rest.head? ≠ some '`') :
    cut? (List.replicate (length + 1) '`' ++ rest) =
      (cutCloser? (length + 1) 0 rest).map fun (inside, after) =>
        (List.replicate (length + 1) '`' ++ inside, after) := by
  rw [cut?, Mark.takeWhile_run (length + 1) ends, Mark.dropWhile_run (length + 1) ends,
    List.length_replicate]
  rfl

/-! ### Hiding a run -/

theorem hideFrom_of_ne {c : Char} (other : c ≠ '`') (first : Nat) (rest : Text) :
    hideFrom first (c :: rest) = (c :: (hideFrom first rest).1, (hideFrom first rest).2) :=
  hideFrom_of_none (cut?_of_ne other rest) first

section Run

variable {rest : Text} (ends : rest.head? ≠ some '`') (first : Nat)
include ends

/-- A run stays as it is if neither it nor a shorter one is closed. -/
theorem hideFrom_replicate_append {length : Nat}
    (unclosed : ∀ shorter < length, cutCloser? (shorter + 1) 0 rest = none) :
    hideFrom first (List.replicate length '`' ++ rest) =
      (List.replicate length '`' ++ (hideFrom first rest).1, (hideFrom first rest).2) := by
  induction length with
  | zero => rfl
  | succ length inductionHypothesis =>
    have none : cut? (List.replicate (length + 1) '`' ++ rest) = none := by
      rw [cut?_replicate_append length ends, unclosed length (Nat.lt_succ_self _)]
      rfl
    have later := inductionHypothesis fun shorter less =>
      unclosed shorter (less.trans (Nat.lt_succ_self _))
    rw [List.replicate_succ, List.cons_append] at none ⊢
    rw [hideFrom_of_none none, later]
    rfl

/-- If a run or a shorter one is closed, there is a placeholder among what stands for the run. -/
theorem unclosed_of_prefix {length : Nat} (kept : List.replicate length '`' <+:
      (hideFrom first (List.replicate length '`' ++ rest)).1) :
    ∀ shorter < length, cutCloser? (shorter + 1) 0 rest = none := by
  induction length with
  | zero => exact fun shorter less => absurd less (Nat.not_lt_zero _)
  | succ length inductionHypothesis =>
    have cut := cut?_replicate_append length ends
    cases closer : cutCloser? (length + 1) 0 rest with
    | none =>
      rw [closer, List.replicate_succ, List.cons_append] at cut
      rw [List.replicate_succ, List.cons_append, hideFrom_of_none cut, List.cons_prefix_cons] at kept
      intro shorter less
      rcases Nat.lt_succ_iff_lt_or_eq.1 less with less | rfl
      · exact inductionHypothesis kept.2 shorter less
      · exact closer
    | some found =>
      rw [closer, List.replicate_succ, List.cons_append] at cut
      rw [List.replicate_succ, List.cons_append, hideFrom_of_cut? cut, placeholder,
        List.cons_append, List.cons_append, List.cons_append, List.cons_prefix_cons] at kept
      exact absurd kept.1 (by decide)

end Run

namespace Piece

section OfMarks

variable {length : Nat} {rest : List Mark}

theorem ofMarks_of_some {inside after : List Mark}
    (found : Mark.cutRun? length rest = some (inside, after)) :
    ofMarks (.run length :: rest) = .code length inside :: ofMarks after := by
  rw [ofMarks]
  split
  · rename_i same
    obtain ⟨rfl, rfl⟩ := Prod.mk.inj (Option.some.inj (found.symm.trans same))
    rfl
  · rename_i none
    exact nomatch found.symm.trans none

theorem ofMarks_of_none (none : Mark.cutRun? length rest = none) :
    ofMarks (.run length :: rest) = .run length :: ofMarks rest := by
  rw [ofMarks]
  split
  · rename_i found
    exact nomatch none.symm.trans found
  · rfl

end OfMarks

theorem flatMap_marks_ofMarks (marks : List Mark) :
    (ofMarks marks).flatMap Piece.marks = marks := by
  fun_induction ofMarks marks with
  | case1 => rfl
  | case2 c rest inductionHypothesis => exact congrArg (.char c :: ·) inductionHypothesis
  | case3 length rest inside after found inductionHypothesis =>
    rw [List.flatMap_cons, inductionHypothesis, (Mark.cutRun?_eq_some_iff.1 found).1]
    simp [Piece.marks]
  | case4 length rest _ inductionHypothesis =>
    exact congrArg (.run length :: ·) inductionHypothesis

theorem line_ofText (text : Text) :
    line (ofText text) = (Mark.ofText text).takeWhile (· ≠ .char '\n') := by
  rw [line, ofText, flatMap_marks_ofMarks]

/-- The pieces are the text. -/
theorem flatMap_toText_ofText (text : Text) : (ofText text).flatMap toText = text := by
  have parts := congrArg (List.flatMap Mark.toText) (flatMap_marks_ofMarks (Mark.ofText text))
  rwa [List.flatMap_assoc, Mark.flatMap_toText_ofText] at parts

/-! ### The pieces of a text -/

@[simp]
theorem ofText_nil : ofText [] = [] := ofMarks.eq_1

theorem ofText_cons {c : Char} (other : c ≠ '`') (rest : Text) :
    ofText (c :: rest) = .char c :: ofText rest := by
  rw [ofText, Mark.ofText_cons other, ofMarks, ofText]

section Run

variable {length : Nat} {rest : Text} (ends : rest.head? ≠ some '`')
include ends

theorem ofText_of_cutRun? {inside after : List Mark}
    (found : Mark.cutRun? (length + 1) (Mark.ofText rest) = some (inside, after)) :
    ofText (List.replicate (length + 1) '`' ++ rest) =
      .code (length + 1) inside :: ofMarks after := by
  rw [ofText, Mark.ofText_replicate_append length ends, ofMarks_of_some found]

theorem ofText_of_none (none : Mark.cutRun? (length + 1) (Mark.ofText rest) = none) :
    ofText (List.replicate (length + 1) '`' ++ rest) = .run (length + 1) :: ofText rest := by
  rw [ofText, Mark.ofText_replicate_append length ends, ofMarks_of_none none, ofText]

end Run

end Piece

/-! ### Hiding the code of markdown -/

theorem staysOnLine_run_iff {length : Nat} {rest : Text}
    (none : Mark.cutRun? (length + 1) (Mark.ofText rest) = none) :
    (Piece.run (length + 1)).StaysOnLine (Piece.ofText rest) ↔
      ∀ shorter < length + 1, cutCloser? (shorter + 1) 0 rest = Option.none := by
  have line := Piece.line_ofText rest
  constructor
  · intro stays shorter less
    rw [cutCloser?_eq_none_iff (Nat.succ_ne_zero shorter)]
    rcases Nat.lt_succ_iff_lt_or_eq.1 less with less | rfl
    · exact line ▸ stays (shorter + 1) (Nat.succ_lt_succ less)
    · exact fun member => Mark.cutRun?_eq_none_iff.1 none
        ((List.takeWhile_prefix _).subset member)
  · intro unclosed shorter less
    rw [line]
    cases shorter with
    | zero =>
      exact fun member => absurd
        (Mark.pos_of_run_mem ((List.takeWhile_prefix _).subset member)) (Nat.lt_irrefl 0)
    | succ shorter =>
      exact (cutCloser?_eq_none_iff (Nat.succ_ne_zero shorter)).1
        (unclosed shorter (Nat.lt_of_succ_lt less))

theorem hideFrom_eq_iff (first : Nat) (text : Text) :
    hideFrom first text = Piece.hideFrom first (Piece.ofText text) ↔
      Piece.AllStayOnLine (Piece.ofText text) := by
  induction text using Mark.induction generalizing first with
  | nil => simp [hideFrom, Piece.hideFrom]
  | char c rest other inductionHypothesis =>
    have later := inductionHypothesis first
    rw [hideFrom_of_ne other, Piece.ofText_cons other, Piece.allStayOnLine_cons, ← later]
    simp [Piece.hideFrom, Piece.StaysOnLine, Prod.ext_iff]
  | run length rest ends inductionHypothesis =>
    cases found : Mark.cutRun? (length + 1) (Mark.ofText rest) with
    | none =>
      have whole : Piece.hideFrom first (.run (length + 1) :: Piece.ofText rest) =
          (List.replicate (length + 1) '`' ++ (Piece.hideFrom first (Piece.ofText rest)).1,
            (Piece.hideFrom first (Piece.ofText rest)).2) := by
        simp [Piece.hideFrom]
      rw [Piece.ofText_of_none ends found, Piece.allStayOnLine_cons, staysOnLine_run_iff found,
        ← inductionHypothesis rest (Nat.le_refl _) first, whole]
      constructor
      · intro same
        have unclosed := unclosed_of_prefix ends first (by rw [same]; exact List.prefix_append _ _)
        rw [hideFrom_replicate_append ends first unclosed, Prod.mk.injEq,
          List.append_cancel_left_eq] at same
        exact ⟨unclosed, Prod.ext same.1 same.2⟩
      · rintro ⟨unclosed, same⟩
        rw [hideFrom_replicate_append ends first unclosed, same]
    | some cut =>
      obtain ⟨inside, after⟩ := cut
      have run := cut?_replicate_append length ends
      rw [Piece.ofText_of_cutRun? ends found, Piece.allStayOnLine_cons]
      by_cases sameLine : Mark.char '\n' ∈ inside
      · -- The hiding passes over the first backtick, and the code has a placeholder in its place.
        rw [cutCloser?_of_break (Nat.succ_ne_zero length) found sameLine] at run
        rw [List.replicate_succ, List.cons_append] at run ⊢
        rw [hideFrom_of_none run]
        refine iff_of_false (fun same => ?_) fun all => all.1 sameLine
        exact absurd (List.cons.inj (congrArg Prod.fst same)).1 (by decide)
      · obtain ⟨later, closer, rfl⟩ := exists_cutCloser? (Nat.succ_ne_zero length) found sameLine
        have shorter := length_cutCloser? closer
        rw [closer] at run
        rw [hideFrom_of_cut? run, ← Piece.ofText, ← inductionHypothesis later shorter (first + 1)]
        simp [Piece.hideFrom, Piece.StaysOnLine, sameLine, Prod.ext_iff]

/-- The code that is hidden is the code of markdown exactly if no code goes beyond its line, and no
run that is text has a shorter one behind it on its line. -/
theorem hide_eq_iff (text : Text) :
    hide text = Piece.hideFrom 0 (Piece.ofText text) ↔ Piece.AllStayOnLine (Piece.ofText text) :=
  hideFrom_eq_iff 0 text

end CodeSpan

end CampaignPress
