/-
This file follows the braces of a text. What the reader of braces has met after
a text, and where it then stands, are functions of the text that split over
joined texts. The main notion is that of a level text: read outside of quotes,
it ends outside of quotes, closes every brace that it opens and no other. A
level text changes no depth, so the cutting at a closing brace passes over it,
and a level line leaves a unit as open as it was.
-/
import CampaignPress.Mechanics.Node
import CampaignPress.Proofs.Text.Lines

namespace CampaignPress.Mechanics

/-! ### Runs of the reader -/

/-- Where a reader stands after a text. -/
def Reader.run : Reader → Text → Reader
  | reader, [] => reader
  | reader, c :: rest => (reader.step c).1.run rest

/-- The braces that count in a text. -/
def Reader.braces : Reader → Text → List Brace
  | _, [] => []
  | reader, c :: rest => (reader.step c).2.toList ++ (reader.step c).1.braces rest

theorem Reader.run_cons (reader : Reader) (c : Char) (rest : Text) :
    reader.run (c :: rest) = (reader.step c).1.run rest := rfl

theorem Reader.braces_cons (reader : Reader) (c : Char) (rest : Text) :
    reader.braces (c :: rest) = (reader.step c).2.toList ++ (reader.step c).1.braces rest := rfl

theorem Reader.run_append (reader : Reader) (left right : Text) :
    reader.run (left ++ right) = (reader.run left).run right := by
  induction left generalizing reader with
  | nil => rfl
  | cons c left inductionHypothesis => exact inductionHypothesis (reader.step c).1

theorem Reader.braces_append (reader : Reader) (left right : Text) :
    reader.braces (left ++ right) = reader.braces left ++ (reader.run left).braces right := by
  induction left generalizing reader with
  | nil => rfl
  | cons c left inductionHypothesis =>
    rw [List.cons_append, Reader.braces_cons, inductionHypothesis, Reader.braces_cons,
      List.append_assoc, Reader.run_cons]

theorem balanceFrom_eq_sum (reader : Reader) (text : Text) :
    balanceFrom reader text =
      ((reader.braces text).map fun brace => Brace.weight (some brace)).sum := by
  induction text generalizing reader with
  | nil => rfl
  | cons c rest inductionHypothesis =>
    rw [Reader.braces_cons, List.map_append, List.sum_append, ← inductionHypothesis]
    show Brace.weight (reader.step c).2 + balanceFrom (reader.step c).1 rest = _
    cases (reader.step c).2 with
    | none => rfl
    | some brace => simp

theorem balanceFrom_append (reader : Reader) (left right : Text) :
    balanceFrom reader (left ++ right) =
      balanceFrom reader left + balanceFrom (reader.run left) right := by
  simp only [balanceFrom_eq_sum, Reader.braces_append, List.map_append, List.sum_append]

/-! ### Cutting -/

theorem cutOpening_cons (reader : Reader) (c : Char) (rest : Text) :
    cutOpening reader (c :: rest) =
      if (reader.step c).2 = some .opens then ([], some rest)
      else
        (c :: (cutOpening (reader.step c).1 rest).1, (cutOpening (reader.step c).1 rest).2) := rfl

theorem cutClosing_cons (reader : Reader) (depth : Nat) (c : Char) (rest : Text) :
    cutClosing reader depth (c :: rest) =
      if Brace.depthAfter depth (reader.step c).2 = 0 then ([], some rest)
      else
        (c :: (cutClosing (reader.step c).1 (Brace.depthAfter depth (reader.step c).2) rest).1,
          (cutClosing (reader.step c).1 (Brace.depthAfter depth (reader.step c).2) rest).2) := rfl

/-- The cut at the first brace that opens passes over a text without one. -/
theorem cutOpening_append {reader : Reader} {text : Text}
    (unopened : Brace.opens ∉ reader.braces text) (rest : Text) :
    cutOpening reader (text ++ rest) =
      (text ++ (cutOpening (reader.run text) rest).1, (cutOpening (reader.run text) rest).2) := by
  induction text generalizing reader with
  | nil => rfl
  | cons c text inductionHypothesis =>
    rw [Reader.braces_cons, List.mem_append, not_or] at unopened
    have other : (reader.step c).2 ≠ some .opens := by
      intro same
      exact unopened.1 (by simp [same])
    rw [List.cons_append, cutOpening_cons, if_neg other, inductionHypothesis unopened.2,
      Reader.run_cons]
    rfl

/-- The depth after a brace, as the number of open braces that it is. -/
theorem Brace.depthAfter_eq {depth : Nat} (inside : 0 < depth) (brace : Option Brace) :
    (Brace.depthAfter depth brace : Int) = depth + Brace.weight brace := by
  cases brace with
  | none => simp [Brace.depthAfter, Brace.weight]
  | some brace =>
    cases brace with
    | opens => simp [Brace.depthAfter, Brace.weight]
    | closes =>
      simp only [Brace.depthAfter, Brace.weight]
      omega

/-- The cut at the brace that closes `depth` others passes over a text in which none of its
beginnings closes them all. -/
theorem cutClosing_append {reader : Reader} {depth after : Nat} {text : Text}
    (stays : ∀ count, 0 < depth + balanceFrom reader (text.take count))
    (left : (after : Int) = depth + balanceFrom reader text) (rest : Text) :
    cutClosing reader depth (text ++ rest) =
      (text ++ (cutClosing (reader.run text) after rest).1,
        (cutClosing (reader.run text) after rest).2) := by
  induction text generalizing reader depth with
  | nil =>
    obtain rfl : after = depth := by
      rw [balanceFrom] at left
      omega
    rfl
  | cons c text inductionHypothesis =>
    have inside : 0 < depth := by
      have := stays 0
      rw [List.take_zero, balanceFrom] at this
      omega
    have deeper := Brace.depthAfter_eq inside (reader.step c).2
    have step : ∀ later : Text, balanceFrom reader (c :: later) =
        Brace.weight (reader.step c).2 + balanceFrom (reader.step c).1 later := fun _ => rfl
    have positive : Brace.depthAfter depth (reader.step c).2 ≠ 0 := by
      have := stays 1
      rw [List.take_succ_cons, List.take_zero, step, balanceFrom] at this
      omega
    rw [List.cons_append, cutClosing_cons, if_neg positive, inductionHypothesis, Reader.run_cons]
    · rfl
    · intro count
      have := stays (count + 1)
      rw [List.take_succ_cons, step] at this
      omega
    · rw [left, step]
      omega

/-! ### Level texts -/

/-- A text that holds no brace that counts, and ends outside of quotes as it begins. -/
structure Quiet (text : Text) : Prop where
  braces : Reader.braces {} text = []
  run : Reader.run {} text = {}

/-- A text that ends outside of quotes as it begins, and closes the braces that it opens. -/
structure Level (text : Text) : Prop where
  run : Reader.run {} text = {}
  balanced : balance text = 0
  nonneg : ∀ count, 0 ≤ balance (text.take count)

theorem Quiet.nil : Quiet [] := ⟨rfl, rfl⟩

theorem Quiet.append {left right : Text} (first : Quiet left) (second : Quiet right) :
    Quiet (left ++ right) where
  braces := by rw [Reader.braces_append, first.braces, first.run, second.braces]; rfl
  run := by rw [Reader.run_append, first.run, second.run]

/-- Whether a character means nothing to a reader outside of quotes. -/
def isQuiet (c : Char) : Bool := c ≠ '\\' && c ≠ '"' && c ≠ '{' && c ≠ '}'

theorem Reader.step_of_isQuiet {c : Char} (quiet : isQuiet c) :
    Reader.step {} c = ({}, none) := by
  simp only [isQuiet, Bool.and_eq_true, decide_eq_true_eq] at quiet
  obtain ⟨⟨⟨backslash, quote⟩, opening⟩, closing⟩ := quiet
  simp [Reader.step, backslash, quote, opening, closing]

theorem Quiet.of_isQuiet {text : Text} (quiet : ∀ c ∈ text, isQuiet c) : Quiet text := by
  induction text with
  | nil => exact Quiet.nil
  | cons c text inductionHypothesis =>
    have single : Quiet [c] := by
      have step := Reader.step_of_isQuiet (quiet c List.mem_cons_self)
      constructor
      · rw [Reader.braces_cons, step]
        rfl
      · rw [Reader.run_cons, step]
        rfl
    exact single.append
      (inductionHypothesis fun d member => quiet d (List.mem_cons_of_mem _ member))

theorem Quiet.balance_eq_zero {text : Text} (quiet : Quiet text) : balance text = 0 := by
  rw [balance, balanceFrom_eq_sum, quiet.braces]
  rfl

theorem Quiet.level {text : Text} (quiet : Quiet text) : Level text where
  run := quiet.run
  balanced := quiet.balance_eq_zero
  nonneg count := by
    have whole := quiet.braces
    rw [← List.take_append_drop count text, Reader.braces_append,
      List.append_eq_nil_iff] at whole
    rw [balance, balanceFrom_eq_sum, whole.1]
    exact Int.le_refl 0

theorem Level.append {left right : Text} (first : Level left) (second : Level right) :
    Level (left ++ right) where
  run := by rw [Reader.run_append, first.run, second.run]
  balanced := by
    rw [balance, balanceFrom_append, first.run]
    have one := first.balanced
    have other := second.balanced
    rw [balance] at one other
    omega
  nonneg count := by
    rw [List.take_append]
    by_cases short : count ≤ left.length
    · rw [Nat.sub_eq_zero_of_le short, List.take_zero, List.append_nil]
      exact first.nonneg count
    · rw [List.take_of_length_le (by omega), balance, balanceFrom_append, first.run]
      have one := first.balanced
      have other := second.nonneg (count - left.length)
      rw [balance] at one other
      omega

/-- Braces around a level text make a level text. -/
theorem Level.braced {text : Text} (level : Level text) : Level ('{' :: text ++ ['}']) := by
  have opens : ∀ later, balance ('{' :: later) = 1 + balance later :=
    fun _ => rfl
  have closed : ∀ later, balance (text ++ later) = balance later := by
    intro later
    rw [balance, balanceFrom_append, level.run]
    have := level.balanced
    rw [balance] at this
    rw [this, Int.zero_add]
    rfl
  have closes : balance ['}'] = -1 := rfl
  constructor
  · rw [List.cons_append, Reader.run_cons]
    show Reader.run {} (text ++ ['}']) = {}
    rw [Reader.run_append, level.run]
    rfl
  · rw [List.cons_append, opens, closed, closes]
    rfl
  · intro count
    cases count with
    | zero => exact Int.le_refl 0
    | succ count =>
      rw [List.cons_append, List.take_succ_cons, opens, List.take_append]
      by_cases short : count ≤ text.length
      · rw [Nat.sub_eq_zero_of_le short, List.take_zero, List.append_nil]
        have := level.nonneg count
        omega
      · rw [List.take_of_length_le (by omega), closed,
          List.take_of_length_le (by simp; omega), closes]
        decide

/-- The cut at a closing brace passes over a level text. -/
theorem Level.cutClosing_append {text : Text} (level : Level text) {depth : Nat}
    (inside : 0 < depth) (rest : Text) :
    cutClosing {} depth (text ++ rest) =
      (text ++ (cutClosing {} depth rest).1, (cutClosing {} depth rest).2) := by
  have same := level.balanced
  rw [balance] at same
  have stays : ∀ count, 0 < depth + balanceFrom {} (text.take count) := by
    intro count
    have := level.nonneg count
    rw [balance] at this
    omega
  have left : (depth : Int) = depth + balanceFrom {} text := by rw [same, Int.add_zero]
  have whole := Mechanics.cutClosing_append stays left rest
  rwa [level.run] at whole

/-- A quiet header and a level body in braces are split as they stand. -/
theorem splitBody_braced {header body : Text} (quiet : Quiet header) (level : Level body) :
    splitBody (header ++ '{' :: body ++ ['}']) = (header, body) := by
  have unopened : Brace.opens ∉ Reader.braces {} header := by
    rw [quiet.braces]
    exact List.not_mem_nil
  have opening : cutOpening {} ('{' :: body ++ ['}']) = ([], some (body ++ ['}'])) := rfl
  have closing : cutClosing {} 1 ['}'] = ([], some []) := rfl
  rw [splitBody, List.append_assoc, cutOpening_append unopened, quiet.run, opening,
    List.append_nil]
  show (header, (cutClosing {} 1 (body ++ ['}'])).1) = _
  rw [level.cutClosing_append Nat.one_pos, closing, List.append_nil]

/-- A quiet text is a header without a body. -/
theorem splitBody_quiet {header : Text} (quiet : Quiet header) :
    splitBody header = (header, []) := by
  have unopened : Brace.opens ∉ Reader.braces {} header := by
    rw [quiet.braces]
    exact List.not_mem_nil
  have whole := cutOpening_append unopened []
  rw [quiet.run, List.append_nil] at whole
  rw [splitBody, whole]
  simp [cutOpening]

/-! ### Units -/

/-- The units that a line completes, and the unit that is open after it. -/
def Collected.step : Option Collected → Text → List (List Text) × Option Collected
  | none, line =>
    if line.isEmpty then ([], none)
    else if 0 < balance line then ([], some ⟨[line], balance line⟩)
    else ([[line]], none)
  | some collected, line =>
    let lines := collected.lines ++ [line]
    let depth := collected.depth + balance line
    if depth ≤ 0 then ([lines], none) else ([], some ⟨lines, depth⟩)

theorem Collected.step_none (line : Text) :
    Collected.step none line =
      if line.isEmpty then ([], none)
      else if 0 < balance line then ([], some ⟨[line], balance line⟩)
      else ([[line]], none) := rfl

theorem Collected.step_some (collected : Collected) (line : Text) :
    Collected.step (some collected) line =
      if collected.depth + balance line ≤ 0 then ([collected.lines ++ [line]], none)
      else ([], some ⟨collected.lines ++ [line], collected.depth + balance line⟩) := rfl

/-- The units that lines complete, and the unit that is open after them. -/
def scan : Option Collected → List Text → List (List Text) × Option Collected
  | open?, [] => ([], open?)
  | open?, line :: rest =>
    let (units, next?) := Collected.step open? line
    let (others, last?) := scan next? rest
    (units ++ others, last?)

theorem scan_cons (open? : Option Collected) (line : Text) (rest : List Text) :
    scan open? (line :: rest) =
      ((Collected.step open? line).1 ++ (scan (Collected.step open? line).2 rest).1,
        (scan (Collected.step open? line).2 rest).2) := rfl

theorem scan_append (open? : Option Collected) (left right : List Text) :
    scan open? (left ++ right) =
      ((scan open? left).1 ++ (scan (scan open? left).2 right).1,
        (scan (scan open? left).2 right).2) := by
  induction left generalizing open? with
  | nil => rfl
  | cons line left inductionHypothesis =>
    rw [List.cons_append, scan_cons, inductionHypothesis, scan_cons, List.append_assoc]

theorem groupFrom_cons (open? : Option Collected) (line : Text) (rest : List Text) :
    groupFrom open? (line :: rest) =
      (Collected.step open? line).1 ++ groupFrom (Collected.step open? line).2 rest := by
  cases open? with
  | none =>
    rw [groupFrom, Collected.step_none]
    split
    · rfl
    · split <;> rfl
  | some collected =>
    rw [groupFrom, Collected.step_some]
    split <;> rfl

/-- Grouping goes on after some lines from the unit that they leave open. -/
theorem groupFrom_append (open? : Option Collected) (left right : List Text) :
    groupFrom open? (left ++ right) =
      (scan open? left).1 ++ groupFrom (scan open? left).2 right := by
  induction left generalizing open? with
  | nil => rfl
  | cons line left inductionHypothesis =>
    rw [List.cons_append, groupFrom_cons, inductionHypothesis, scan_cons, List.append_assoc]

/-- Lines that leave no unit open are grouped by what they complete. -/
theorem groupFrom_of_scan {open? : Option Collected} {lines : List Text} {units : List (List Text)}
    (scanned : scan open? lines = (units, none)) : groupFrom open? lines = units := by
  have whole := groupFrom_append open? lines []
  rw [List.append_nil, scanned] at whole
  rw [whole]
  exact List.append_nil units

/-- A line without open braces keeps a unit as open as it is. -/
theorem step_some_of_balance_zero {collected : Collected} {line : Text}
    (inside : 0 < collected.depth) (even : balance line = 0) :
    Collected.step (some collected) line =
      ([], some ⟨collected.lines ++ [line], collected.depth⟩) := by
  rw [Collected.step_some, even, Int.add_zero, if_neg (by omega)]

@[simp]
theorem scan_none_replicate (count : Nat) : scan none (List.replicate count []) = ([], none) := by
  induction count with
  | zero => rfl
  | succ count inductionHypothesis =>
    rw [List.replicate_succ, scan_cons]
    exact inductionHypothesis

/-! ### Carried lines -/

/-- Lines that an open unit takes in without a change of its depth. -/
def Carried (lines : List Text) : Prop :=
  ∀ collected : Collected, 0 < collected.depth →
    scan (some collected) lines = ([], some ⟨collected.lines ++ lines, collected.depth⟩)

theorem Carried.nil : Carried [] := by
  intro collected _
  rw [List.append_nil]
  rfl

theorem Carried.single {line : Text} (even : balance line = 0) : Carried [line] := by
  intro collected inside
  rw [scan_cons, step_some_of_balance_zero inside even]
  rfl

theorem Carried.append {left right : List Text} (first : Carried left) (second : Carried right) :
    Carried (left ++ right) := by
  intro collected inside
  rw [scan_append, first collected inside,
    second ⟨collected.lines ++ left, collected.depth⟩ inside, List.append_assoc]
  rfl

theorem Carried.replicate (count : Nat) : Carried (List.replicate count []) := by
  induction count with
  | zero => exact Carried.nil
  | succ count inductionHypothesis => exact (Carried.single rfl).append inductionHypothesis

/-- A line that opens a brace, lines that are carried, and a line that closes the brace. -/
theorem Carried.braced {opening closing : Text} {inner : List Text} (carried : Carried inner)
    (opens : balance opening = 1) (closes : balance closing = -1) :
    Carried (opening :: inner ++ [closing]) := by
  intro collected inside
  have deeper : 0 < collected.depth + 1 := by omega
  have first : Collected.step (some collected) opening =
      ([], some ⟨collected.lines ++ [opening], collected.depth + 1⟩) := by
    rw [Collected.step_some, opens, if_neg (by omega)]
  have last (lines : List Text) : Collected.step (some ⟨lines, collected.depth + 1⟩) closing =
      ([], some ⟨lines ++ [closing], collected.depth⟩) := by
    have same : collected.depth + 1 + -1 = collected.depth := by omega
    rw [Collected.step_some, closes, same, if_neg (by omega)]
  rw [List.cons_append, scan_cons, first, scan_append,
    carried ⟨collected.lines ++ [opening], collected.depth + 1⟩ deeper, scan_cons, last,
    List.append_assoc, List.append_assoc]
  rfl

/-- When no unit is open, such lines are one unit. -/
theorem scan_none_braced {opening closing : Text} {inner : List Text} (carried : Carried inner)
    (opens : balance opening = 1) (closes : balance closing = -1) :
    scan none (opening :: inner ++ [closing]) = ([opening :: inner ++ [closing]], none) := by
  have nonempty : ¬ opening.isEmpty := by
    rw [List.isEmpty_iff]
    rintro rfl
    exact absurd opens (by decide)
  have first : Collected.step none opening = ([], some ⟨[opening], 1⟩) := by
    rw [Collected.step_none, if_neg nonempty, opens, if_pos Int.one_pos]
  have last : Collected.step (some ⟨[opening] ++ inner, 1⟩) closing =
      ([[opening] ++ inner ++ [closing]], none) := by
    rw [Collected.step_some, closes]
    rfl
  rw [List.cons_append, scan_cons, first, scan_append, carried ⟨[opening], 1⟩ Int.one_pos,
    scan_cons, last]
  rfl

/-- A line that opens and closes as many braces is a unit of its own. -/
theorem scan_none_single {line : Text} (nonempty : line ≠ []) (even : balance line = 0) :
    scan none [line] = ([[line]], none) := by
  rw [scan_cons, Collected.step_none, if_neg (by simp [nonempty]), if_neg (by rw [even]; decide)]
  rfl

theorem Quiet.balance_opening {header : Text} (quiet : Quiet header) :
    balance (header ++ [' ', '{']) = 1 := by
  have even := quiet.balance_eq_zero
  rw [balance] at even
  rw [balance, balanceFrom_append, quiet.run, even]
  rfl

/-! ### Units of a trimmed text -/

/-- A line leaves a unit open only with braces open in it. -/
theorem depth_pos_of_step {open? : Option Collected} {line : Text} :
    ∀ collected ∈ (Collected.step open? line).2, 0 < collected.depth := by
  intro collected found
  cases open? with
  | none =>
    rw [Collected.step_none] at found
    split at found
    · simp at found
    · split at found
      · rename_i positive
        obtain rfl := Option.some.inj found
        exact positive
      · simp at found
  | some before =>
    rw [Collected.step_some] at found
    split at found
    · simp at found
    · rename_i positive
      obtain rfl := Option.some.inj found
      exact Int.not_le.1 positive

theorem depth_pos_of_scan {open? : Option Collected} {lines : List Text}
    (inside : ∀ collected ∈ open?, 0 < collected.depth) :
    ∀ collected ∈ (scan open? lines).2, 0 < collected.depth := by
  induction lines generalizing open? with
  | nil => exact inside
  | cons line rest inductionHypothesis =>
    rw [scan_cons]
    exact inductionHypothesis depth_pos_of_step

/-- The units of a text whose lines leave none open are those that its lines complete, also
when the text is trimmed first. -/
theorem units_trim_of_scan {text : Text} {units : List (List Text)}
    (scanned : scan none (Text.trimmedLines text) = (units, none)) :
    Mechanics.units (Text.trim text) = units := by
  obtain ⟨before, after, same⟩ := Text.exists_trimmedLines_trim text
  rw [same, List.append_assoc, scan_append, scan_none_replicate, scan_append] at scanned
  simp only [List.nil_append] at scanned
  refine groupFrom_of_scan ?_
  show scan none (Text.trimmedLines (Text.trim text)) = _
  cases last : (scan none (Text.trimmedLines (Text.trim text))).2 with
  | none =>
    rw [last, scan_none_replicate] at scanned
    simp only [List.append_nil, Prod.mk.injEq, and_true] at scanned
    exact Prod.ext scanned last
  | some collected =>
    have every : ∀ collected ∈ (none : Option Collected), 0 < collected.depth := by simp
    have inside : 0 < collected.depth := depth_pos_of_scan every collected last
    rw [last, Carried.replicate after collected inside] at scanned
    simp at scanned

end CampaignPress.Mechanics
