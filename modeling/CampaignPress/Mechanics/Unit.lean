/-
This file groups the lines of a mechanics block into units. Braces outside of
quotes are counted: a line that leaves braces open is joined by the lines after
it until the count is back at zero. The main statement says that no unit is
longer than the text it comes from.
-/
import CampaignPress.Text.Basic

namespace CampaignPress.Mechanics

/-! ### Braces -/

/-- Where a reader stands: inside quotes or not, just after a backslash or not. -/
structure Reader where
  quoted : Bool := false
  escaped : Bool := false
  deriving DecidableEq, Repr

inductive Brace where
  | opens
  | closes
  deriving DecidableEq, Repr

/-- Reads one character, and tells whether it is a brace that counts. -/
def Reader.step (reader : Reader) (c : Char) : Reader × Option Brace :=
  if reader.escaped then ({ reader with escaped := false }, none)
  else if c = '\\' then ({ reader with escaped := true }, none)
  else if c = '"' then ({ reader with quoted := !reader.quoted }, none)
  else if reader.quoted then (reader, none)
  else if c = '{' then (reader, some .opens)
  else if c = '}' then (reader, some .closes)
  else (reader, none)

def Brace.weight : Option Brace → Int
  | some .opens => 1
  | some .closes => -1
  | none => 0

def balanceFrom : Reader → Text → Int
  | _, [] => 0
  | reader, c :: rest =>
    let (reader, brace) := reader.step c
    Brace.weight brace + balanceFrom reader rest

/-- The braces that a text opens, less those that it closes. -/
def balance (text : Text) : Int := balanceFrom {} text

/-! ### Units -/

/-- The lines of a unit that is not complete, and the braces it has open. -/
structure Collected where
  lines : List Text
  depth : Int

/-- Blank lines between units belong to none; an incomplete unit ends with the text. -/
def groupFrom : Option Collected → List Text → List (List Text)
  | none, [] => []
  | some collected, [] => [collected.lines]
  | none, line :: rest =>
    if line.isEmpty then groupFrom none rest
    else if 0 < balance line then groupFrom (some ⟨[line], balance line⟩) rest
    else [line] :: groupFrom none rest
  | some collected, line :: rest =>
    let lines := collected.lines ++ [line]
    let depth := collected.depth + balance line
    if depth ≤ 0 then lines :: groupFrom none rest
    else groupFrom (some ⟨lines, depth⟩) rest

/-- The units of a text, in trimmed lines. -/
def units (source : Text) : List (List Text) :=
  groupFrom none ((Text.lines source).map Text.trim)

/-! ### Size -/

/-- The characters of lines with a line break after each. -/
def weight : List Text → Nat
  | [] => 0
  | line :: lines => line.length + 1 + weight lines

theorem weight_append (left right : List Text) :
    weight (left ++ right) = weight left + weight right := by
  induction left with
  | nil => simp [weight]
  | cons line left inductionHypothesis => simp [weight, inductionHypothesis, Nat.add_assoc]

theorem length_unlines_succ {lines : List Text} (nonempty : lines ≠ []) :
    (Text.unlines lines).length + 1 = weight lines := by
  induction lines with
  | nil => exact absurd rfl nonempty
  | cons line rest inductionHypothesis =>
    cases rest with
    | nil => simp [Text.unlines, Text.join, weight]
    | cons next rest =>
      have tail := inductionHypothesis (by simp)
      simp only [Text.unlines, Text.join, weight] at tail ⊢
      rw [List.intercalate_cons_cons]
      simp only [List.length_append, List.length_cons, List.length_nil]
      omega

theorem length_unlines_lt_of_weight_le {lines : List Text} {bound : Nat}
    (light : weight lines ≤ bound + 1) : (Text.unlines lines).length ≤ bound := by
  by_cases empty : lines = []
  · simp [empty, Text.unlines, Text.join]
  · have := length_unlines_succ empty
    omega

theorem weight_splitWhere (isCut : Char → Bool) (text : Text) :
    weight (Text.splitWhere isCut text) = text.length + 1 := by
  induction text with
  | nil => rfl
  | cons c rest inductionHypothesis =>
    simp only [Text.splitWhere, Text.pieces, weight] at inductionHypothesis ⊢
    split
    · simp only [weight, List.length_nil, List.length_cons]
      omega
    · simp only [List.length_cons]
      omega

theorem length_trim_le (text : Text) : (Text.trim text).length ≤ text.length := by
  have start := (List.dropWhile_suffix (l := text) Text.isBlank).length_le
  have stop := (List.dropWhile_suffix (l := (text.dropWhile Text.isBlank).reverse)
    Text.isBlank).length_le
  simp only [List.length_reverse] at stop
  simp only [Text.trim, Text.dropEnds, Text.dropEnd, Text.dropStart, List.length_reverse]
  omega

theorem weight_map_trim_le (lines : List Text) : weight (lines.map Text.trim) ≤ weight lines := by
  induction lines with
  | nil => simp [weight]
  | cons line rest inductionHypothesis =>
    have := length_trim_le line
    simp only [weight, List.map_cons]
    omega

theorem weight_le_of_mem_groupFrom {open? : Option Collected} {lines unit : List Text}
    (member : unit ∈ groupFrom open? lines) :
    weight unit ≤ weight (open?.elim [] Collected.lines) + weight lines := by
  induction lines generalizing open? with
  | nil =>
    cases open? with
    | none => simp [groupFrom] at member
    | some collected =>
      simp only [groupFrom, List.mem_singleton] at member
      simp [member]
  | cons line rest inductionHypothesis =>
    have head : weight (line :: rest) = line.length + 1 + weight rest := by simp [weight]
    have single : weight [line] = line.length + 1 := by simp [weight]
    have nothing : weight [] = 0 := rfl
    cases open? with
    | none =>
      unfold groupFrom at member
      split at member
      · have := inductionHypothesis member
        simp only [Option.elim] at this ⊢
        omega
      · split at member
        · have := inductionHypothesis member
          simp only [Option.elim] at this ⊢
          omega
        · rcases List.mem_cons.1 member with same | later
          · subst same
            simp only [Option.elim]
            omega
          · have := inductionHypothesis later
            simp only [Option.elim] at this ⊢
            omega
    | some collected =>
      have more := weight_append collected.lines [line]
      unfold groupFrom at member
      simp only at member
      split at member
      · rcases List.mem_cons.1 member with same | later
        · subst same
          simp only [Option.elim]
          omega
        · have := inductionHypothesis later
          simp only [Option.elim] at this ⊢
          omega
      · have := inductionHypothesis member
        simp only [Option.elim] at this ⊢
        omega

/-- No unit is longer than the text it comes from. -/
theorem length_unlines_le_of_mem_units {source : Text} {unit : List Text}
    (member : unit ∈ units source) : (Text.unlines unit).length ≤ source.length := by
  have bound := weight_le_of_mem_groupFrom member
  have trimmed := weight_map_trim_le (Text.lines source)
  have whole := weight_splitWhere (· == '\n') source
  have nothing : weight [] = 0 := rfl
  apply length_unlines_lt_of_weight_le
  simp only [Option.elim, nothing] at bound
  simp only [Text.lines, Text.splitOn] at bound trimmed
  omega

end CampaignPress.Mechanics
