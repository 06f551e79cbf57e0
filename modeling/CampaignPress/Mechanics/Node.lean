/-
This file reads mechanics blocks as trees. A node is a line of a keyword, its
arguments and its properties, and the nodes between the braces that may follow.
-/
import CampaignPress.Mechanics.Unit
import CampaignPress.Numeral

namespace CampaignPress

namespace Mechanics

/-! ### Bodies -/

/-- What stands before the first brace that opens, and what follows that brace. -/
def cutOpening : Reader → Text → Text × Option Text
  | _, [] => ([], none)
  | reader, c :: rest =>
    let (next, brace) := reader.step c
    if brace = some .opens then ([], some rest)
    else
      let (before, after) := cutOpening next rest
      (c :: before, after)

/-- The number of open braces after one more. -/
def Brace.depthAfter (depth : Nat) : Option Brace → Nat
  | some .opens => depth + 1
  | some .closes => depth - 1
  | none => depth

/-- What stands before the brace that closes `depth` open ones, and what follows it;
everything, where no brace does. -/
def cutClosing : Reader → (depth : Nat) → Text → Text × Option Text
  | _, _, [] => ([], none)
  | reader, depth, c :: rest =>
    let (next, brace) := reader.step c
    let deeper := Brace.depthAfter depth brace
    if deeper = 0 then ([], some rest)
    else
      let (before, after) := cutClosing next deeper rest
      (c :: before, after)

/-- The header of a unit, and the body between its first brace and the brace that
matches it. -/
def splitBody (text : Text) : Text × Text :=
  match cutOpening {} text with
  | (header, none) => (header, [])
  | (header, some rest) => (header, (cutClosing {} 1 rest).1)

theorem length_cutOpening (reader : Reader) (text : Text) :
    ∀ rest, (cutOpening reader text).2 = some rest → rest.length < text.length := by
  induction text generalizing reader with
  | nil => simp [cutOpening]
  | cons c text inductionHypothesis =>
    intro rest found
    unfold cutOpening at found
    simp only at found
    split at found
    · simp_all
    · have := inductionHypothesis _ rest found
      simp only [List.length_cons]
      omega

theorem length_cutClosing_le (reader : Reader) (depth : Nat) (text : Text) :
    (cutClosing reader depth text).1.length ≤ text.length := by
  induction text generalizing reader depth with
  | nil => simp [cutClosing]
  | cons c text inductionHypothesis =>
    unfold cutClosing
    simp only
    split <;> simp [inductionHypothesis]

/-- A body that is not empty is shorter than its unit. -/
theorem length_splitBody_snd (text : Text) :
    (splitBody text).2 = [] ∨ (splitBody text).2.length < text.length := by
  have shorter := length_cutOpening {} text
  unfold splitBody
  split
  · exact .inl rfl
  · rename_i header rest found
    have := shorter rest (by rw [found])
    have := length_cutClosing_le {} 1 rest
    exact .inr (by simp only; omega)

/-- A unit of a body is shorter than the unit around it. -/
theorem length_unlines_lt_of_mem_body {text : Text} {unit : List Text}
    (member : unit ∈ units (splitBody text).2) : (Text.unlines unit).length < text.length := by
  have small := length_unlines_le_of_mem_units member
  rcases length_splitBody_snd text with nothing | shorter
  · rw [nothing] at member
    simp [units, Text.lines, Text.splitOn, Text.splitWhere, Text.pieces, groupFrom, Text.trim,
      Text.dropEnds, Text.dropEnd, Text.dropStart] at member
  · omega

/-! ### Headers -/

inductive Token where
  | quoted (content : Text)
  | property (key value : Text)
  | bare (content : Text)
  deriving DecidableEq, Repr

/-- A backslash before a quote, a backslash or a slash is an escape. -/
def unescape : Text → Text
  | [] => []
  | '\\' :: '"' :: rest => '"' :: unescape rest
  | '\\' :: '\\' :: rest => '\\' :: unescape rest
  | '\\' :: '/' :: rest => '/' :: unescape rest
  | c :: rest => c :: unescape rest

/-- The body of a quoted text whose opening quote stands just before, as written, and
what follows the closing quote. A backslash takes the next character with it, but for
a line break. -/
def cutQuoted? : Text → Option (Text × Text)
  | [] => none
  | '"' :: rest => some ([], rest)
  | '\\' :: c :: rest =>
    if c = '\n' then none
    else (cutQuoted? rest).map fun (body, after) => ('\\' :: c :: body, after)
  | c :: rest =>
    if c = '\\' then none else (cutQuoted? rest).map fun (body, after) => (c :: body, after)

def isKeyChar (c : Char) : Bool := Text.isWord c || c = '.' || c = '-'

/-- Plain values end at blanks and braces. -/
def isPlain (c : Char) : Bool := !(Text.isBlank c || c = '{' || c = '}')

/-- Bare words end at quotes too. -/
def isBare (c : Char) : Bool := isPlain c && c ≠ '"'

/-- The value of a property, quoted or plain, and what follows it. -/
def cutValue? (text : Text) : Option (Text × Text) :=
  let plain :=
    let value := text.takeWhile isPlain
    if value.isEmpty then none else some (value, text.dropWhile isPlain)
  match text with
  | '"' :: rest => (cutQuoted? rest).or plain
  | _ => plain

/-- The property at the beginning of a text, and what follows it. -/
def cutProperty? (text : Text) : Option (Text × Text × Text) :=
  let key := text.takeWhile isKeyChar
  match text.dropWhile isKeyChar with
  | '=' :: rest =>
    if key.isEmpty then none else (cutValue? rest).map fun (value, after) => (key, value, after)
  | _ => none

theorem length_cutQuoted? {text body after : Text} (found : cutQuoted? text = some (body, after)) :
    after.length < text.length := by
  fun_induction cutQuoted? text generalizing body after with
  | case1 => simp at found
  | case2 => simp_all
  | case3 => simp at found
  | case4 c rest _ inductionHypothesis =>
    obtain ⟨⟨inner, later⟩, inside, same⟩ := Option.map_eq_some_iff.1 found
    have := inductionHypothesis inside
    simp only [Prod.mk.injEq] at same
    simp only [List.length_cons, ← same.2]
    omega
  | case5 => simp at found
  | case6 c rest _ _ _ inductionHypothesis =>
    obtain ⟨⟨inner, later⟩, inside, same⟩ := Option.map_eq_some_iff.1 found
    have := inductionHypothesis inside
    simp only [Prod.mk.injEq] at same
    simp only [List.length_cons, ← same.2]
    omega

theorem length_dropWhile_le (keep : Char → Bool) (text : Text) :
    (text.dropWhile keep).length ≤ text.length :=
  (List.dropWhile_suffix keep).length_le

theorem length_cutValue? {text value after : Text} (found : cutValue? text = some (value, after)) :
    after.length ≤ text.length := by
  have plain : ∀ {value after : Text},
      (if (text.takeWhile isPlain).isEmpty then none
        else some (text.takeWhile isPlain, text.dropWhile isPlain)) = some (value, after) →
      after.length ≤ text.length := by
    intro value after found
    split at found
    · simp at found
    · simp only [Option.some.injEq, Prod.mk.injEq] at found
      rw [← found.2]
      exact length_dropWhile_le _ _
  unfold cutValue? at found
  simp only at found
  split at found
  · rcases Option.or_eq_some_iff.1 found with quoted | ⟨_, bare⟩
    · have := length_cutQuoted? quoted
      simp only [List.length_cons]
      omega
    · exact plain bare
  · exact plain found

theorem length_cutProperty? {text key value after : Text}
    (found : cutProperty? text = some (key, value, after)) : after.length < text.length := by
  have drop := length_dropWhile_le isKeyChar text
  unfold cutProperty? at found
  simp only at found
  split at found
  · rename_i rest equals
    split at found
    · simp at found
    · obtain ⟨⟨inner, later⟩, inside, same⟩ := Option.map_eq_some_iff.1 found
      have := length_cutValue? inside
      simp only [Prod.mk.injEq] at same
      rw [equals] at drop
      simp only [List.length_cons, ← same.2.2] at drop ⊢
      omega
  · simp at found

/-- The tokens of a header. Braces, and quotes that nothing closes, are passed over. -/
def tokens : Text → List Token
  | [] => []
  | c :: rest =>
    if !isPlain c then tokens rest
    else if c = '"' then
      match _found : cutQuoted? rest with
      | some (body, after) => .quoted (unescape body) :: tokens after
      | none => tokens rest
    else
      match _found : cutProperty? (c :: rest) with
      | some (key, value, after) => .property key (unescape value) :: tokens after
      | none => .bare (c :: rest.takeWhile isBare) :: tokens (rest.dropWhile isBare)
termination_by text => text.length
decreasing_by
  · simp
  · have := length_cutQuoted? _found
    simp only [List.length_cons]
    omega
  · simp
  · exact length_cutProperty? _found
  · have := length_dropWhile_le isBare rest
    simp only [List.length_cons]
    omega

/-! ### Nodes -/

end Mechanics

structure Node where
  keyword : Text
  args : List Text
  /-- A property keeps the place of its first value and holds its last. -/
  properties : List (Text × Text)
  source : Text
  children : List Node

namespace Node

open Mechanics

def putProperty (key value : Text) : List (Text × Text) → List (Text × Text)
  | [] => [(key, value)]
  | entry :: entries =>
    if entry.1 = key then (key, value) :: entries else entry :: putProperty key value entries

/-- The first bare word is the keyword, later ones are arguments. -/
def addToken (node : Node) : Token → Node
  | .quoted content => { node with args := node.args ++ [content] }
  | .property key value => { node with properties := putProperty key value node.properties }
  | .bare content =>
    if node.keyword.isEmpty then { node with keyword := content }
    else { node with args := node.args ++ [content] }

def ofHeader (header : Text) : Node :=
  (tokens header).foldl addToken ⟨[], [], [], Text.trim header, []⟩

/-- The node of a unit, with the nodes of the units in its body. -/
def ofUnit (lines : List Text) : Node :=
  let text := Text.unlines lines
  let node := ofHeader (splitBody text).1
  { node with
    source := text
    children := (units (splitBody text).2).attach.map fun unit => ofUnit unit.1 }
termination_by (Text.unlines lines).length
decreasing_by exact length_unlines_lt_of_mem_body unit.2

/-- The nodes of a block. -/
def ofBlock (source : Text) : List Node := (units (Text.trim source)).map ofUnit

/-! ### Parts -/

def property? (node : Node) (key : Text) : Option Text := node.properties.lookup key

/-- A property, empty where it is missing. -/
def propertyText (node : Node) (key : Text) : Text := (node.property? key).getD []

/-- The first argument, if there is one. -/
def firstArg? (node : Node) : Option Text := node.args.head?

end Node

/-! ### Depth -/

namespace Mechanics

mutual

/-- The levels of a tree: one for its root, and those of its deepest child. -/
def depth : Node → Nat
  | ⟨_, _, _, _, children⟩ => depthAll children + 1

def depthAll : List Node → Nat
  | [] => 0
  | node :: nodes => max (depth node) (depthAll nodes)

end

end Mechanics

end CampaignPress
