/-
This file shows that queries order notes by a stable sort. Ranks are compared
as their places in a linear order, all but a number that is undefined, which
is less than nothing and above nothing; so where no note has that rank, the
notes that come out are in order, and those that were in order stay so.
-/
import CampaignPress.Proofs.Query.Compare

namespace CampaignPress

/-! ### Texts -/

/-- Texts are compared in the order of lists of characters. -/
theorem Text.before_iff {left right : Text} : Text.before left right = true ↔ left < right := by
  induction left generalizing right with
  | nil =>
    cases right with
    | nil => simp [Text.before]
    | cons b right => simp [Text.before]
  | cons a left inductionHypothesis =>
    cases right with
    | nil => simp [Text.before]
    | cons b right =>
      rw [Text.before, Bool.or_eq_true, Bool.and_eq_true, decide_eq_true_eq, decide_eq_true_eq,
        inductionHypothesis, List.cons_lt_cons_iff]
      exact Iff.rfl

theorem Text.atMost_iff {left right : Text} : Text.atMost left right = true ↔ left ≤ right := by
  rw [Text.atMost, Bool.not_eq_true', ← Bool.not_eq_true, Text.before_iff, not_lt]

namespace Value.Quantity

/-! ### Numbers -/

/-- A number other than the undefined one. -/
def IsNumber : Quantity → Prop
  | .real .undefined => False
  | _ => True

/-- The place of a number: its units, with the infinite ones at the ends. -/
def place : Quantity → WithBot (WithTop Int)
  | .whole number => ((Binary64.unitsOfInt number : WithTop Int) : WithBot (WithTop Int))
  | .real (.finite negative mantissa exponent) =>
    ((((Binary64.finite negative mantissa exponent).units?.getD 0 : Int) : WithTop Int) :
      WithBot (WithTop Int))
  | .real (.infinite negative) => if negative then ⊥ else ⊤
  | .real .undefined => ⊥

theorem unitsOfInt_lt {a b : Int} : Binary64.unitsOfInt a < Binary64.unitsOfInt b ↔ a < b := by
  rw [Binary64.unitsOfInt, Binary64.unitsOfInt]
  generalize Binary64.leastExponent.natAbs = places
  exact Int.mul_lt_mul_right (Int.natCast_pos.2 (Nat.pow_pos Nat.two_pos))

theorem coe_coe_lt_top (units : Int) : ((units : WithTop Int) : WithBot (WithTop Int)) < ⊤ :=
  WithBot.coe_lt_coe.2 (WithTop.coe_lt_top units)

end Value.Quantity

namespace Query

open Value

/-- Numbers are compared as their places. -/
theorem lessQuantity_iff {a b : Quantity} (left : a.IsNumber) (right : b.IsNumber) :
    lessQuantity a b = true ↔ a.place < b.place := by
  cases a with
  | whole a =>
    cases b with
    | whole b => simp [lessQuantity, Quantity.place, Quantity.unitsOfInt_lt]
    | real b =>
      cases b with
      | undefined => exact right.elim
      | infinite negative =>
        cases negative <;> simp [lessQuantity, Quantity.place, Quantity.coe_coe_lt_top]
      | finite negative mantissa exponent =>
        simp [lessQuantity, Quantity.place, Binary64.units?]
  | real a =>
    cases a with
    | undefined => exact left.elim
    | infinite negative =>
      cases b with
      | whole b => cases negative <;> simp [lessQuantity, Quantity.place]
      | real b =>
        cases b with
        | undefined => exact right.elim
        | infinite other =>
          cases negative <;> cases other <;> simp [lessQuantity, lessReal, Quantity.place]
        | finite other mantissa exponent =>
          cases negative <;> simp [lessQuantity, lessReal, Quantity.place]
    | finite negative mantissa exponent =>
      cases b with
      | whole b => simp [lessQuantity, Quantity.place, Binary64.units?]
      | real b =>
        cases b with
        | undefined => exact right.elim
        | infinite other =>
          cases other <;>
            simp [lessQuantity, lessReal, Quantity.place, Quantity.coe_coe_lt_top]
        | finite other mantissa exponent =>
          simp [lessQuantity, lessReal, Quantity.place, Binary64.units?]

namespace Rank

/-! ### Ranks -/

/-- A rank other than that of the undefined number. -/
def IsOrdered : Rank → Prop
  | .quantity number => number.IsNumber
  | _ => True

/-- The place of a rank: numbers, then texts, then missing values. -/
def place : Rank → Nat ×ₗ (WithBot (WithTop Int) ×ₗ Text)
  | .quantity number => toLex (0, toLex (number.place, []))
  | .text content => toLex (1, toLex (⊥, content))
  | .missing => toLex (2, toLex (⊥, []))

/-- Ranks are compared as their places. -/
theorem less_iff {a b : Rank} (left : a.IsOrdered) (right : b.IsOrdered) :
    a.less b = true ↔ a.place < b.place := by
  cases a with
  | quantity a =>
    cases b with
    | quantity b =>
      rw [less, lessQuantity_iff left right]
      simp [place, Prod.Lex.toLex_lt_toLex]
    | text b => simp [less, place, Prod.Lex.toLex_lt_toLex]
    | missing => simp [less, place, Prod.Lex.toLex_lt_toLex]
  | text a =>
    cases b with
    | quantity b => simp [less, place, Prod.Lex.toLex_lt_toLex]
    | text b =>
      rw [less, Text.before_iff]
      simp [place, Prod.Lex.toLex_lt_toLex]
    | missing => simp [less, place, Prod.Lex.toLex_lt_toLex]
  | missing => cases b <;> simp [less, place, Prod.Lex.toLex_lt_toLex]

end Rank

/-! ### Stable sorting -/

/-- The output is the stable sort of the input: what is in order in the input already stays in
its order. -/
structure StableSort {Item : Type} (precedes : Item → Item → Prop) (input output : List Item) :
    Prop where
  perm : output.Perm input
  sorted : output.Pairwise fun left right => ¬ precedes right left
  stable : ∀ group : List Item, group.Sublist input →
    group.Pairwise (fun left right => ¬ precedes right left) → group.Sublist output

/-- The sort of the standard library is stable in this sense. -/
theorem stableSort_mergeSort {Item : Type} {precedes : Item → Item → Prop}
    {le : Item → Item → Bool} (transitive : ∀ a b c, le a b → le b c → le a c)
    (total : ∀ a b, le a b || le b a) {input : List Item}
    (same : ∀ a ∈ input, ∀ b ∈ input, ¬ precedes b a ↔ le a b = true) :
    StableSort precedes input (input.mergeSort le) where
  perm := List.mergeSort_perm input le
  sorted := by
    refine (List.pairwise_mergeSort transitive total input).imp_of_mem fun left right ordered => ?_
    exact (same _ (List.mem_mergeSort.1 left) _ (List.mem_mergeSort.1 right)).2 ordered
  stable := by
    intro group inInput ordered
    refine List.sublist_mergeSort transitive total ?_ inInput
    refine ordered.imp_of_mem fun left right behind => ?_
    exact (same _ (inInput.subset left) _ (inInput.subset right)).1 behind

/-! ### Ranks of notes -/

theorem isOrdered_of_ofValue {value : Value} (number : value ≠ .float .undefined) {rank : Rank}
    (found : Rank.ofValue value = .ok rank) : rank.IsOrdered := by
  cases value with
  | null =>
    obtain rfl := Except.ok.inj found
    exact trivial
  | int value =>
    obtain rfl := Except.ok.inj found
    exact trivial
  | float value =>
    obtain rfl := Except.ok.inj found
    cases value with
    | undefined => exact number rfl
    | _ => exact trivial
  | _ =>
    obtain ⟨content, -, same⟩ := bind_eq_ok.1 found
    obtain rfl := Except.ok.inj same
    exact trivial

namespace Order

/-- The rank of a note; without one, a note stands with those that miss the value. -/
def rank (order : Order) (note : Note) : Rank :=
  match Rank.ofValue (resolve note order.field) with
  | .ok rank => rank
  | .error _ => .missing

/-- Whether an order puts one note strictly before another. -/
def Precedes (order : Order) (left right : Note) : Prop :=
  match order.direction with
  | .ascending => (order.rank left).less (order.rank right) = true
  | .descending => (order.rank right).less (order.rank left) = true

/-- The notes that an order compares without a fault: the value has a text, and it is a number
if it is a real one. -/
def Ranks (order : Order) (note : Note) : Prop :=
  (resolve note order.field).HasText ∧ resolve note order.field ≠ .float .undefined

variable {order : Order} {note : Note} (ranked : order.Ranks note)
include ranked

theorem Ranks.ofValue_eq : Rank.ofValue (resolve note order.field) = .ok (order.rank note) := by
  obtain ⟨found, same⟩ := succeeds_ofValue ranked.1
  rw [rank, same]

theorem Ranks.isOrdered : (order.rank note).IsOrdered :=
  isOrdered_of_ofValue ranked.2 ranked.ofValue_eq

end Order

/-! ### Sorting notes -/

namespace Order

/-- Whether an order leaves one note before another, by the places of their ranks. -/
def leaves (order : Order) (left right : Note) : Bool :=
  match order.direction with
  | .ascending => (order.rank left).place ≤ (order.rank right).place
  | .descending => (order.rank right).place ≤ (order.rank left).place

theorem leaves_trans (order : Order) (a b c : Note) :
    order.leaves a b → order.leaves b c → order.leaves a c := by
  cases direction : order.direction with
  | ascending =>
    simp only [leaves, direction, decide_eq_true_eq]
    exact le_trans
  | descending =>
    simp only [leaves, direction, decide_eq_true_eq]
    exact fun first second => le_trans second first

theorem leaves_total (order : Order) (a b : Note) : order.leaves a b || order.leaves b a := by
  cases direction : order.direction <;> simp [leaves, direction, le_total]

section Pairs

variable {order : Order} {left right : Note} (first : order.Ranks left)
  (second : order.Ranks right)
include first second

theorem Ranks.not_precedes_iff : ¬ order.Precedes right left ↔ order.leaves left right = true := by
  cases direction : order.direction with
  | ascending =>
    simp only [Precedes, leaves, direction, decide_eq_true_eq]
    rw [Rank.less_iff second.isOrdered first.isOrdered, not_lt]
  | descending =>
    simp only [Precedes, leaves, direction, decide_eq_true_eq]
    rw [Rank.less_iff first.isOrdered second.isOrdered, not_lt]

theorem Ranks.mayPrecede_eq :
    (order.rank left).mayPrecede order.direction (order.rank right) = order.leaves left right := by
  rw [Bool.eq_iff_iff, ← first.not_precedes_iff second]
  cases direction : order.direction <;> simp [Rank.mayPrecede, Precedes, direction]

end Pairs

end Order

theorem sort_eq_mergeSort {order : Order} {notes : List Note}
    (ranked : ∀ note ∈ notes, order.Ranks note) :
    sort order notes = .ok (notes.mergeSort order.leaves) := by
  have pairs : notes.mapM (fun note => do
      return (← Rank.ofValue (resolve note order.field), note)) =
        .ok (notes.map fun note => (order.rank note, note)) := by
    refine mapM_eq_map fun note member => ?_
    rw [(ranked note member).ofValue_eq]
    rfl
  have agree : ∀ a ∈ notes.map fun note => (order.rank note, note),
      ∀ b ∈ notes.map fun note => (order.rank note, note),
        a.1.mayPrecede order.direction b.1 = order.leaves a.2 b.2 := by
    intro a inA b inB
    obtain ⟨left, inLeft, rfl⟩ := List.mem_map.1 inA
    obtain ⟨right, inRight, rfl⟩ := List.mem_map.1 inB
    exact (ranked left inLeft).mayPrecede_eq (ranked right inRight)
  have sorted : (((notes.map fun note => (order.rank note, note)).mergeSort fun a b =>
      a.1.mayPrecede order.direction b.1).map (·.2)) = notes.mergeSort order.leaves := by
    rw [List.map_mergeSort agree, List.map_map]
    exact congrArg (List.mergeSort · order.leaves) (List.map_id notes)
  rcases notes with _ | ⟨first, _ | ⟨second, others⟩⟩
  · rw [sort, List.mergeSort_nil]
  · rw [sort, List.mergeSort_singleton]
  · rw [sort, pairs]
    · exact congrArg Except.ok sorted
    · simp
    · simp

/-- Notes that an order compares are sorted stably. -/
theorem stableSort_leaves {order : Order} {notes : List Note}
    (ranked : ∀ note ∈ notes, order.Ranks note) :
    StableSort order.Precedes notes (notes.mergeSort order.leaves) :=
  stableSort_mergeSort order.leaves_trans order.leaves_total fun left inLeft right inRight =>
    (ranked left inLeft).not_precedes_iff (ranked right inRight)

end Query

end CampaignPress
