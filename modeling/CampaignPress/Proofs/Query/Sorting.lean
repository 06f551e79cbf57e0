/-
This file says how notes are sorted, in words of their values alone. A value
has a key: its exact number, or its text, or a place behind all others if it is
missing. Notes come out in the order of their keys or in the reverse of it, and
either way notes with one key stay as they were. What carries this is that ranks
are compared as keys, numbers in units of the least of them being a scale.
-/
import CampaignPress.Proofs.Query.Order
import CampaignPress.Proofs.Query.Shown

namespace CampaignPress

theorem Numeral.signed_mul (negative : Bool) (number factor : Nat) :
    signed negative (number * factor) = signed negative number * factor := by
  cases negative <;> simp [signed]

namespace Value.Quantity

/-! ### Sizes -/

/-- The number of a quantity, with the infinite ones at the ends. A finite number is its mantissa
times a power of two, and no number has a power below the least one. -/
def size : Quantity → WithBot (WithTop ℚ)
  | .whole number => (((number : ℚ) : WithTop ℚ) : WithBot (WithTop ℚ))
  | .real (.finite negative mantissa exponent) =>
    (((Numeral.signed negative mantissa : ℚ) * 2 ^ max exponent Binary64.leastExponent :
      ℚ) : WithTop ℚ)
  | .real (.infinite negative) => if negative then ⊥ else ⊤
  | .real .undefined => ⊥

/-- The number that counts units. -/
def ofUnits (units : Int) : ℚ := units / 2 ^ Binary64.leastExponent.natAbs

theorem strictMono_ofUnits : StrictMono ofUnits := fun a b less => by
  rw [ofUnits, ofUnits]
  exact div_lt_div_of_pos_right (Int.cast_lt.2 less) (by positivity)

theorem ofUnits_unitsOfInt (number : Int) : ofUnits (Binary64.unitsOfInt number) = number := by
  rw [ofUnits, Binary64.unitsOfInt]
  generalize Binary64.leastExponent.natAbs = places
  have positive : (2 : ℚ) ^ places ≠ 0 := by positivity
  rw [Int.cast_mul, Int.ofNat_eq_natCast, Int.cast_natCast, Nat.pow_eq, Nat.cast_pow,
    Nat.cast_ofNat, mul_div_cancel_right₀ _ positive]

theorem ofUnits_finite (negative : Bool) (mantissa : Nat) (exponent : Int) :
    ofUnits (Numeral.signed negative
      (mantissa * Nat.pow 2 (exponent - Binary64.leastExponent).toNat)) =
        (Numeral.signed negative mantissa : ℚ) * 2 ^ max exponent Binary64.leastExponent := by
  have places : Binary64.leastExponent = -(Binary64.leastExponent.natAbs : Int) := rfl
  have power : max exponent Binary64.leastExponent =
      (exponent - Binary64.leastExponent).toNat - (Binary64.leastExponent.natAbs : Int) := by
    omega
  rw [ofUnits, Numeral.signed_mul, power, zpow_sub₀ two_ne_zero, zpow_natCast, zpow_natCast, Int.cast_mul,
    Int.cast_natCast, Nat.pow_eq, Nat.cast_pow, Nat.cast_ofNat, mul_div_assoc]

/-- The places of quantities are their sizes on another scale. -/
theorem size_eq_map_place {quantity : Quantity} (number : quantity.IsNumber) :
    quantity.size = quantity.place.map (WithTop.map ofUnits) := by
  cases quantity with
  | whole number =>
    rw [size, place, WithBot.map_coe, WithTop.map_coe, ofUnits_unitsOfInt]
  | real number' =>
    cases number' with
    | undefined => exact number.elim
    | infinite negative => cases negative <;> rfl
    | finite negative mantissa exponent =>
      rw [size, place, WithBot.map_coe, WithTop.map_coe, Binary64.units?, Option.getD_some,
        ofUnits_finite]

theorem size_lt_size_iff {a b : Quantity} (left : a.IsNumber) (right : b.IsNumber) :
    a.size < b.size ↔ a.place < b.place := by
  have scale : StrictMono (WithBot.map (WithTop.map ofUnits)) :=
    (strictMono_ofUnits.withTop_map).withBot_map
  rw [size_eq_map_place left, size_eq_map_place right]
  exact scale.lt_iff_lt

end Value.Quantity

namespace Query

open Value

/-! ### Keys -/

/-- What values are sorted by: all numbers, then all texts by code points, then the place of the
values that are missing. -/
abbrev Key := WithBot (WithTop ℚ) ⊕ₗ Text ⊕ₗ Unit

/-- The text of a single value, if it has one. -/
def writing (value : Value) : Text := (plainText value).toOption.getD []

/-- Numbers are sorted by their size, several values by their texts one after the other, and truth
values, dates and all others by their text. -/
def keyOf : Value → Key
  | .null => Sum.inrₗ (Sum.inrₗ ())
  | .int number => Sum.inlₗ (Quantity.size (.whole number))
  | .float number => Sum.inlₗ (Quantity.size (.real number))
  | .list items => Sum.inrₗ (Sum.inlₗ (Text.join ", " (items.map writing)))
  | .tuple items => Sum.inrₗ (Sum.inlₗ (Text.join ", " (items.map writing)))
  | value => Sum.inrₗ (Sum.inlₗ (writing value))

theorem writing_eq {value : Value} {text : Text} (written : plainText value = .ok text) :
    writing value = text := by
  rw [writing, written]
  rfl

theorem map_writing_eq {items : List Value} {texts : List Text}
    (written : items.mapM plainText = .ok texts) : items.map writing = texts := by
  have each := forall₂_of_mapM written
  clear written
  induction each with
  | nil => rfl
  | cons here _ inductionHypothesis => rw [List.map_cons, writing_eq here, inductionHypothesis]

def Rank.key : Rank → Key
  | .quantity number => Sum.inlₗ number.size
  | .text content => Sum.inrₗ (Sum.inlₗ content)
  | .missing => Sum.inrₗ (Sum.inrₗ ())

/-- The key of a value is that of its rank. -/
theorem key_of_ofValue {value : Value} {rank : Rank} (ranked : Rank.ofValue value = .ok rank) :
    rank.key = keyOf value := by
  have several {items : List Value} (ranked : (do
      return Rank.text (Text.join ", " (← items.mapM plainText)) : Except Fault Rank) = .ok rank) :
      rank.key = Sum.inrₗ (Sum.inlₗ (Text.join ", " (items.map writing))) := by
    obtain ⟨texts, written, same⟩ := bind_eq_ok.1 ranked
    rw [map_writing_eq written, ← Except.ok.inj same]
    rfl
  have single (ranked : (do return Rank.text (← plainText value) : Except Fault Rank) = .ok rank) :
      rank.key = Sum.inrₗ (Sum.inlₗ (writing value)) := by
    obtain ⟨text, written, same⟩ := bind_eq_ok.1 ranked
    rw [writing_eq written, ← Except.ok.inj same]
    rfl
  cases value with
  | null => rw [← Except.ok.inj ranked]; rfl
  | int number => rw [← Except.ok.inj ranked]; rfl
  | float number => rw [← Except.ok.inj ranked]; rfl
  | list items => exact several ranked
  | tuple items => exact several ranked
  | _ => exact single ranked

/-- Ranks are compared as their keys. -/
theorem Rank.less_iff_key_lt {a b : Rank} (left : a.IsOrdered) (right : b.IsOrdered) :
    a.less b = true ↔ a.key < b.key := by
  cases a with
  | quantity a =>
    cases b with
    | quantity b =>
      rw [less, lessQuantity_iff left right, ← Quantity.size_lt_size_iff left right]
      exact Sum.Lex.inl_lt_inl_iff.symm
    | text b => simp [less, key]
    | missing => simp [less, key]
  | text a =>
    cases b with
    | quantity b => simp [less, key]
    | text b =>
      rw [less, Text.before_iff]
      simp [key]
    | missing => simp [less, key]
  | missing => cases b <;> simp [less, key]

/-! ### Sorted notes -/

/-- Whether one key may stand before another. -/
def Direction.Allows : Direction → Key → Key → Prop
  | .ascending, left, right => left ≤ right
  | .descending, left, right => right ≤ left

/-- The key of a note is that of the value that an order looks at. -/
def Order.key (order : Order) (note : Note) : Key := keyOf (resolve note order.field)

/-- The output is the input in the order of keys, and items of one key follow each other as they
did. -/
structure SortedBy {Item : Type} (key : Item → Key) (direction : Direction)
    (input output : List Item) : Prop where
  perm : output.Perm input
  sorted : output.Pairwise fun left right => direction.Allows (key left) (key right)
  stable : ∀ place, output.filter (fun item => key item = place) =
    input.filter fun item => key item = place

section Pairs

variable {order : Order} {left right : Note} (first : order.Ranks left)
  (second : order.Ranks right)
include first second

theorem Order.Ranks.not_precedes_iff_allows :
    ¬ order.Precedes right left ↔ order.direction.Allows (order.key left) (order.key right) := by
  have leftKey : (order.rank left).key = order.key left := key_of_ofValue first.ofValue_eq
  have rightKey : (order.rank right).key = order.key right := key_of_ofValue second.ofValue_eq
  cases direction : order.direction with
  | ascending =>
    simp only [Order.Precedes, direction, Direction.Allows]
    rw [Rank.less_iff_key_lt second.isOrdered first.isOrdered, leftKey, rightKey, not_lt]
  | descending =>
    simp only [Order.Precedes, direction, Direction.Allows]
    rw [Rank.less_iff_key_lt first.isOrdered second.isOrdered, leftKey, rightKey, not_lt]

end Pairs

/-- In a stable sort, the items of one key are a group that is in order already. -/
theorem StableSort.filter_eq {order : Order} {input output : List Note}
    (ranked : ∀ note ∈ input, order.Ranks note) (sorted : StableSort order.Precedes input output)
    (place : Key) : output.filter (fun note => order.key note = place) =
      input.filter fun note => order.key note = place := by
  have group : (input.filter fun note => order.key note = place).Pairwise
      fun left right => ¬ order.Precedes right left := by
    refine List.pairwise_of_forall_mem_list fun left inLeft right inRight => ?_
    obtain ⟨inLeft, leftKey⟩ := List.mem_filter.1 inLeft
    obtain ⟨inRight, rightKey⟩ := List.mem_filter.1 inRight
    rw [(ranked left inLeft).not_precedes_iff_allows (ranked right inRight),
      of_decide_eq_true leftKey, of_decide_eq_true rightKey]
    cases order.direction <;> exact le_refl place
  have kept := (sorted.stable _ List.filter_sublist group).filter fun note => order.key note = place
  rw [List.filter_filter] at kept
  simp only [Bool.and_self] at kept
  exact (kept.eq_of_length (sorted.perm.filter _).length_eq.symm).symm

/-- Notes whose values have a text and are no undefined number are sorted by these values: numbers
come before texts and texts before missing values, or the other way round, and in both directions
notes of one key keep their order. -/
theorem sort_sortedBy {order : Order} {notes : List Note}
    (ranked : ∀ note ∈ notes, order.Ranks note) :
    ∃ sorted, sort order notes = .ok sorted ∧ SortedBy order.key order.direction notes sorted := by
  have stable := stableSort_leaves ranked
  refine ⟨_, sort_eq_mergeSort ranked, stable.perm, ?_, stable.filter_eq ranked⟩
  refine stable.sorted.imp_of_mem fun inLeft inRight unordered => ?_
  have left := ranked _ (stable.perm.subset inLeft)
  have right := ranked _ (stable.perm.subset inRight)
  exact (left.not_precedes_iff_allows right).1 unordered

/-- Numbers of both kinds, texts, a list, a date and nothing; a whole number and a real one have
the same key, and one note is there twice. -/
theorem sort_sortedBy_ranks :
    let note (path : Text) (rank : Value) : Note := ⟨path, path, path, [(.text "rank", rank)], none⟩
    let real : Note := note "a" (.float (.finite false 6755399441055744 (-51)))
    let whole : Note := note "b" (.int 3)
    let notes := [note "c" .null, note "d" (.bool true), whole, note "e" (.list [.text "x", .null]),
      real, note "f" (.date ⟨2024, 1, 31⟩), whole, note "g" (.float (.infinite true))]
    let order : Order := ⟨"rank", .descending⟩
    (∀ note ∈ notes, order.Ranks note) ∧ order.key real = order.key whole ∧
      ∃ sorted, sort order notes = .ok sorted ∧ SortedBy order.key order.direction notes sorted := by
  intro note real whole notes order
  have three : Numeral.IsSmall 3 := Numeral.isSmall_of_lt (by decide)
  have ranked : ∀ note ∈ notes, order.Ranks note := by
    simp only [notes, List.forall_mem_cons]
    exact ⟨⟨.ok _, nofun⟩, ⟨.ok _, nofun⟩, ⟨hasText_int three, nofun⟩, ⟨.ok _, nofun⟩,
      ⟨.ok _, nofun⟩, ⟨.ok _, nofun⟩, ⟨hasText_int three, nofun⟩, ⟨.ok _, nofun⟩,
      List.forall_mem_nil _⟩
  have same : ((6755399441055744 : Int) : ℚ) * 2 ^ max (-51) Binary64.leastExponent =
      ((3 : Int) : ℚ) := by
    norm_num [Binary64.leastExponent]
  have ties := congrArg (fun size : ℚ => (Sum.inlₗ ((size : WithTop ℚ) : WithBot (WithTop ℚ)) : Key))
    same
  exact ⟨ranked, ties, sort_sortedBy ranked⟩

end Query

end CampaignPress
