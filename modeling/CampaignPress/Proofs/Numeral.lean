/-
This file says which numbers can be read and written. A numeral with no more
digits than the limit is read, and the number that it writes can be written.
-/
import CampaignPress.Numeral
import CampaignPress.Proofs.Text.Lines
import CampaignPress.Proofs.Value.Text

namespace CampaignPress

namespace Text

/-! ### Digits -/

theorem toNat_lt_of_isDigit {c : Char} (digit : c.isDigit) : c.toNat < 128 := by
  simp only [Char.isDigit, Bool.and_eq_true, decide_eq_true_eq, ge_iff_le,
    UInt32.le_iff_toNat_le] at digit
  exact digit.2.trans_lt (by decide)

theorem decimalValue?_of_isDigit {c : Char} (digit : c.isDigit) :
    decimalValue? c = some (c.toNat - '0'.toNat) := by
  have all : ∀ code < 128, (Char.ofNat code).isDigit →
      decimalValue? (Char.ofNat code) = some ((Char.ofNat code).toNat - '0'.toNat) := by
    decide
  have found := all c.toNat (toNat_lt_of_isDigit digit)
  rw [Char.ofNat_toNat] at found
  exact found digit

theorem isDecimal_of_isDigit {c : Char} (digit : c.isDigit) : isDecimal c := by
  rw [isDecimal, decimalValue?_of_isDigit digit]
  rfl

theorem isDigit_of_isDecimal {c : Char} (decimal : isDecimal c) : isDigit c := by
  rw [isDigit, decimal]
  rfl

theorem isBlank_of_isDigit {c : Char} (digit : c.isDigit) : isBlank c = false := by
  have all : ∀ code < 128, (Char.ofNat code).isDigit → isBlank (Char.ofNat code) = false := by
    decide
  have found := all c.toNat (toNat_lt_of_isDigit digit)
  rw [Char.ofNat_toNat] at found
  exact found digit

theorem lt_of_decimalValue? {c : Char} {value : Nat} (found : decimalValue? c = some value) :
    value < 10 := by
  obtain ⟨first, member, rfl⟩ := Option.map_eq_some_iff.1 found
  have range := List.find?_some member
  rw [Bool.and_eq_true, decide_eq_true_eq, decide_eq_true_eq] at range
  omega

end Text

namespace Numeral

/-! ### Values -/

theorem ofDigits_lt {digits : List Nat} (small : ∀ digit ∈ digits, digit < 10) :
    ofDigits 10 digits < 10 ^ digits.length := by
  induction digits using List.reverseRecOn with
  | nil => exact Nat.one_pos
  | append_singleton digits digit inductionHypothesis =>
    rw [List.forall_mem_append, List.forall_mem_singleton] at small
    have before := inductionHypothesis small.1
    rw [ofDigits] at before ⊢
    rw [List.foldl_append, List.length_append, List.foldl_cons, List.foldl_nil,
      List.length_singleton, Nat.pow_succ]
    omega

theorem digitValues?_cons (c : Char) (text : Text) :
    digitValues? (c :: text) =
      (Text.decimalValue? c).bind fun value => (digitValues? text).map (value :: ·) := by
  rw [digitValues?, List.mapM_cons]
  cases Text.decimalValue? c with
  | none => rfl
  | some value => cases digits : text.mapM Text.decimalValue? <;> simp [digitValues?, digits]

/-- Exactly the texts of decimal digits have values. -/
theorem isSome_digitValues?_iff {text : Text} :
    (digitValues? text).isSome ↔ ∀ c ∈ text, Text.isDecimal c := by
  induction text with
  | nil => simp [digitValues?]
  | cons c text inductionHypothesis =>
    rw [List.forall_mem_cons, ← inductionHypothesis, digitValues?_cons, Text.isDecimal]
    cases Text.decimalValue? c <;> simp

theorem isDecimal_of_digitValues? {text : Text} {values : List Nat}
    (found : digitValues? text = some values) : ∀ c ∈ text, Text.isDecimal c :=
  isSome_digitValues?_iff.1 (found ▸ rfl)

theorem forall_lt_of_digitValues? {text : Text} {digits : List Nat}
    (found : digitValues? text = some digits) :
    digits.length = text.length ∧ ∀ digit ∈ digits, digit < 10 := by
  induction text generalizing digits with
  | nil =>
    obtain rfl := Option.some.inj found
    exact ⟨rfl, by simp⟩
  | cons c text inductionHypothesis =>
    rw [digitValues?_cons] at found
    obtain ⟨digit, here, found⟩ := Option.bind_eq_some_iff.1 found
    obtain ⟨others, later, rfl⟩ := Option.map_eq_some_iff.1 found
    obtain ⟨length, small⟩ := inductionHypothesis later
    exact ⟨congrArg (· + 1) length,
      List.forall_mem_cons.2 ⟨Text.lt_of_decimalValue? here, small⟩⟩

theorem parts?_eq_some_iff {text : Text} {negative : Bool} {values : List Nat} :
    parts? text = some (negative, values) ↔
      (cutSign text).1 = negative ∧ digitValues? (cutSign text).2 = some values ∧ values ≠ [] := by
  rw [parts?]
  dsimp only
  rcases digitValues? (cutSign text).2 with _ | _ | ⟨first, others⟩
  · simp
  · simp
  · have nonempty : first :: others = values → values ≠ [] := by
      rintro rfl
      exact List.cons_ne_nil first others
    simpa using fun _ => nonempty

theorem ofSigned_eq_ok_iff {negative : Bool} {values : List Nat} {number : Int} :
    ofSigned negative values = .ok number ↔
      values.length ≤ digitLimit ∧ number = signed negative (ofDigits 10 values) := by
  rw [ofSigned]
  split
  · rename_i long
    exact iff_of_false (by simp) fun short => absurd short.1 (Nat.not_le.2 long)
  · rename_i short
    rw [Except.ok.injEq, eq_comm]
    exact (and_iff_right (Nat.not_lt.1 short)).symm

/-! ### Whole texts -/

/-- A text is read as a whole exactly if it is a numeral once it is trimmed, and holds no
separators. -/
theorem read?_eq_ok_iff {text : Text} {number : Int} : read? text = some (.ok number) ↔
    (∀ c ∈ text, isSeparator c = false) ∧ ∃ negative values,
      parts? (Text.trim text) = some (negative, values) ∧ ofSigned negative values = .ok number := by
  have around : (∀ c ∈ text, isSeparator c = false) ↔ text.any isSeparator = false := by
    rw [List.any_eq_false]
    simp
  have before : text.any isSeparator = false →
      (text.takeWhile Text.isBlank).any isSeparator = false := fun clear => by
    rw [List.any_eq_false] at clear ⊢
    exact fun c member => clear c ((List.takeWhile_prefix _).subset member)
  rw [read?, Option.map_eq_some_iff, around]
  constructor
  · rintro ⟨⟨negative, values⟩, parts, read⟩
    dsimp only at read
    split at read
    · exact nomatch read
    · obtain ⟨value, signed, read⟩ := bind_eq_ok.1 read
      split at read
      · exact nomatch read
      · rename_i clear
        obtain rfl := Except.ok.inj read
        exact ⟨Bool.eq_false_iff.2 clear, negative, values, parts, signed⟩
  · rintro ⟨clear, negative, values, parts, read⟩
    refine ⟨(negative, values), parts, ?_⟩
    dsimp only
    rw [before clear, clear, read]
    rfl

/-! ### ASCII digits -/

/-- The values of the digits of a number. -/
def valuesOf (number : Nat) : List Nat := (Nat.toDigits 10 number).map (·.toNat - '0'.toNat)

theorem isDigit_of_mem_toDigits {number : Nat} {c : Char} (member : c ∈ Nat.toDigits 10 number) :
    c.isDigit := Nat.isDigit_of_mem_toDigits (by decide) (by decide) member

theorem isSeparator_of_isDigit {c : Char} (digit : c.isDigit) : isSeparator c = false := by
  have all : ∀ code < 128, (Char.ofNat code).isDigit → isSeparator (Char.ofNat code) = false := by
    decide
  have found := all c.toNat (Text.toNat_lt_of_isDigit digit)
  rw [Char.ofNat_toNat] at found
  exact found digit

theorem digitValues?_toDigits (number : Nat) :
    digitValues? (Nat.toDigits 10 number) = some (valuesOf number) := by
  have each : ∀ text : Text, (∀ c ∈ text, c.isDigit) →
      digitValues? text = some (text.map (·.toNat - '0'.toNat)) := by
    intro text digits
    induction text with
    | nil => rfl
    | cons c text inductionHypothesis =>
      rw [List.forall_mem_cons] at digits
      rw [digitValues?_cons, Text.decimalValue?_of_isDigit digits.1, inductionHypothesis digits.2]
      rfl
  exact each _ fun c => isDigit_of_mem_toDigits

theorem ofDigits_valuesOf (number : Nat) : ofDigits 10 (valuesOf number) = number := by
  rw [ofDigits, valuesOf, List.foldl_map]
  exact Nat.ofDigitChars_ten_toDigits

/-- A numeral within the limit is read as the number that it was written for. -/
theorem ofSigned_valuesOf (negative : Bool) {number : Nat} (small : number < 10 ^ digitLimit) :
    ofSigned negative (valuesOf number) = .ok (signed negative number) := by
  have short : (valuesOf number).length ≤ digitLimit := by
    rw [valuesOf, List.length_map]
    exact (Nat.length_toDigits_le_iff (by decide) (by decide)).2 small
  exact ofSigned_eq_ok_iff.2 ⟨short, by rw [ofDigits_valuesOf]⟩

/-! ### Limits -/

/-- A number that can be written. -/
def IsSmall (number : Int) : Prop := number.natAbs < 10 ^ digitLimit

instance (number : Int) : Decidable (IsSmall number) := inferInstanceAs (Decidable (_ < _))

/-- A bound that is evaluated at once, unlike the limit itself. -/
theorem le_pow_digitLimit {count : Nat} (few : count ≤ 10 ^ 9) : count ≤ 10 ^ digitLimit :=
  few.trans (Nat.pow_le_pow_right (by decide) (by decide))

theorem isSmall_of_lt {number : Int} (few : number.natAbs < 10 ^ 9) : IsSmall number :=
  few.trans_le (le_pow_digitLimit le_rfl)

theorem write_eq {number : Int} (small : IsSmall number) : write number = .ok (digits number) := by
  rw [IsSmall] at small
  rw [write, Nat.pow_eq, if_pos small]

theorem succeeds_write {number : Int} (small : IsSmall number) : Succeeds (write number) :=
  ⟨digits number, write_eq small⟩

theorem isSmall_of_ofSigned {negative : Bool} {digits : List Nat} {number : Int}
    (small : ∀ digit ∈ digits, digit < 10) (read : ofSigned negative digits = .ok number) :
    IsSmall number := by
  obtain ⟨short, rfl⟩ := ofSigned_eq_ok_iff.1 read
  have size : (signed negative (ofDigits 10 digits)).natAbs = ofDigits 10 digits := by
    rw [signed]
    split
    · exact Int.natAbs_neg _
    · rfl
  rw [IsSmall, size]
  exact (ofDigits_lt small).trans_le (Nat.pow_le_pow_right (by decide) short)

/-- No number beyond the limit is read at the beginning of a text. -/
theorem isSmall_readLeading {otherwise : Int} (small : IsSmall otherwise) (text : Text) :
    IsSmall (readLeading otherwise text) := by
  rw [readLeading]
  dsimp only
  split
  · rename_i values
    split
    · rename_i read
      exact isSmall_of_ofSigned (forall_lt_of_digitValues? values).2 read
    · exact small
  · exact small

/-! ### Written numbers -/

/-- A written number is its sign and the digits of its size. -/
theorem digits_eq (number : Int) : ∃ negative sign, signed negative number.natAbs = number ∧
    digits number = sign ++ Nat.toDigits 10 number.natAbs ∧ (∀ c ∈ sign, c = '-') ∧
    cutSign (digits number) = (negative, Nat.toDigits 10 number.natAbs) := by
  rw [digits]
  by_cases below : number < 0
  · refine ⟨true, ['-'], ?_, if_pos below, by simp, ?_⟩
    · rw [signed, if_pos rfl]
      show -(number.natAbs : Int) = number
      omega
    · rw [if_pos below]
      rfl
  · refine ⟨false, [], ?_, if_neg below, by simp, ?_⟩
    · show (number.natAbs : Int) = number
      omega
    · rw [if_neg below, cutSign.eq_def]
      split
      · rename_i rest same
        exact absurd (isDigit_of_mem_toDigits (same ▸ List.mem_cons_self)) (by decide)
      · rename_i rest same
        exact absurd (isDigit_of_mem_toDigits (same ▸ List.mem_cons_self)) (by decide)
      · rfl

theorem isDigit_or_eq_of_mem_digits {number : Int} {c : Char} (member : c ∈ digits number) :
    c.isDigit ∨ c = '-' := by
  obtain ⟨-, sign, -, same, signs, -⟩ := digits_eq number
  rw [same] at member
  exact (List.mem_append.1 member).symm.imp isDigit_of_mem_toDigits (signs c)

/-- A written number has no blanks around it. -/
theorem trim_digits (number : Int) : Text.trim (digits number) = digits number := by
  have solid : ∀ c ∈ digits number, Text.isBlank c = false := fun c member => by
    rcases isDigit_or_eq_of_mem_digits member with digit | rfl
    · exact Text.isBlank_of_isDigit digit
    · decide
  exact Text.trim_eq_self (fun c found => solid c (List.mem_of_head? found))
    fun c found => solid c (List.mem_of_getLast? found)

/-- A number within the limit is read back. -/
theorem readLeading_digits (otherwise : Int) {number : Int} (small : IsSmall number) :
    readLeading otherwise (digits number) = number := by
  obtain ⟨negative, -, whole, -, -, cut⟩ := digits_eq number
  have run : (Nat.toDigits 10 number.natAbs).takeWhile Text.isDigit =
      Nat.toDigits 10 number.natAbs :=
    List.takeWhile_eq_self_iff.2 fun c member =>
      Text.isDigit_of_isDecimal (Text.isDecimal_of_isDigit (isDigit_of_mem_toDigits member))
  rw [readLeading, trim_digits, cut]
  dsimp only
  rw [run, digitValues?_toDigits]
  cases values : valuesOf number.natAbs with
  | nil => exact absurd (List.map_eq_nil_iff.1 values) Nat.toDigits_ne_nil
  | cons first others =>
    dsimp only
    rw [← values, ofSigned_valuesOf negative small, whole]

theorem read?_digits {number : Int} (small : IsSmall number) :
    read? (digits number) = some (.ok number) := by
  obtain ⟨negative, -, whole, -, -, cut⟩ := digits_eq number
  have parts : parts? (digits number) = some (negative, valuesOf number.natAbs) := by
    rw [parts?_eq_some_iff, cut]
    refine ⟨rfl, digitValues?_toDigits _, fun empty => ?_⟩
    exact Nat.toDigits_ne_nil (List.map_eq_nil_iff.1 empty)
  have solid : ∀ c ∈ digits number, isSeparator c = false := fun c member => by
    rcases isDigit_or_eq_of_mem_digits member with digit | rfl
    · exact isSeparator_of_isDigit digit
    · decide
  refine read?_eq_ok_iff.2 ⟨solid, negative, _, ?_, ofSigned_valuesOf negative small |>.trans ?_⟩
  · rw [trim_digits, parts]
  · rw [whole]

/-- Where nothing is written, the given number is read. -/
theorem readLeading_nil (otherwise : Int) : readLeading otherwise [] = otherwise := rfl

end Numeral

end CampaignPress
