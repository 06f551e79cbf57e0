/-
This file says which number is read at the beginning of a text. The longest
beginning that is a numeral would be expected: an optional sign and decimal
digits, no more than the limit. But the digits are collected in the wide sense
and without regard to the limit, and what cannot be read then counts as no
number at all. So a raised or circled digit behind the decimal ones hides them,
and so does one digit too many; in every other text the longest numeral is read,
as it is where the numeral is the whole text. A property is read as a whole only,
and then blanks that are separators may not stand around its numeral.
-/
import CampaignPress.Proofs.Mechanics.Limit

namespace CampaignPress

namespace Numeral

/-! ### Numerals -/

/-- An optional sign, and whether it is that of negative numbers. -/
inductive IsSign : Text → Bool → Prop
  | none : IsSign [] false
  | plus : IsSign ['+'] false
  | minus : IsSign ['-'] true

/-- A numeral is an optional sign and at least one decimal digit, but no more than the limit. -/
inductive Writes : Text → Int → Prop
  | intro {sign digits : Text} {negative : Bool} {values : List Nat} : IsSign sign negative →
    digits ≠ [] → digits.length ≤ digitLimit → digitValues? digits = some values →
    Writes (sign ++ digits) (signed negative (ofDigits 10 values))

/-- The longest numeral that a text begins with writes the number. -/
def LeadsWith (text : Text) (number : Int) : Prop :=
  ∃ numeral, numeral <+: text ∧ Writes numeral number ∧
    ∀ other value, other <+: text → Writes other value → other.length ≤ numeral.length

/-- The number that is expected of a text: that of the longest numeral at its beginning, and another
one if it begins with none. -/
def IsLeading (otherwise : Int) (text : Text) (number : Int) : Prop :=
  LeadsWith (Text.trim text) number ∨
    (number = otherwise ∧ ∀ numeral value, numeral <+: Text.trim text → ¬Writes numeral value)

/-- The decimal digits at the beginning, behind the sign. -/
def leadingDigits (text : Text) : Text := (cutSign text).2.takeWhile Text.isDecimal

/-- No digit of another kind stands right behind the decimal digits at the beginning. -/
def EndsClear (text : Text) : Prop :=
  ∀ c ∈ ((cutSign text).2.dropWhile Text.isDecimal).head?, Text.isDigit c = false

/-- The decimal digits at the beginning are read: there are some, but no more than the limit, and
nothing behind them is taken for one of them. -/
structure IsReadable (text : Text) : Prop where
  nonempty : leadingDigits text ≠ []
  short : (leadingDigits text).length ≤ digitLimit
  clear : EndsClear text

/-! ### Signs -/

theorem cutSign_of_ne {c : Char} {rest : Text} (minus : c ≠ '-') (plus : c ≠ '+') :
    cutSign (c :: rest) = (false, c :: rest) := by
  rw [cutSign.eq_def]
  split <;> simp_all

/-- The sign is cut off in front of digits. -/
theorem IsSign.cutSign_append {sign digits : Text} {negative : Bool} (isSign : IsSign sign negative)
    (nonempty : digits ≠ []) (decimal : ∀ c ∈ digits, Text.isDecimal c) (rest : Text) :
    cutSign (sign ++ (digits ++ rest)) = (negative, digits ++ rest) := by
  obtain ⟨c, digits, rfl⟩ := List.exists_cons_of_ne_nil nonempty
  have first := decimal c List.mem_cons_self
  cases isSign with
  | none =>
    refine cutSign_of_ne ?_ ?_ <;> rintro rfl <;> exact absurd first (by decide)
  | plus => rfl
  | minus => rfl

theorem exists_isSign (text : Text) :
    ∃ sign, IsSign sign (cutSign text).1 ∧ text = sign ++ (cutSign text).2 := by
  rw [cutSign.eq_def]
  split
  · exact ⟨['-'], .minus, rfl⟩
  · exact ⟨['+'], .plus, rfl⟩
  · exact ⟨[], .none, rfl⟩

/-! ### The longest numeral -/

theorem isDecimal_of_mem_leadingDigits {text : Text} :
    ∀ c ∈ leadingDigits text, Text.isDecimal c := fun _ member => List.mem_takeWhile_imp member

/-- A numeral at the beginning of a text is its sign and some of the digits behind it. -/
theorem Writes.of_prefix {text numeral : Text} {number : Int} (writes : Writes numeral number)
    (start : numeral <+: text) : ∃ sign digits values, text = sign ++ (cutSign text).2 ∧
      numeral = sign ++ digits ∧ digits <+: (leadingDigits text).take digitLimit ∧
      digitValues? digits = some values ∧ digits ≠ [] ∧
      number = signed (cutSign text).1 (ofDigits 10 values) := by
  obtain ⟨rest, rfl⟩ := start
  cases writes with
  | @intro sign digits negative values isSign nonempty short found =>
    have decimal := isDecimal_of_digitValues? found
    have cut := isSign.cutSign_append nonempty decimal rest
    rw [← List.append_assoc] at cut
    refine ⟨sign, digits, values, ?_, rfl, ?_, found, nonempty, by rw [cut]⟩
    · rw [cut, List.append_assoc]
    · rw [List.prefix_take_iff, leadingDigits, cut, List.takeWhile_append_of_pos decimal]
      exact ⟨List.prefix_append _ _, short⟩

theorem take_leadingDigits_ne_nil {text : Text} (nonempty : leadingDigits text ≠ []) :
    (leadingDigits text).take digitLimit ≠ [] := by
  rw [Ne, List.take_eq_nil_iff, not_or]
  exact ⟨by decide, nonempty⟩

/-- A text that goes on with a digit behind its sign begins with a numeral of as many digits as
there are, up to the limit. -/
theorem exists_longest {text : Text} (nonempty : leadingDigits text ≠ []) :
    ∃ sign values, text = sign ++ (cutSign text).2 ∧
      digitValues? ((leadingDigits text).take digitLimit) = some values ∧
      sign ++ (leadingDigits text).take digitLimit <+: text ∧
      Writes (sign ++ (leadingDigits text).take digitLimit)
        (signed (cutSign text).1 (ofDigits 10 values)) := by
  obtain ⟨sign, isSign, same⟩ := exists_isSign text
  obtain ⟨values, found⟩ := Option.isSome_iff_exists.1 <| isSome_digitValues?_iff.2 fun c member =>
    isDecimal_of_mem_leadingDigits c (List.mem_of_mem_take member)
  refine ⟨sign, values, same, found, ?_, .intro isSign (take_leadingDigits_ne_nil nonempty)
    (List.length_take_le _ _) found⟩
  conv => rhs; rw [same]
  exact (List.prefix_append_right_inj sign).2
    ((List.take_prefix _ _).trans (List.takeWhile_prefix _))

theorem leadsWith_iff {text : Text} {number : Int} :
    LeadsWith text number ↔ leadingDigits text ≠ [] ∧
      ∃ values, digitValues? ((leadingDigits text).take digitLimit) = some values ∧
        number = signed (cutSign text).1 (ofDigits 10 values) := by
  constructor
  · rintro ⟨numeral, start, writes, longest⟩
    obtain ⟨sign, digits, values, same, rfl, inside, found, nonempty, rfl⟩ := writes.of_prefix start
    have some : leadingDigits text ≠ [] := by
      intro none'
      rw [none', List.take_nil, List.prefix_nil] at inside
      exact nonempty inside
    obtain ⟨other, others, same', -, start', writes'⟩ := exists_longest some
    obtain rfl : other = sign := List.append_cancel_right (same'.symm.trans same)
    have long := longest _ _ start' writes'
    rw [List.length_append, List.length_append, Nat.add_le_add_iff_left] at long
    rw [← inside.eq_of_length_le long]
    exact ⟨some, values, found, rfl⟩
  · rintro ⟨nonempty, values, found, rfl⟩
    obtain ⟨sign, others, same, found', start, writes⟩ := exists_longest nonempty
    obtain rfl := Option.some.inj (found.symm.trans found')
    refine ⟨_, start, writes, fun numeral value start' writes' => ?_⟩
    obtain ⟨other, digits, -, same', rfl, inside, -⟩ := writes'.of_prefix start'
    obtain rfl : other = sign := List.append_cancel_right (same'.symm.trans same)
    rw [List.length_append, List.length_append, Nat.add_le_add_iff_left]
    exact inside.length_le

theorem LeadsWith.unique {text : Text} {first second : Int} (one : LeadsWith text first)
    (other : LeadsWith text second) : first = second := by
  obtain ⟨-, values, found, rfl⟩ := leadsWith_iff.1 one
  obtain ⟨-, others, found', rfl⟩ := leadsWith_iff.1 other
  rw [Option.some.inj (found.symm.trans found')]

/-- A text begins with a numeral exactly if it goes on with a decimal digit behind its sign. -/
theorem not_writes_iff {text : Text} :
    (∀ numeral value, numeral <+: text → ¬Writes numeral value) ↔ leadingDigits text = [] := by
  constructor
  · intro never
    by_contra nonempty
    obtain ⟨sign, values, -, -, start, writes⟩ := exists_longest nonempty
    exact never _ _ start writes
  · intro none' numeral value start writes
    obtain ⟨sign, digits, values, -, -, inside, -, nonempty, -⟩ := writes.of_prefix start
    rw [none', List.take_nil, List.prefix_nil] at inside
    exact nonempty inside

/-! ### Reading -/

/-- The digits that are collected are the decimal ones and those of other kinds behind them. -/
theorem takeWhile_isDigit_eq (text : Text) : (cutSign text).2.takeWhile Text.isDigit =
    leadingDigits text ++ ((cutSign text).2.dropWhile Text.isDecimal).takeWhile Text.isDigit := by
  conv => lhs; rw [← List.takeWhile_append_dropWhile (p := Text.isDecimal) (l := (cutSign text).2)]
  exact List.takeWhile_append_of_pos fun c member =>
    Text.isDigit_of_isDecimal (List.mem_takeWhile_imp member)

theorem takeWhile_isDigit_of_endsClear {text : Text} (clear : EndsClear text) :
    (cutSign text).2.takeWhile Text.isDigit = leadingDigits text := by
  rw [EndsClear] at clear
  rw [takeWhile_isDigit_eq]
  cases behind : (cutSign text).2.dropWhile Text.isDecimal with
  | nil => exact List.append_nil _
  | cons c rest =>
    have other : ¬Text.isDigit c := by simp [clear c (by rw [behind]; rfl)]
    rw [List.takeWhile_cons_of_neg other, List.append_nil]

/-- A digit of another kind behind the decimal ones leaves all of them without a value. -/
theorem digitValues?_of_not_endsClear {text : Text} (unclear : ¬EndsClear text) :
    digitValues? ((cutSign text).2.takeWhile Text.isDigit) = none := by
  rw [EndsClear] at unclear
  push Not at unclear
  obtain ⟨c, first, digit⟩ := unclear
  rw [← Option.not_isSome_iff_eq_none, isSome_digitValues?_iff, takeWhile_isDigit_eq]
  intro decimal
  obtain ⟨rest, same⟩ := List.head?_eq_some_iff.1 first
  have other : ¬Text.isDecimal c := by
    have := List.head?_dropWhile_not Text.isDecimal (cutSign text).2
    rw [first] at this
    simpa using this
  refine other (decimal c (List.mem_append_right _ ?_))
  rw [same, List.takeWhile_cons_of_pos (by simpa using digit)]
  exact List.mem_cons_self

theorem readLeading_of_isReadable {text : Text} (readable : IsReadable (Text.trim text)) :
    ∃ values, digitValues? (leadingDigits (Text.trim text)) = some values ∧
      ∀ otherwise, readLeading otherwise text =
        signed (cutSign (Text.trim text)).1 (ofDigits 10 values) := by
  obtain ⟨values, found⟩ :=
    Option.isSome_iff_exists.1 (isSome_digitValues?_iff.2 isDecimal_of_mem_leadingDigits)
  refine ⟨values, found, fun otherwise => ?_⟩
  have length := (forall_lt_of_digitValues? found).1
  cases values with
  | nil => exact absurd (List.eq_nil_of_length_eq_zero length.symm) readable.nonempty
  | cons first others =>
    rw [readLeading]
    dsimp only
    rw [takeWhile_isDigit_of_endsClear readable.clear, found]
    dsimp only
    rw [ofSigned_eq_ok_iff.2 ⟨length ▸ readable.short, rfl⟩]

theorem readLeading_of_not_isReadable {text : Text} (unreadable : ¬IsReadable (Text.trim text))
    (otherwise : Int) : readLeading otherwise text = otherwise := by
  rw [readLeading]
  dsimp only
  by_cases clear : EndsClear (Text.trim text)
  · rw [takeWhile_isDigit_of_endsClear clear]
    split
    · rename_i first others found
      have length := (forall_lt_of_digitValues? found).1
      have long : digitLimit < (first :: others).length := by
        by_contra short
        refine unreadable ⟨List.ne_nil_of_length_pos ?_, ?_, clear⟩
        · rw [← length]
          exact Nat.succ_pos _
        · rw [← length]
          exact Nat.not_lt.1 short
      rw [ofSigned, if_pos long]
    · rfl
  · rw [digitValues?_of_not_endsClear clear]

/-- The longest numeral is read wherever the decimal digits are. -/
theorem isLeading_of_isReadable {text : Text} (readable : IsReadable (Text.trim text))
    (otherwise : Int) : IsLeading otherwise text (readLeading otherwise text) := by
  obtain ⟨values, found, read⟩ := readLeading_of_isReadable readable
  rw [read]
  refine .inl (leadsWith_iff.2 ⟨readable.nonempty, values, ?_, rfl⟩)
  rwa [List.take_of_length_le readable.short]

/-- What is expected of a text that begins with a numeral cannot be two different numbers. -/
theorem exists_not_isLeading {text : Text} (nonempty : leadingDigits (Text.trim text) ≠ []) :
    ∃ otherwise, ¬IsLeading otherwise text otherwise := by
  by_contra! every
  have leads (otherwise : Int) : LeadsWith (Text.trim text) otherwise :=
    (every otherwise).resolve_right fun never => nonempty (not_writes_iff.1 never.2)
  exact absurd ((leads 0).unique (leads 1)) (by decide)

/-! ### Whole numerals -/

/-- A numeral is a sign and the values of the digits behind it. -/
theorem writes_iff {text : Text} {number : Int} : Writes text number ↔
    ∃ values, digitValues? (cutSign text).2 = some values ∧ values ≠ [] ∧
      values.length ≤ digitLimit ∧ number = signed (cutSign text).1 (ofDigits 10 values) := by
  constructor
  · intro writes
    cases writes with
    | @intro sign digits negative values isSign nonempty short found =>
      have cut := isSign.cutSign_append nonempty (isDecimal_of_digitValues? found) []
      rw [List.append_nil] at cut
      have length := (forall_lt_of_digitValues? found).1
      rw [cut]
      refine ⟨values, found, ?_, length ▸ short, rfl⟩
      rintro rfl
      exact nonempty (List.eq_nil_of_length_eq_zero length.symm)
  · rintro ⟨values, found, some, short, rfl⟩
    obtain ⟨sign, isSign, same⟩ := exists_isSign text
    have length := (forall_lt_of_digitValues? found).1
    conv => lhs; rw [same]
    refine .intro isSign ?_ (length ▸ short) found
    rintro none'
    exact some (List.eq_nil_of_length_eq_zero (by rw [length, none']; rfl))

/-- All of a numeral is read. -/
theorem Writes.isReadable {text : Text} {number : Int} (writes : Writes text number) :
    IsReadable text ∧ LeadsWith text number := by
  obtain ⟨values, found, some, short, rfl⟩ := writes_iff.1 writes
  have decimal := isDecimal_of_digitValues? found
  have all : leadingDigits text = (cutSign text).2 := List.takeWhile_eq_self_iff.2 decimal
  have length := (forall_lt_of_digitValues? found).1
  have nonempty : leadingDigits text ≠ [] := by
    rw [all, ← List.length_pos_iff, ← length]
    exact List.length_pos_iff.2 some
  have within : (leadingDigits text).length ≤ digitLimit := by rwa [all, ← length]
  have clear : EndsClear text := by
    rw [EndsClear, List.dropWhile_eq_nil_iff.2 decimal]
    exact fun _ => nofun
  refine ⟨⟨nonempty, within, clear⟩, leadsWith_iff.2 ⟨nonempty, values, ?_, rfl⟩⟩
  rwa [List.take_of_length_le within, all]

/-- A text is read as a whole exactly if it is a numeral but for blanks that are no separators. -/
theorem read?_eq_ok_iff_writes {text : Text} {number : Int} : read? text = some (.ok number) ↔
    Writes (Text.trim text) number ∧ ∀ c ∈ text, isSeparator c = false := by
  rw [read?_eq_ok_iff, writes_iff, and_comm]
  refine and_congr_left fun _ => ?_
  constructor
  · rintro ⟨negative, values, parts, read⟩
    obtain ⟨rfl, found, some⟩ := parts?_eq_some_iff.1 parts
    obtain ⟨short, rfl⟩ := ofSigned_eq_ok_iff.1 read
    exact ⟨values, found, some, short, rfl⟩
  · rintro ⟨values, found, some, short, rfl⟩
    exact ⟨_, values, parts?_eq_some_iff.2 ⟨rfl, found, some⟩, ofSigned_eq_ok_iff.2 ⟨short, rfl⟩⟩

/-- The property of a node is a number exactly if it is such a numeral. -/
theorem number_eq_ok_iff {node : Node} {key text : Text} (found : node.property? key = some text)
    {number : Int} : Mechanics.number node key = .ok number ↔
      Writes (Text.trim text) number ∧ ∀ c ∈ text, isSeparator c = false := by
  rw [← read?_eq_ok_iff_writes]
  constructor
  · intro read
    have whole := Mechanics.exists_of_number read
    rwa [found] at whole
  · intro read
    rw [Mechanics.number, found, Option.bind_some, read]
    rfl

/-- The longest numeral at the beginning of a text is what is read, whatever the other number is,
exactly if there is none or its digits are readable; in all texts where they are not, that other
number is read. The property of a node is a number exactly if it is a numeral without separators
around it, and then the same number is read in both places. -/
theorem isLeading_readLeading_iff (text : Text) :
    ((∀ otherwise, IsLeading otherwise text (readLeading otherwise text)) ↔
        leadingDigits (Text.trim text) = [] ∨ IsReadable (Text.trim text)) ∧
      (¬IsReadable (Text.trim text) → ∀ otherwise, readLeading otherwise text = otherwise) ∧
      ∀ (node : Node) (key : Text), node.property? key = some text → ∀ number,
        (Mechanics.number node key = .ok number ↔
            Writes (Text.trim text) number ∧ ∀ c ∈ text, isSeparator c = false) ∧
          (Mechanics.number node key = .ok number →
            ∀ otherwise, readLeading otherwise text = number) := by
  refine ⟨⟨fun every => ?_, ?_⟩, readLeading_of_not_isReadable, fun node key found number =>
    ⟨number_eq_ok_iff found, fun read otherwise => ?_⟩⟩
  · by_cases readable : IsReadable (Text.trim text)
    · exact .inr readable
    · simp only [readLeading_of_not_isReadable readable] at every
      refine .inl (by_contra fun nonempty => ?_)
      obtain ⟨otherwise, unexpected⟩ := exists_not_isLeading nonempty
      exact unexpected (every otherwise)
  · rintro (none' | readable) otherwise
    · rw [readLeading_of_not_isReadable fun readable => readable.nonempty none']
      exact .inr ⟨rfl, not_writes_iff.2 none'⟩
    · exact isLeading_of_isReadable readable otherwise
  · obtain ⟨readable, leads⟩ := ((number_eq_ok_iff found).1 read).1.isReadable
    rcases isLeading_of_isReadable readable otherwise with other | ⟨-, never⟩
    · exact other.unique leads
    · exact absurd (not_writes_iff.1 never) readable.nonempty

/-- A numeral in Arabic digits, before letters and as a property. -/
theorem isLeading_readLeading_arabic :
    let node : Node := ⟨"roll", [], [("vs1", " ٤٢ ")], [], []⟩
    IsReadable (Text.trim " -٤٢rd") ∧ IsLeading 0 " -٤٢rd" (readLeading 0 " -٤٢rd") ∧
      Mechanics.number node "vs1" = .ok 42 ∧ readLeading 7 " ٤٢ " = 42 := by
  intro node
  have readable : IsReadable (Text.trim " -٤٢rd") := by
    have behind : (cutSign (Text.trim " -٤٢rd")).2.dropWhile Text.isDecimal = "rd".toList := by
      decide
    refine ⟨by decide, by decide, fun c first => ?_⟩
    rw [behind] at first
    obtain rfl := Option.some.inj first
    decide
  have number : Mechanics.number node "vs1" = .ok 42 :=
    (number_eq_ok_iff rfl).2
      ⟨writes_iff.2 ⟨[4, 2], by decide, List.cons_ne_nil 4 [2], by decide, by decide⟩,
        by simp [isSeparator]⟩
  exact ⟨readable, (isLeading_readLeading_iff _).1.2 (.inr readable) 0, number,
    ((isLeading_readLeading_iff " ٤٢ ").2.2 node "vs1" rfl 42).2 number 7⟩

/-- A raised digit behind a three hides it. -/
theorem exists_digit_hidden :
    LeadsWith (Text.trim "3²") 3 ∧ readLeading 0 "3²" = 0 ∧
      ¬IsLeading 0 "3²" (readLeading 0 "3²") := by
  have leads : LeadsWith (Text.trim "3²") 3 :=
    leadsWith_iff.2 ⟨by decide, [3], by decide, by decide⟩
  have read : readLeading 0 "3²" = 0 := by decide
  refine ⟨leads, read, ?_⟩
  rw [read]
  rintro (other | ⟨-, never⟩)
  · exact absurd (leads.unique other) (by decide)
  · exact absurd (not_writes_iff.1 never) (by decide)

end Numeral

end CampaignPress
