/-
This file prints the conditions and the order of a query and reads them back.
A field holds no blank and neither character of a sign, so the first sign that
a reader finds is the one that was written. Inequality is tried first; it does
not fit an equality, because after the blank behind the field stands the one
character of the other sign.
-/
import CampaignPress.Proofs.Query.Keyword

namespace CampaignPress

namespace Query

/-! ### Values -/

theorem trimStart_blank_cons (text : Text) :
    Text.trimStart (' ' :: text) = Text.trimStart text := rfl

theorem trimStart_eq_self {text : Text} (first : ∀ c ∈ text.head?, Text.isBlank c = false) :
    Text.trimStart text = text :=
  Text.dropStart_eq_self first

/-- A line that has something besides blanks is a value, without the blanks before it. -/
theorem valueOf?_of_single {rest : Text} (single : '\n' ∉ rest)
    (filled : Text.trimStart rest ≠ []) : valueOf? rest = some (Text.trimStart rest) := by
  have nonempty : (Text.trimStart rest).isEmpty = false := by simpa using filled
  have whole : (Text.trimStart rest).dropWhile (· ≠ '\n') = [] := by
    rw [List.dropWhile_eq_nil_iff]
    intro c member
    rw [decide_eq_true_eq]
    rintro rfl
    exact single ((List.dropWhile_suffix _).subset member)
  rw [valueOf?]
  simp only [nonempty, whole, Bool.false_eq_true, if_false]

/-- A value on one line fills the line. -/
theorem valueOf?_blank_cons {value : Text} (nonempty : value ≠ []) (single : '\n' ∉ value)
    (first : ∀ c ∈ value.head?, Text.isBlank c = false) : valueOf? (' ' :: value) = some value := by
  have whole : Text.trimStart (' ' :: value) = value := by
    rw [trimStart_blank_cons, trimStart_eq_self first]
  rw [valueOf?_of_single (by simpa using single) (by rwa [whole]), whole]

/-! ### Signs -/

/-- A field that holds no mark ends before the sign that follows it, or else it is the beginning of
a longer one. -/
theorem cutSign?_append {field : Text} {mark : Char} {sign : Text} (tail : Text)
    (nonempty : field ≠ []) (plain : ∀ c ∈ field, Text.isBlank c = false ∧ c ≠ mark) :
    cutSign? (mark :: sign) (field ++ tail) =
      (((Text.after? (mark :: sign) (Text.trimStart tail)).bind valueOf?).map (field, ·)).or
        ((cutSign? (mark :: sign) tail).map fun found => (field ++ found.1, found.2)) := by
  induction field with
  | nil => exact absurd rfl nonempty
  | cons c field inductionHypothesis =>
    rw [List.forall_mem_cons] at plain
    rw [List.cons_append, cutSign?, if_neg (by simp [plain.1.1])]
    cases field with
    | nil =>
      rw [List.nil_append]
      cases (Text.after? (mark :: sign) (Text.trimStart tail)).bind valueOf? <;> rfl
    | cons d field =>
      have next := (List.forall_mem_cons.1 plain.2).1
      have inside : Text.trimStart (d :: field ++ tail) = d :: field ++ tail := by
        refine trimStart_eq_self fun c found => ?_
        obtain rfl := Option.some.inj found
        exact next.1
      have other : Text.after? (mark :: sign) (d :: field ++ tail) = none := by
        rw [List.cons_append, Text.after?, if_neg (Ne.symm next.2)]
      rw [inside, other, inductionHypothesis (List.cons_ne_nil d field) plain.2]
      cases (Text.after? (mark :: sign) (Text.trimStart tail)).bind valueOf? with
      | some value => rfl
      | none => cases cutSign? (mark :: sign) tail <;> rfl

/-- A field ends at the blank behind it, unless its own characters are a sign. -/
theorem cutSign?_append_blank_cons {field : Text} {mark : Char} {sign : Text} (tail : Text)
    (nonempty : field ≠ []) (plain : ∀ c ∈ field, Text.isBlank c = false ∧ c ≠ mark) :
    cutSign? (mark :: sign) (field ++ ' ' :: tail) =
      ((Text.after? (mark :: sign) (Text.trimStart tail)).bind valueOf?).map (field, ·) := by
  have blank : cutSign? (mark :: sign) (' ' :: tail) = none := rfl
  rw [cutSign?_append _ nonempty plain, blank, trimStart_blank_cons]
  exact Option.or_none

section Clauses

variable {clause field value : Text}

theorem condition?_of_unequal (found : cutSign? "!=" clause = some (field, value)) :
    condition? clause = some ⟨field, .unequal, stripLiteral value⟩ := by
  rw [condition?, found]

theorem condition?_of_equal (other : cutSign? "!=" clause = none)
    (found : cutSign? "=" clause = some (field, value)) :
    condition? clause = some ⟨field, .equal, stripLiteral value⟩ := by
  rw [condition?, other, found]
  rfl

end Clauses

def Comparison.sign : Comparison → Text
  | .equal => "="
  | .unequal => "!="

namespace Condition

/-- The conditions that have a printed form: a value is not changed by taking quotes and
brackets off. -/
structure Writable (condition : Condition) : Prop where
  field : condition.field ≠ []
  plain : ∀ c ∈ condition.field, Text.isBlank c = false ∧ c ≠ '=' ∧ c ≠ '!'
  value : condition.value ≠ []
  single : '\n' ∉ condition.value
  literal : stripLiteral condition.value = condition.value

def toText (condition : Condition) : Text :=
  condition.field ++ ' ' :: (condition.comparison.sign ++ ' ' :: condition.value)

variable {condition : Condition} (writable : condition.Writable)
include writable

theorem Writable.trim_value : Text.trim condition.value = condition.value := by
  have twice : Text.trim (stripLiteral condition.value) = stripLiteral condition.value :=
    Text.trim_trim _
  rwa [writable.literal] at twice

/-- A written condition is read as itself. -/
theorem Writable.condition?_toText : condition? condition.toText = some condition := by
  have first : ∀ c ∈ condition.value.head?, Text.isBlank c = false := by
    rw [← writable.trim_value]
    exact Text.isBlank_head_trim
  have value := valueOf?_blank_cons writable.value writable.single first
  have marks : ∀ c ∈ condition.field, Text.isBlank c = false ∧ c ≠ '!' :=
    fun c member => ⟨(writable.plain c member).1, (writable.plain c member).2.2⟩
  have signs : ∀ c ∈ condition.field, Text.isBlank c = false ∧ c ≠ '=' :=
    fun c member => ⟨(writable.plain c member).1, (writable.plain c member).2.1⟩
  have literal := writable.literal
  have nonempty := writable.field
  obtain ⟨field, comparison, written⟩ := condition
  cases comparison with
  | equal =>
    have unequal : cutSign? "!=" (field ++ ' ' :: ("=" ++ ' ' :: written)) = none :=
      cutSign?_append_blank_cons _ nonempty marks
    have equal : cutSign? "=" (field ++ ' ' :: ("=" ++ ' ' :: written)) =
        (valueOf? (' ' :: written)).map (field, ·) := cutSign?_append_blank_cons _ nonempty signs
    rw [value] at equal
    have read := condition?_of_equal unequal equal
    rwa [literal] at read
  | unequal =>
    have unequal : cutSign? "!=" (field ++ ' ' :: ("!=" ++ ' ' :: written)) =
        (valueOf? (' ' :: written)).map (field, ·) := cutSign?_append_blank_cons _ nonempty marks
    rw [value] at unequal
    have read := condition?_of_unequal unequal
    rwa [literal] at read

theorem Writable.toText_ne_nil : condition.toText ≠ [] :=
  List.append_ne_nil_of_left_ne_nil writable.field _

theorem Writable.trim_toText : Text.trim condition.toText = condition.toText := by
  refine Text.trim_eq_self ?_ ?_
  · intro c found
    rw [toText, List.head?_append_of_ne_nil _ writable.field] at found
    exact (writable.plain c (List.mem_of_mem_head? found)).1
  · intro c found
    have split : condition.toText =
        (condition.field ++ ' ' :: (condition.comparison.sign ++ [' '])) ++ condition.value := by
      simp [toText]
    rw [split, List.getLast?_append_of_ne_nil _ writable.value, ← writable.trim_value] at found
    exact Text.isBlank_getLast_trim c found

theorem Writable.break_not_mem : '\n' ∉ condition.toText := by
  have inField : '\n' ∉ condition.field := fun member =>
    absurd (writable.plain _ member).1 (by decide)
  have inSign : '\n' ∉ condition.comparison.sign := by
    cases condition.comparison <;> decide
  have inValue := writable.single
  simp [toText, inField, inSign, inValue]

end Condition

/-! ### Order -/

def Direction.keyword : Direction → Text
  | .ascending => "ASC"
  | .descending => "DESC"

namespace Order

/-- The orders that have a printed form. -/
structure Writable (order : Order) : Prop where
  field : order.field ≠ []
  plain : ∀ c ∈ order.field, Text.isBlank c = false

/-- A field, and a direction in any case. -/
def Written (order : Order) (text : Text) : Prop :=
  ∃ word, Spelled order.direction.keyword word ∧ text = order.field ++ ' ' :: word

variable {order : Order} {text : Text}

theorem Written.facts (written : order.Written text) :
    ∃ word, text = order.field ++ ' ' :: word ∧ word ≠ [] ∧ (∀ c ∈ word, Text.isBlank c = false) ∧
      Text.upper word = order.direction.keyword := by
  obtain ⟨word, spelled, rfl⟩ := written
  have ascii : Text.isAsciiText order.direction.keyword := by
    cases order.direction <;> decide
  have plain : order.direction.keyword.any Text.isBlank = false := by
    cases order.direction <;> decide
  refine ⟨word, rfl, ?_, ?_, Spelled.upper_eq ascii spelled⟩
  · rintro rfl
    have empty := spelled.length_eq
    cases direction : order.direction <;> rw [direction] at empty <;>
      simp [Direction.keyword] at empty
  · intro c member
    by_contra blank
    rw [Bool.not_eq_false] at blank
    refine Spelled.not_mem_of_isBlank ascii spelled blank (fun other => ?_) member
    exact List.any_eq_false.1 plain c other blank

variable (writable : order.Writable) (written : order.Written text)
include writable written

/-- A written order is read as itself. -/
theorem Written.order?_eq : order? text = some order := by
  obtain ⟨word, rfl, nonempty, plain, capitals⟩ := written.facts
  have words : Text.words (order.field ++ ' ' :: word) = [order.field, word] := by
    rw [Text.words, Text.splitWhere_eq_splitOnP,
      List.splitOnP_append_cons_of_forall_mem writable.plain ' ' (by decide),
      List.splitOnP_eq_singleton plain]
    simp [writable.field, nonempty]
  obtain ⟨field, direction⟩ := order
  rw [order?, words]
  show some (⟨field, if Text.upper word = "ASC".toList then _ else _⟩ : Order) = _
  rw [capitals]
  cases direction <;> rfl

theorem Written.ne_nil : text ≠ [] := by
  obtain ⟨word, rfl, -⟩ := written.facts
  exact List.append_ne_nil_of_left_ne_nil writable.field _

theorem Written.trim_eq : Text.trim text = text := by
  obtain ⟨word, rfl, nonempty, plain, -⟩ := written.facts
  refine Text.trim_eq_self ?_ ?_
  · intro c found
    rw [List.head?_append_of_ne_nil _ writable.field] at found
    exact writable.plain c (List.mem_of_mem_head? found)
  · intro c found
    rw [List.append_cons, List.getLast?_append_of_ne_nil _ nonempty] at found
    exact plain c (List.mem_of_mem_getLast? found)

theorem Written.break_not_mem : '\n' ∉ text := by
  obtain ⟨word, rfl, -, plain, -⟩ := written.facts
  have inField : '\n' ∉ order.field := fun member => absurd (writable.plain _ member) (by decide)
  have inWord : '\n' ∉ word := fun member => absurd (plain _ member) (by decide)
  simp [inField, inWord]

end Order

end Query

end CampaignPress
