/-
This file tells which notes meet a condition. A value is opened down to its
leaves, the single values in it that are not missing, and it agrees with a
literal exactly if one of them has the text of the literal, in any case and
without brackets. So a condition and its opposite part the notes in two: every
note that a query finds meets one of them and not the other.
-/
import CampaignPress.Proofs.Query.Answers

namespace CampaignPress

namespace Query

/-! ### Brackets -/

/-- A text in double square brackets. -/
def IsWrapped (text : Text) : Prop := ∃ inner, text = "[[" ++ inner ++ "]]"

theorem isWrapped_iff {text : Text} :
    IsWrapped text ↔ (Text.startsWith text "[[" && Text.endsWith text "]]") = true := by
  rw [Bool.and_eq_true]
  constructor
  · rintro ⟨inner, rfl⟩
    refine ⟨List.isPrefixOf_iff_prefix.2 ?_, List.isSuffixOf_iff_suffix.2 (List.suffix_append _ _)⟩
    rw [List.append_assoc]
    exact List.prefix_append _ _
  · rintro ⟨opened, closed⟩
    obtain ⟨rest, same⟩ := List.isPrefixOf_iff_prefix.1 opened
    have shape : text = '[' :: '[' :: rest := same.symm
    obtain ⟨before, ends⟩ := List.isSuffixOf_iff_suffix.1 closed
    have whole : before ++ [']', ']'] = text := ends
    -- The opening brackets are no closing ones, so they stand before these.
    match before, whole with
    | [], whole => exact absurd (whole.trans shape) (by simp)
    | [_], whole => exact absurd (whole.trans shape) (by simp)
    | _ :: _ :: inner, whole =>
      obtain ⟨rfl, tail⟩ := List.cons.inj (whole.trans shape)
      obtain ⟨rfl, -⟩ := List.cons.inj tail
      exact ⟨inner, whole.symm⟩

instance (text : Text) : Decidable (IsWrapped text) := decidable_of_iff' _ isWrapped_iff

theorem unwrapText_eq_self {text : Text} (bare : ¬ IsWrapped text) : unwrapText text = text :=
  if_neg (mt isWrapped_iff.2 bare)

end Query

namespace Value

/-! ### Leaves -/

/-- The single values that a value is made of: itself, or those in the elements of a list, a tuple
or a set, however deep. What is missing is no leaf. -/
inductive IsLeafOf : Value → Value → Prop
  | self {value : Value} (single : value.items? = none) (present : value ≠ .null) :
    IsLeafOf value value
  | item {leaf item value : Value} {items : List Value} (several : value.items? = some items)
    (member : item ∈ items) (inside : IsLeafOf leaf item) : IsLeafOf leaf value

theorem not_isLeafOf_null (leaf : Value) : ¬ leaf.IsLeafOf .null := by
  rintro (⟨-, present⟩ | ⟨several, -, -⟩)
  · exact present rfl
  · exact nomatch several

theorem isLeafOf_iff_of_items {leaf value : Value} {items : List Value}
    (several : value.items? = some items) :
    leaf.IsLeafOf value ↔ ∃ item ∈ items, leaf.IsLeafOf item := by
  constructor
  · rintro (⟨single, -⟩ | ⟨others, member, inside⟩)
    · exact nomatch single.symm.trans several
    · obtain rfl := Option.some.inj (others.symm.trans several)
      exact ⟨_, member, inside⟩
  · rintro ⟨item, member, inside⟩
    exact .item several member inside

theorem isLeafOf_iff_of_single {leaf value : Value} (single : value.items? = none)
    (present : value ≠ .null) : leaf.IsLeafOf value ↔ leaf = value := by
  constructor
  · rintro (- | ⟨several, -, -⟩)
    · rfl
    · exact nomatch single.symm.trans several
  · rintro rfl
    exact .self single present

theorem isLeafOf_text_iff {leaf : Value} {content : Text} :
    leaf.IsLeafOf (.text content) ↔ leaf = .text content :=
  isLeafOf_iff_of_single rfl (by simp)

end Value

namespace Query

open Value

/-! ### Agreement -/

/-- A single value says a literal if its text is the literal in any case, each of them with its
brackets off. -/
def Says (literal : Text) (leaf : Value) : Prop :=
  ∃ text, plainText leaf = .ok text ∧
    Text.lower (unwrapText text) = Text.lower (unwrapText literal)

theorem textMatches_iff {literal text : Text} : textMatches literal text = true ↔
    Text.lower (unwrapText text) = Text.lower (unwrapText literal) := decide_eq_true_iff

section Values

variable {literal : Text} {value : Value} {flag : Bool} (found : agrees literal value = .ok flag)
include found

theorem agrees_iff_of_single (single : value.items? = none) (present : value ≠ .null) :
    flag = true ↔ ∃ leaf, leaf.IsLeafOf value ∧ Says literal leaf := by
  have alone : agrees literal value = do return textMatches literal (← plainText value) := by
    cases value with
    | null => exact absurd rfl present
    | list items => exact nomatch single
    | tuple items => exact nomatch single
    | set items => exact nomatch single
    | _ => rfl
  obtain ⟨text, written, same⟩ := bind_eq_ok.1 (alone.symm.trans found)
  obtain rfl := Except.ok.inj same
  simp only [isLeafOf_iff_of_single single present, exists_eq_left, Says, textMatches_iff]
  constructor
  · intro agree
    exact ⟨text, written, agree⟩
  · rintro ⟨other, alike, agree⟩
    obtain rfl := Except.ok.inj (alike.symm.trans written)
    exact agree

end Values

mutual

/-- A value agrees with a literal if one of its leaves says it. -/
theorem agrees_iff (literal : Text) (value : Value) {flag : Bool}
    (found : agrees literal value = .ok flag) :
    flag = true ↔ ∃ leaf, leaf.IsLeafOf value ∧ Says literal leaf := by
  cases value with
  | null =>
    obtain rfl := Except.ok.inj found
    simp [not_isLeafOf_null]
  | list items =>
    have several : (Value.list items).items? = some items := rfl
    simp only [isLeafOf_iff_of_items several]
    exact someAgrees_iff literal items found
  | tuple items =>
    have several : (Value.tuple items).items? = some items := rfl
    simp only [isLeafOf_iff_of_items several]
    exact someAgrees_iff literal items found
  | set items =>
    have several : (Value.set items).items? = some items := rfl
    simp only [isLeafOf_iff_of_items several]
    exact someAgrees_iff literal items found
  | _ =>
    refine agrees_iff_of_single found ?_ ?_
    · rfl
    · exact nofun
termination_by structural value

theorem someAgrees_iff (literal : Text) (items : List Value) {flag : Bool}
    (found : someAgrees literal items = .ok flag) :
    flag = true ↔ ∃ leaf, (∃ item ∈ items, leaf.IsLeafOf item) ∧ Says literal leaf := by
  cases items with
  | nil =>
    obtain rfl := Except.ok.inj found
    simp
  | cons item items =>
    rw [someAgrees] at found
    obtain ⟨here, first, rest⟩ := bind_eq_ok.1 found
    have inItem := agrees_iff literal item first
    simp only [List.exists_mem_cons_iff, or_and_right, exists_or, ← inItem]
    cases here with
    | true =>
      obtain rfl := Except.ok.inj rest
      simp
    | false =>
      simp only [Bool.false_eq_true, false_or]
      exact someAgrees_iff literal items rest
termination_by structural items

end

/-- Whether a leaf of a field of a note says a literal. -/
def HasValue (note : Note) (field literal : Text) : Prop :=
  ∃ leaf, leaf.IsLeafOf (resolve note field) ∧ Says literal leaf

theorem not_hasValue_of_empty {note : Note} {field : Text}
    (empty : resolve note field = .null ∨ (resolve note field).items? = some []) (literal : Text) :
    ¬ HasValue note field literal := by
  rintro ⟨leaf, isLeaf, -⟩
  rcases empty with missing | none'
  · rw [missing] at isLeaf
    exact not_isLeafOf_null leaf isLeaf
  · rw [isLeafOf_iff_of_items none'] at isLeaf
    obtain ⟨_, member, -⟩ := isLeaf
    exact absurd member List.not_mem_nil

section Notes

variable {note : Note} {field : Text} (written : (resolve note field).HasText) (literal : Text)
include written

theorem passes_meets_equal :
    passes (meets ⟨field, .equal, literal⟩ note) = true ↔ HasValue note field literal := by
  obtain ⟨flag, found⟩ := succeeds_agrees literal _ written
  have met : meets ⟨field, .equal, literal⟩ note = .ok flag := by
    rw [meets, found]
    rfl
  rw [met, passes, HasValue, ← agrees_iff literal _ found]

theorem passes_meets_unequal :
    passes (meets ⟨field, .unequal, literal⟩ note) =
      !passes (meets ⟨field, .equal, literal⟩ note) := by
  obtain ⟨flag, found⟩ := succeeds_agrees literal _ written
  rw [meets, meets, found]
  rfl

end Notes

/-! ### Two halves -/

/-- A list that two others make up, each of which keeps its order. -/
inductive Interleaved {Item : Type} : List Item → List Item → List Item → Prop
  | nil : Interleaved [] [] []
  | left {item : Item} {lefts rights whole : List Item} (rest : Interleaved lefts rights whole) :
    Interleaved (item :: lefts) rights (item :: whole)
  | right {item : Item} {lefts rights whole : List Item} (rest : Interleaved lefts rights whole) :
    Interleaved lefts (item :: rights) (item :: whole)

theorem interleaved_filter {Item : Type} (keep : Item → Bool) (items : List Item) :
    Interleaved (items.filter keep) (items.filter fun item => !keep item) items := by
  induction items with
  | nil => exact .nil
  | cons item items inductionHypothesis =>
    cases kept : keep item with
    | true =>
      rw [List.filter_cons_of_pos kept, List.filter_cons_of_neg (by simp [kept])]
      exact .left inductionHypothesis
    | false =>
      rw [List.filter_cons_of_neg (by simp [kept]), List.filter_cons_of_pos (by simp [kept])]
      exact .right inductionHypothesis

/-- A query with one more condition. -/
def asking (query : Query) (field : Text) (comparison : Comparison) (literal : Text) : Query :=
  { query with conditions := ⟨field, comparison, literal⟩ :: query.conditions }

/-- One more condition selects among the notes that are selected without it. -/
theorem run_asking {query : Query} (unordered : query.order = none) {notes : List Note}
    (comparable : ∀ note ∈ notes, query.Comparable note) {field : Text}
    (written : ∀ note ∈ notes, (resolve note field).HasText) (comparison : Comparison)
    (literal : Text) : (query.asking field comparison literal).run notes =
      .ok ((notes.filter query.selects).filter fun note =>
        passes (meets ⟨field, comparison, literal⟩ note)) := by
  have still : ∀ note ∈ notes, (query.asking field comparison literal).Comparable note :=
    fun note member => {
      tags := (comparable note member).tags
      fields := List.forall_mem_cons.2 ⟨written note member, (comparable note member).fields⟩
      order := (comparable note member).order }
  rw [run_eq_ok still, asking, unordered, arrange, List.filter_filter]
  refine congrArg Except.ok (List.filter_congr fun note _ => ?_)
  rw [selects, selects, List.all_cons, Bool.and_left_comm]

/-- The notes that are found, in two halves: those in which a leaf of a field says a literal, and all
others, such as those that miss the field or have no element in it. Each half keeps its order. -/
structure Halves (field literal : Text) (all equal unequal : List Note) : Prop where
  apart : equal.Disjoint unequal
  merged : Interleaved equal unequal all
  equal_iff : ∀ note ∈ all, note ∈ equal ↔ HasValue note field literal
  empty : ∀ note ∈ all, resolve note field = .null ∨ (resolve note field).items? = some [] →
    note ∈ unequal

/-- A condition and its opposite part the notes that a query finds in two halves. -/
theorem run_halves {query : Query} (unordered : query.order = none) {notes : List Note}
    (comparable : ∀ note ∈ notes, query.Comparable note) {field : Text}
    (written : ∀ note ∈ notes, (resolve note field).HasText) (literal : Text) :
    ∃ all equal unequal, query.run notes = .ok all ∧
      (query.asking field .equal literal).run notes = .ok equal ∧
      (query.asking field .unequal literal).run notes = .ok unequal ∧
      Halves field literal all equal unequal := by
  have found : query.run notes = .ok (notes.filter query.selects) := by
    rw [run_eq_ok comparable, unordered, arrange]
  have texts : ∀ note ∈ notes.filter query.selects, (resolve note field).HasText :=
    fun note member => written note (List.mem_filter.1 member).1
  have kept := run_asking unordered comparable written .equal literal
  have left := run_asking unordered comparable written .unequal literal
  generalize notes.filter query.selects = all at found texts kept left
  have opposite : all.filter (fun note => passes (meets ⟨field, .unequal, literal⟩ note)) =
      all.filter fun note => !passes (meets ⟨field, .equal, literal⟩ note) :=
    List.filter_congr fun note member => passes_meets_unequal (texts note member) literal
  rw [opposite] at left
  have member_iff : ∀ note ∈ all,
      note ∈ all.filter (fun note => passes (meets ⟨field, .equal, literal⟩ note)) ↔
        HasValue note field literal := fun note member => by
    rw [List.mem_filter, and_iff_right member, passes_meets_equal (texts note member) literal]
  refine ⟨all, _, _, found, kept, left, ?_, interleaved_filter _ all, member_iff, ?_⟩
  · intro note inKept inLeft
    simpa [(List.mem_filter.1 inKept).2] using (List.mem_filter.1 inLeft).2
  · intro note member empty
    rw [List.mem_filter, and_iff_right member, Bool.not_eq_true', ← Bool.not_eq_true,
      passes_meets_equal (texts note member) literal]
    exact not_hasValue_of_empty empty literal

/-- A name deep in the field of a note that is there twice, a note whose field has no elements, one
without the field, and one that lies elsewhere. -/
theorem run_halves_nested :
    let note (path : Text) (ties : Frontmatter) : Note := ⟨path, path, path, ties, none⟩
    let deep := note "npcs/a.md" [(.text "ties", .list [.null, .tuple [.set [.text "[[Kira]]"]]])]
    let notes := [deep, note "npcs/b.md" [(.text "ties", .list [])], note "npcs/c.md" [], deep,
      note "pcs/d.md" [(.text "ties", .text "Kira")]]
    let query : Query := ⟨.list, false, [], [⟨"npcs"⟩], [], none⟩
    query.order = none ∧ (∀ note ∈ notes, query.Comparable note) ∧
      (∀ note ∈ notes, (resolve note "ties").HasText) ∧
      ∃ all equal unequal, query.run notes = .ok all ∧
        (query.asking "ties" .equal "[[kira]]").run notes = .ok equal ∧
        (query.asking "ties" .unequal "[[kira]]").run notes = .ok unequal ∧
        Halves "ties" "[[kira]]" all equal unequal := by
  intro note deep notes query
  have comparable : ∀ note ∈ notes, query.Comparable note := fun note _ =>
    { tags := List.forall_mem_singleton.2 nofun
      fields := List.forall_mem_nil _
      order := fun _ none' => absurd none' (Option.not_mem_none _) }
  have written : ∀ note ∈ notes, (resolve note "ties").HasText := by
    simp only [notes, List.forall_mem_cons]
    exact ⟨.ok _, .ok _, .ok _, .ok _, .ok _, List.forall_mem_nil _⟩
  exact ⟨rfl, comparable, written, run_halves rfl comparable written "[[kira]]"⟩

end Query

end CampaignPress
