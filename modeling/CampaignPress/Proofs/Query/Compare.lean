/-
This file shows that queries compare values without a fault where the values
have texts. What a note is asked then has an answer, and a value to order by
has a rank, so selecting notes is the filter of the standard library.
-/
import CampaignPress.Proofs.Value.Text
import CampaignPress.Query.Run

namespace CampaignPress

namespace Query

/-! ### Values -/

theorem succeeds_plainText {value : Value} (written : value.HasText) :
    Succeeds (plainText value) := by
  cases value with
  | bool flag => exact .ok _
  | _ => exact written

theorem succeeds_textMatches (literal : Text) {value : Value} (written : value.HasText) :
    Succeeds (do return textMatches literal (← plainText value)) :=
  (succeeds_plainText written).bind fun _ => .ok _

mutual

theorem succeeds_agrees (literal : Text) (value : Value) (written : value.HasText) :
    Succeeds (agrees literal value) := by
  cases value with
  | null => exact .ok false
  | list items => exact succeeds_someAgrees literal items (written.items rfl)
  | tuple items => exact succeeds_someAgrees literal items (written.items rfl)
  | set items => exact succeeds_someAgrees literal items (written.items rfl)
  | _ => exact succeeds_textMatches literal written
termination_by structural value

theorem succeeds_someAgrees (literal : Text) (items : List Value)
    (written : ∀ item ∈ items, item.HasText) : Succeeds (someAgrees literal items) := by
  cases items with
  | nil => exact .ok false
  | cons item items =>
    rw [List.forall_mem_cons] at written
    rw [someAgrees]
    refine (succeeds_agrees literal item written.1).bind fun found => ?_
    cases found with
    | true => exact .ok true
    | false => exact succeeds_someAgrees literal items written.2
termination_by structural items

end

/-! ### Questions -/

/-- The tags of a note as its head has them. -/
def tagsOf (note : Note) : Value := (note.frontmatter.field? "tags").getD .null

variable {note : Note}

theorem succeeds_bearsTag (tag : Text) (written : (tagsOf note).HasText) :
    Succeeds (bearsTag tag note) := by
  rw [tagsOf] at written
  rw [bearsTag]
  generalize (note.frontmatter.field? "tags").getD .null = value at written ⊢
  split
  · cases value with
    | list items => exact (succeeds_mapM (written.items rfl)).bind fun _ => .ok _
    | tuple items => exact (succeeds_mapM (written.items rfl)).bind fun _ => .ok _
    | _ => exact written.bind fun _ => .ok _
  · exact .ok false

theorem succeeds_inScope (scope : Scope) (written : scope.isTag → (tagsOf note).HasText) :
    Succeeds (inScope scope note) := by
  rw [inScope]
  by_cases tagged : scope.isTag = true
  · rw [if_pos tagged]
    exact succeeds_bearsTag scope.tag (written tagged)
  · rw [if_neg tagged]
    exact .ok _

theorem succeeds_meets (condition : Condition)
    (written : (resolve note condition.field).HasText) : Succeeds (meets condition note) :=
  (succeeds_agrees condition.value _ written).bind fun _ => .ok _

theorem succeeds_ofValue {value : Value} (written : value.HasText) :
    Succeeds (Rank.ofValue value) := by
  cases value with
  | null => exact .ok _
  | int number => exact .ok _
  | float number => exact .ok _
  | list items =>
    exact (succeeds_mapM fun item member => succeeds_plainText (written.items rfl item member)).bind
      fun _ => .ok _
  | tuple items =>
    exact (succeeds_mapM fun item member => succeeds_plainText (written.items rfl item member)).bind
      fun _ => .ok _
  | _ => exact (succeeds_plainText written).bind fun _ => .ok _

/-! ### Selection -/

/-- Whether a test is passed; a fault does not pass it. -/
def passes : Except Fault Bool → Bool
  | .ok flag => flag
  | .error _ => false

section Selection

variable {Item Test : Type}

theorem select_eq_filter {test : Item → Except Fault Bool} {items : List Item}
    (each : ∀ item ∈ items, Succeeds (test item)) :
    select test items = .ok (items.filter fun item => passes (test item)) := by
  induction items with
  | nil => rfl
  | cons item items inductionHypothesis =>
    rw [List.forall_mem_cons] at each
    obtain ⟨flag, same⟩ := each.1
    rw [select, same, inductionHypothesis each.2, List.filter_cons, same]
    cases flag <;> rfl

/-- Selecting by one test after the other is selecting by all of them. -/
theorem foldlM_select {ask : Test → Item → Except Fault Bool} {tests : List Test}
    {items : List Item} (each : ∀ test ∈ tests, ∀ item ∈ items, Succeeds (ask test item)) :
    tests.foldlM (fun items test => select (ask test) items) items =
      .ok (items.filter fun item => tests.all fun test => passes (ask test item)) := by
  induction tests generalizing items with
  | nil =>
    rw [List.foldlM_nil]
    exact congrArg Except.ok (List.filter_eq_self.2 fun _ _ => rfl).symm
  | cons test tests inductionHypothesis =>
    rw [List.forall_mem_cons] at each
    have later : ∀ other ∈ tests, ∀ item ∈ items.filter fun item => passes (ask test item),
        Succeeds (ask other item) := fun other member item found =>
      each.2 other member item (List.mem_filter.1 found).1
    rw [List.foldlM_cons, select_eq_filter each.1]
    show tests.foldlM _ (items.filter fun item => passes (ask test item)) = _
    rw [inductionHypothesis later, List.filter_filter]
    refine congrArg Except.ok (List.filter_congr fun item _ => ?_)
    rw [List.all_cons, Bool.and_comm]

end Selection

end Query

end CampaignPress
