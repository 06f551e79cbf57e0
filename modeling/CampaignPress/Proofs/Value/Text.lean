/-
This file tells which values have a text. A number with too many digits has
none, and neither has a value that holds such a number; so every element of a
list with a text has a text of its own.
-/
import CampaignPress.Value.Basic
import Mathlib

namespace CampaignPress

/-! ### Results -/

/-- A computation that ends without a fault. -/
def Succeeds {Outcome : Type} (result : Except Fault Outcome) : Prop :=
  ∃ outcome, result = .ok outcome

section Results

variable {First Second Cause : Type}

theorem Succeeds.ok (outcome : First) : Succeeds (.ok outcome) := ⟨outcome, rfl⟩

theorem bind_eq_ok {result : Except Cause First} {next : First → Except Cause Second}
    {last : Second} :
    result >>= next = .ok last ↔ ∃ outcome, result = .ok outcome ∧ next outcome = .ok last := by
  cases result with
  | error cause => simp [Bind.bind, Except.bind]
  | ok outcome => simp [Bind.bind, Except.bind]

theorem toOption_eq_some_iff {result : Except Cause First} {outcome : First} :
    result.toOption = some outcome ↔ result = .ok outcome := by
  cases result with
  | error cause => exact ⟨nofun, nofun⟩
  | ok other =>
    exact ⟨fun same => congrArg Except.ok (Option.some.inj same),
      fun same => congrArg some (Except.ok.inj same)⟩

theorem mapError_eq_ok {Other : Type} {result : Except Cause First} {rename : Cause → Other}
    {outcome : First} : result.mapError rename = .ok outcome ↔ result = .ok outcome := by
  cases result with
  | error cause => exact ⟨nofun, nofun⟩
  | ok other =>
    exact ⟨fun same => congrArg Except.ok (Except.ok.inj same),
      fun same => congrArg Except.ok (Except.ok.inj same)⟩

theorem succeeds_bind {result : Except Fault First} {next : First → Except Fault Second} :
    Succeeds (result >>= next) ↔ ∃ outcome, result = .ok outcome ∧ Succeeds (next outcome) := by
  constructor
  · rintro ⟨last, same⟩
    obtain ⟨outcome, first, second⟩ := bind_eq_ok.1 same
    exact ⟨outcome, first, last, second⟩
  · rintro ⟨outcome, first, last, second⟩
    exact ⟨last, bind_eq_ok.2 ⟨outcome, first, second⟩⟩

theorem Succeeds.bind {result : Except Fault First} {next : First → Except Fault Second}
    (first : Succeeds result) (each : ∀ outcome, Succeeds (next outcome)) :
    Succeeds (result >>= next) := by
  obtain ⟨outcome, same⟩ := first
  exact succeeds_bind.2 ⟨outcome, same, each outcome⟩

theorem mapM_eq_map {read : First → Except Fault Second} {meaning : First → Second}
    {items : List First} (each : ∀ item ∈ items, read item = .ok (meaning item)) :
    items.mapM read = .ok (items.map meaning) := by
  induction items with
  | nil => rfl
  | cons item items inductionHypothesis =>
    rw [List.forall_mem_cons] at each
    rw [List.mapM_cons, each.1, inductionHypothesis each.2]
    rfl

/-- A list of computations takes each item for itself. -/
theorem forall₂_of_mapM {read : First → Except Cause Second} {items : List First}
    {outcomes : List Second} (done : items.mapM read = .ok outcomes) :
    List.Forall₂ (fun item outcome => read item = .ok outcome) items outcomes := by
  induction items generalizing outcomes with
  | nil =>
    obtain rfl := Except.ok.inj done
    exact .nil
  | cons item items inductionHypothesis =>
    rw [List.mapM_cons] at done
    obtain ⟨first, here, rest⟩ := bind_eq_ok.1 done
    obtain ⟨others, later, same⟩ := bind_eq_ok.1 rest
    obtain rfl := Except.ok.inj same
    exact .cons here (inductionHypothesis later)

theorem mapM_of_forall₂ {read : First → Except Cause Second} {items : List First}
    {outcomes : List Second}
    (each : List.Forall₂ (fun item outcome => read item = .ok outcome) items outcomes) :
    items.mapM read = .ok outcomes := by
  induction each with
  | nil => rfl
  | cons here _ inductionHypothesis =>
    rw [List.mapM_cons, here, inductionHypothesis]
    rfl

/-- What a list of computations gives was given by one of them. -/
theorem exists_of_mem_mapM {read : First → Except Cause Second} {items : List First}
    {outcomes : List Second} (done : items.mapM read = .ok outcomes) {outcome : Second}
    (member : outcome ∈ outcomes) : ∃ item ∈ items, read item = .ok outcome := by
  have each := forall₂_of_mapM done
  clear done
  induction each with
  | nil => exact absurd member List.not_mem_nil
  | @cons item _ _ _ here _ inductionHypothesis =>
    rcases List.mem_cons.1 member with rfl | later
    · exact ⟨item, List.mem_cons_self, here⟩
    · obtain ⟨source, inItems, given⟩ := inductionHypothesis later
      exact ⟨source, List.mem_cons_of_mem _ inItems, given⟩

/-- What one of the computations gives is among what the list of them gives. -/
theorem exists_mem_of_mapM {read : First → Except Cause Second} {items : List First}
    {outcomes : List Second} (done : items.mapM read = .ok outcomes) {item : First}
    (member : item ∈ items) : ∃ outcome ∈ outcomes, read item = .ok outcome := by
  have each := forall₂_of_mapM done
  clear done
  induction each with
  | nil => exact absurd member List.not_mem_nil
  | @cons _ first _ _ here _ inductionHypothesis =>
    rcases List.mem_cons.1 member with rfl | later
    · exact ⟨first, List.mem_cons_self, here⟩
    · obtain ⟨outcome, inOutcomes, given⟩ := inductionHypothesis later
      exact ⟨outcome, List.mem_cons_of_mem _ inOutcomes, given⟩

theorem exists_mapM {read : First → Except Cause Second} {items : List First}
    (each : ∀ item ∈ items, ∃ outcome, read item = .ok outcome) :
    ∃ outcomes, items.mapM read = .ok outcomes := by
  induction items with
  | nil => exact ⟨[], rfl⟩
  | cons item items inductionHypothesis =>
    rw [List.forall_mem_cons] at each
    obtain ⟨first, here⟩ := each.1
    obtain ⟨others, later⟩ := inductionHypothesis each.2
    exact ⟨first :: others, by rw [List.mapM_cons, here, later]; rfl⟩

theorem succeeds_mapM {read : First → Except Fault Second} {items : List First}
    (each : ∀ item ∈ items, Succeeds (read item)) : Succeeds (items.mapM read) :=
  exists_mapM each

/-! ### Sieves -/

theorem exists_of_filterAuxM {keep : First → Except Cause Bool} {items passed kept : List First}
    (done : items.filterAuxM keep passed = .ok kept) :
    ∀ item ∈ items, ∃ isKept, keep item = .ok isKept := by
  induction items generalizing passed with
  | nil => exact fun item member => absurd member List.not_mem_nil
  | cons item items inductionHypothesis =>
    rw [List.filterAuxM] at done
    obtain ⟨isKept, here, rest⟩ := bind_eq_ok.1 done
    exact List.forall_mem_cons.2 ⟨⟨isKept, here⟩, inductionHypothesis rest⟩

theorem filterAuxM_eq {keep : First → Except Cause Bool} {test : First → Bool}
    {items : List First} (each : ∀ item ∈ items, keep item = .ok (test item))
    (passed : List First) :
    items.filterAuxM keep passed = .ok ((items.filter test).reverse ++ passed) := by
  induction items generalizing passed with
  | nil => rfl
  | cons item items inductionHypothesis =>
    rw [List.forall_mem_cons] at each
    rw [List.filterAuxM, each.1]
    show List.filterAuxM keep items (cond (test item) (item :: passed) passed) = _
    rw [inductionHypothesis each.2]
    cases kept : test item with
    | false => rw [List.filter_cons_of_neg (Bool.eq_false_iff.1 kept)]; rfl
    | true => rw [List.filter_cons_of_pos kept, List.reverse_cons, List.append_assoc]; rfl

theorem filterM_eq_filter {keep : First → Except Cause Bool} {test : First → Bool}
    {items : List First} (each : ∀ item ∈ items, keep item = .ok (test item)) :
    items.filterM keep = .ok (items.filter test) := by
  rw [List.filterM, filterAuxM_eq each []]
  show Except.ok ((items.filter test).reverse ++ []).reverse = _
  rw [List.append_nil, List.reverse_reverse]

/-- A sieve that can fail takes each item for itself. -/
theorem filterM_eq_ok {keep : First → Except Cause Bool} {items kept : List First} :
    items.filterM keep = .ok kept ↔ ∃ test : First → Bool,
      (∀ item ∈ items, keep item = .ok (test item)) ∧ items.filter test = kept := by
  constructor
  · intro done
    obtain ⟨reversed, sieved, -⟩ := bind_eq_ok.1 done
    choose! test each using exists_of_filterAuxM sieved
    exact ⟨test, each, Except.ok.inj ((filterM_eq_filter each).symm.trans done)⟩
  · rintro ⟨test, each, rfl⟩
    exact filterM_eq_filter each

end Results

namespace Value

/-! ### Texts -/

/-- A value that can be written. -/
def HasText (value : Value) : Prop := Succeeds value.toText

/-- A value that can be written inside another one can be written alone. -/
theorem HasText.of_quoted {value : Value} (written : Succeeds value.quoted) : value.HasText := by
  cases value with
  | text content => exact .ok content
  | date day => exact .ok day.write
  | moment time => exact .ok time.write
  | _ => exact written

theorem hasText_of_quotedAll {items : List Value} (written : Succeeds (quotedAll items)) :
    ∀ item ∈ items, item.HasText := by
  induction items with
  | nil => simp
  | cons item items inductionHypothesis =>
    rw [quotedAll, succeeds_bind] at written
    obtain ⟨first, same, others⟩ := written
    obtain ⟨rest, later, -⟩ := succeeds_bind.1 others
    exact List.forall_mem_cons.2 ⟨.of_quoted ⟨first, same⟩, inductionHypothesis ⟨rest, later⟩⟩

/-- The elements of a value that holds several. -/
def items? : Value → Option (List Value)
  | .list items => some items
  | .tuple items => some items
  | .set items => some items
  | _ => none

theorem HasText.items {value : Value} (written : value.HasText) {items : List Value}
    (several : value.items? = some items) : ∀ item ∈ items, item.HasText := by
  have quotedItems : Succeeds (quotedAll items) := by
    cases value with
    | list others =>
      obtain rfl := Option.some.inj several
      change Succeeds (quoted (.list others)) at written
      rw [quoted, succeeds_bind] at written
      obtain ⟨texts, same, -⟩ := written
      exact ⟨texts, same⟩
    | tuple others =>
      obtain rfl := Option.some.inj several
      change Succeeds (quoted (.tuple others)) at written
      rw [quoted, succeeds_bind] at written
      obtain ⟨texts, same, -⟩ := written
      exact ⟨texts, same⟩
    | set others =>
      obtain rfl := Option.some.inj several
      change Succeeds (quoted (.set others)) at written
      rw [quoted, succeeds_bind] at written
      obtain ⟨texts, same, -⟩ := written
      exact ⟨texts, same⟩
    | _ => exact nomatch several
  exact hasText_of_quotedAll quotedItems

end Value

end CampaignPress
