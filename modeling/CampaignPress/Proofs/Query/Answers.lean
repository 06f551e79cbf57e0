/-
This file says what the answers to the text of a query are: the notes that
every line of the text admits, in the order that its last line with an order
gives. Where the lines stand does not matter, but for the lines that name a
form and those that give an order, the last of which holds.
-/
import CampaignPress.Proofs.Query.Keyword
import CampaignPress.Proofs.Query.Order
import CampaignPress.Query.Table

namespace CampaignPress

namespace Query

/-! ### Running -/

/-- The notes on which a query compares only values with a text, and orders by no undefined
number. -/
structure Comparable (query : Query) (note : Note) : Prop where
  tags : ∀ scope ∈ query.scopes, scope.isTag → (tagsOf note).HasText
  fields : ∀ condition ∈ query.conditions, (resolve note condition.field).HasText
  order : ∀ order ∈ query.order, order.Ranks note

/-- Whether a note lies in every scope and meets every condition of a query. -/
def selects (query : Query) (note : Note) : Bool :=
  query.scopes.all (fun scope => passes (inScope scope note)) &&
    query.conditions.all fun condition => passes (meets condition note)

/-- The notes in an order, if there is one. -/
def arrange : Option Order → List Note → List Note
  | none, notes => notes
  | some order, notes => notes.mergeSort order.leaves

/-- A query selects notes, each as often as it is given, and then arranges them. -/
theorem run_eq_ok {query : Query} {notes : List Note}
    (comparable : ∀ note ∈ notes, query.Comparable note) :
    query.run notes = .ok (arrange query.order (notes.filter query.selects)) := by
  have within : ∀ scope ∈ query.scopes, ∀ note ∈ notes, Succeeds (inScope scope note) :=
    fun scope member note inNotes =>
      succeeds_inScope scope ((comparable note inNotes).tags scope member)
  have met : ∀ condition ∈ query.conditions,
      ∀ note ∈ notes.filter fun note => query.scopes.all fun scope => passes (inScope scope note),
        Succeeds (meets condition note) := fun condition member note found =>
    succeeds_meets condition ((comparable note (List.mem_filter.1 found).1).fields condition member)
  have selected : (notes.filter fun note => query.scopes.all fun scope =>
      passes (inScope scope note)).filter (fun note => query.conditions.all fun condition =>
        passes (meets condition note)) = notes.filter query.selects := by
    rw [List.filter_filter]
    exact List.filter_congr fun note _ => Bool.and_comm _ _
  rw [run, foldlM_select within]
  show (query.conditions.foldlM (fun notes condition => select (meets condition) notes)
    (notes.filter fun note => query.scopes.all fun scope => passes (inScope scope note)) >>= _) = _
  rw [foldlM_select met, selected]
  cases order : query.order with
  | none => rfl
  | some order' =>
    exact sort_eq_mergeSort fun note found =>
      (comparable note (List.mem_filter.1 found).1).order order' order

/-! ### Answers -/

/-- Whether a clause lets a note be an answer; only scopes and conditions may not. -/
def Clause.admits (note : Note) : Clause → Bool
  | .scope place => passes (inScope place note)
  | .condition test => passes (meets test note)
  | _ => true

/-- Whether every line of a text lets a note be an answer. -/
def admits (text : Text) (note : Note) : Bool := (lineClauses text).all (Clause.admits note)

/-- The order that the last line with an order gives, which may be none. -/
def lastOrder? (text : Text) : Option Order :=
  (((lineClauses text).filterMap Clause.order?).getLast?).join

/-- The answers to a text among some notes: all that its lines admit, sorted stably if there is
an order. -/
def Answers (text : Text) (notes answers : List Note) : Prop :=
  match lastOrder? text with
  | none => answers = notes.filter (admits text)
  | some order => StableSort order.Precedes (notes.filter (admits text)) answers

theorem all_admits (note : Note) (clauses : List Clause) :
    clauses.all (Clause.admits note) =
      ((clauses.filterMap Clause.scope?).all (fun scope => passes (inScope scope note)) &&
        (clauses.filterMap Clause.condition?).all fun test => passes (meets test note)) := by
  induction clauses with
  | nil => rfl
  | cons clause clauses inductionHypothesis =>
    rw [List.all_cons, inductionHypothesis, List.filterMap_cons, List.filterMap_cons]
    cases clause with
    | scope place => exact (Bool.and_assoc _ _ _).symm
    | condition test => exact Bool.and_left_comm _ _ _
    | _ => exact Bool.true_and _

/-- The last form that the lines of a text name. -/
def lastForm? (text : Text) : Option (Form × Bool × List Column) :=
  ((lineClauses text).filterMap Clause.form?).getLast?

theorem parse?_eq_some_iff {text : Text} {query : Query} :
    parse? text = some query ↔ lastForm? text = some (query.form, query.withoutId, query.columns) ∧
      (lineClauses text).filterMap Clause.scope? = query.scopes ∧
      (lineClauses text).filterMap Clause.condition? = query.conditions ∧
      lastOrder? text = query.order := by
  rw [parse?_eq, Option.map_eq_some_iff]
  constructor
  · rintro ⟨⟨form, withoutId, columns⟩, found, rfl⟩
    exact ⟨found, rfl, rfl, rfl⟩
  · rintro ⟨form, scopes, conditions, order⟩
    refine ⟨_, form, ?_⟩
    rw [scopes, conditions]
    show ({ query with order := lastOrder? text } : Query) = query
    rw [order]

theorem admits_eq_selects {text : Text} {query : Query} (parsed : parse? text = some query) :
    admits text = query.selects := by
  obtain ⟨-, scopes, conditions, -⟩ := parse?_eq_some_iff.1 parsed
  funext note
  rw [admits, all_admits, scopes, conditions]
  rfl

/-- A query finds the answers to its text. -/
theorem answers_arrange {text : Text} {query : Query} (parsed : parse? text = some query)
    {notes : List Note} (comparable : ∀ note ∈ notes, query.Comparable note) :
    Answers text notes (arrange query.order (notes.filter query.selects)) := by
  obtain ⟨-, -, -, order⟩ := parse?_eq_some_iff.1 parsed
  rw [Answers, order, admits_eq_selects parsed]
  cases direction : query.order with
  | none => rfl
  | some order' =>
    exact stableSort_leaves fun note found =>
      (comparable note (List.mem_filter.1 found).1).order order' direction

/-! ### The order of lines -/

/-- Whether a line names a form. -/
def namesForm (line : Text) : Bool := (Clause.ofLine (Text.trim line)).form?.isSome

/-- Whether a line gives an order, or undoes the one before. -/
def namesOrder (line : Text) : Bool := (Clause.ofLine (Text.trim line)).order?.isSome

/-- A text with the lines of another one, in which the lines that name a form, and those that
give an order, follow each other as they did. -/
structure Reordered (text other : Text) : Prop where
  perm : (Text.lines other).Perm (Text.lines text)
  forms : (Text.lines other).filter namesForm = (Text.lines text).filter namesForm
  orders : (Text.lines other).filter namesOrder = (Text.lines text).filter namesOrder

/-- What the clauses of one kind say depends on the lines of that kind alone. -/
theorem filterMap_lineClauses_congr {Meaning : Type} {read : Clause → Option Meaning}
    {text other : Text}
    (same : (Text.lines other).filter (fun line => (read (.ofLine (Text.trim line))).isSome) =
      (Text.lines text).filter fun line => (read (.ofLine (Text.trim line))).isSome) :
    (lineClauses other).filterMap read = (lineClauses text).filterMap read := by
  have spoken (lines : List Text) :
      ((lines.map Text.trim).map Clause.ofLine).filterMap read =
        (lines.filter fun line => (read (.ofLine (Text.trim line))).isSome).filterMap
          fun line => read (.ofLine (Text.trim line)) := by
    rw [List.filterMap_map, List.filterMap_map, List.filterMap_filter]
    refine List.filterMap_congr fun line _ => ?_
    show read (.ofLine (Text.trim line)) = _
    cases read (.ofLine (Text.trim line)) <;> rfl
  rw [lineClauses, lineClauses, Text.trimmedLines, Text.trimmedLines, spoken, spoken, same]

section Reordered

variable {text other : Text} (reordered : Reordered text other)
include reordered

theorem Reordered.lineClauses_perm : (lineClauses other).Perm (lineClauses text) :=
  (reordered.perm.map _).map _

theorem Reordered.lastForm?_eq : lastForm? other = lastForm? text :=
  congrArg List.getLast? (filterMap_lineClauses_congr reordered.forms)

theorem Reordered.lastOrder?_eq : lastOrder? other = lastOrder? text :=
  congrArg (fun orders => orders.getLast?.join) (filterMap_lineClauses_congr reordered.orders)

/-- A text with its lines in another order is the same query, up to the order of its scopes and
of its conditions. -/
theorem Reordered.parse?_eq {query : Query} (parsed : parse? text = some query) :
    ∃ scopes conditions, scopes.Perm query.scopes ∧ conditions.Perm query.conditions ∧
      parse? other = some { query with scopes, conditions } := by
  obtain ⟨form, scopes, conditions, order⟩ := parse?_eq_some_iff.1 parsed
  have clauses := reordered.lineClauses_perm
  refine ⟨_, _, scopes ▸ clauses.filterMap Clause.scope?,
    conditions ▸ clauses.filterMap Clause.condition?, parse?_eq_some_iff.2 ⟨?_, rfl, rfl, ?_⟩⟩
  · rw [reordered.lastForm?_eq, form]
  · rw [reordered.lastOrder?_eq, order]

end Reordered

/-- The order of scopes and of conditions does not matter to the answers. -/
theorem run_perm {query : Query} {notes : List Note}
    (comparable : ∀ note ∈ notes, query.Comparable note) {scopes : List Scope}
    {conditions : List Condition} (samePlaces : scopes.Perm query.scopes)
    (sameTests : conditions.Perm query.conditions) :
    run { query with scopes, conditions } notes = query.run notes := by
  have still : ∀ note ∈ notes, Comparable { query with scopes, conditions } note := by
    intro note member
    obtain ⟨tags, fields, order⟩ := comparable note member
    exact ⟨fun scope inScopes => tags scope (samePlaces.subset inScopes),
      fun condition inConditions => fields condition (sameTests.subset inConditions), order⟩
  have same : selects { query with scopes, conditions } = query.selects := by
    funext note
    rw [selects, selects, samePlaces.all_eq, sameTests.all_eq]
  rw [run_eq_ok still, run_eq_ok comparable, same]

/-- A query that is read from a text has the answers to the text. A text with its lines in
another order is a query with the same answers, and it is shown in the same way. -/
theorem run_eq_answers {text : Text} {query : Query} (parsed : parse? text = some query)
    {notes : List Note} (comparable : ∀ note ∈ notes, query.Comparable note) :
    ∃ answers, query.run notes = .ok answers ∧ Answers text notes answers ∧
      ∀ other, Reordered text other →
        (∃ same, parse? other = some same ∧ same.run notes = .ok answers) ∧
          ∀ base, blockHtml base notes other = blockHtml base notes text := by
  refine ⟨_, run_eq_ok comparable, answers_arrange parsed comparable, fun other reordered => ?_⟩
  obtain ⟨scopes, conditions, samePlaces, sameTests, read⟩ := reordered.parse?_eq parsed
  have answers := run_perm comparable samePlaces sameTests
  refine ⟨⟨_, read, answers.trans (run_eq_ok comparable)⟩, fun base => ?_⟩
  rw [blockHtml, blockHtml, read, parsed]
  show (run { query with scopes, conditions } notes >>= answersHtml base query) = _
  rw [answers]

/-- Three notes, one of them twice, and two orders of which the last one holds. -/
theorem run_eq_answers_list :
    let note (path rank : Text) : Note :=
      ⟨path, path, path, [(.text "tags", .text "npc"), (.text "rank", .text rank)], none⟩
    let notes := [note "a" "2", note "b" "1", note "a" "2", note "c" "3"]
    let query : Query := ⟨.list, false, [], [⟨"#npc"⟩], [⟨"rank", .unequal, "3"⟩],
      some ⟨"rank", .ascending⟩⟩
    let text : Text := "SORT rank DESC\nWHERE rank != 3\nlist\nFROM #npc\nSORT rank ASC"
    let other : Text := "FROM #npc\nSORT rank DESC\nSORT rank ASC\nWHERE rank != 3\nlist"
    parse? text = some query ∧ (∀ note ∈ notes, query.Comparable note) ∧
      (∃ answers, query.run notes = .ok answers ∧ Answers text notes answers) ∧
        Reordered text other ∧ ∀ base, blockHtml base notes other = blockHtml base notes text := by
  intro note notes query text other
  have parsed : parse? text = some query := by decide
  have comparable (path rank : Text) : query.Comparable (note path rank) := {
    tags := fun _ _ _ => .ok _
    fields := List.forall_mem_singleton.2 (.ok _)
    order := by
      intro order found
      obtain rfl := Option.some.inj found
      exact ⟨.ok _, nofun⟩ }
  have every : ∀ note ∈ notes, query.Comparable note := by
    simp [notes, comparable]
  have reordered : Reordered text other := ⟨by decide, by decide, by decide⟩
  obtain ⟨answers, ran, right, same⟩ := run_eq_answers parsed every
  exact ⟨parsed, every, ⟨answers, ran, right⟩, reordered, (same other reordered).2⟩

end Query

end CampaignPress
