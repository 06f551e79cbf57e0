/-
This file shows that reading undoes the printing of queries. The lines of a
query stand in any order, which keeps the scopes' and the conditions' own, and
any lines without a keyword stand between them; every line is padded with
blanks as one likes. The printed lines are read one by one as the clauses that
they print, and the clauses of each kind are those of the query.
-/
import CampaignPress.Proofs.Query.Column
import CampaignPress.Proofs.Query.Condition

namespace CampaignPress

namespace Query

/-! ### Columns after the keyword of a table -/

/-- What may follow a field, in capitals: a comma, or the word before a label. -/
def EndsField (tail : Text) : Prop :=
  tail = [] ∨ (∃ rest, tail = ',' :: rest) ∨ ∃ rest, tail = ' ' :: 'A' :: rest

/-- What follows a field completes no keyword that the field begins. -/
theorem EndsField.ne_append {tail part rest : Text} (ends : EndsField tail)
    (last : part <:+ "WITHOUT ID".toList) (nonempty : part ≠ []) : tail ≠ part ++ rest := by
  have other : ∀ part ∈ "WITHOUT ID".toList.tails, part ≠ [] →
      part.head? ≠ some ',' ∧ (part.head? = some ' ' → part[1]? = some 'I') := by
    decide
  obtain ⟨noComma, noWord⟩ := other part ((List.mem_tails _ _).2 last) nonempty
  obtain ⟨c, part, rfl⟩ := List.exists_cons_of_ne_nil nonempty
  rcases ends with rfl | ⟨text, rfl⟩ | ⟨text, rfl⟩
  · exact nofun
  · intro same
    exact noComma (congrArg some (List.cons.inj same).1.symm)
  · intro same
    obtain ⟨rfl, second⟩ := List.cons.inj same
    obtain ⟨later, rfl⟩ : ∃ later, part = 'I' :: later := by
      cases part with
      | nil => exact nomatch noWord rfl
      | cons d part => exact ⟨part, by rw [Option.some.inj (noWord rfl)]⟩
    exact absurd (List.cons.inj second).1 (by decide)

/-- Only a field that begins with the words of the longer keyword lengthens the keyword of a
table. -/
theorem not_withoutId {field tail : Text}
    (shorter : ¬ Text.BeginsWithWord "WITHOUT ID" (Text.upper field))
    (ends : EndsField (Text.upper tail)) :
    ¬ Text.BeginsWithWord " WITHOUT ID" (Text.upper (' ' :: (field ++ tail))) := by
  rintro ⟨rest, same, blank⟩
  have split : Text.upper field ++ Text.upper tail = "WITHOUT ID".toList ++ rest := by
    rw [← Text.upper_append]
    exact (List.cons.inj same).2
  rcases List.append_eq_append_iff.1 split with ⟨part, whole, later⟩ | ⟨part, whole, later⟩
  · refine ends.ne_append ⟨_, whole.symm⟩ ?_ later
    rintro rfl
    rw [List.append_nil] at whole
    exact shorter ⟨[], by rw [← whole]; rfl, by simp⟩
  · refine shorter ⟨part, whole, fun c found => blank c ?_⟩
    rw [later]
    cases part with
    | nil => simp at found
    | cons d part => exact found

/-- What may follow the first column of a list of columns. -/
theorem exists_listed (text : Text) (texts : List Text) :
    ∃ tail, listed (text :: texts) = ' ' :: (text ++ tail) ∧
      (tail = [] ∨ ∃ rest, Text.upper tail = ',' :: rest) := by
  cases texts with
  | nil => exact ⟨[], by simp [listed, Text.join], Or.inl rfl⟩
  | cons next texts =>
    refine ⟨", ".toList ++ Text.join ", " (next :: texts), ?_, Or.inr ?_⟩
    · rw [listed, Text.join, List.intercalate_cons_cons, List.append_assoc]
      rfl
    · rw [Text.upper_append]
      exact ⟨_, rfl⟩

/-- The last column ends a list of columns. -/
theorem exists_last_listed {texts : List Text} (nonempty : texts ≠ []) :
    ∃ before, ∃ last ∈ texts, listed texts = before ++ last := by
  induction texts with
  | nil => exact absurd rfl nonempty
  | cons text texts inductionHypothesis =>
    cases texts with
    | nil => exact ⟨[' '], text, by simp, by simp [listed, Text.join]⟩
    | cons next texts =>
      obtain ⟨before, last, member, shape⟩ := inductionHypothesis (by simp)
      refine ⟨' ' :: (text ++ ',' :: before), last, List.mem_cons_of_mem _ member, ?_⟩
      rw [List.cons_append, List.append_assoc, List.cons_append, ← shape]
      simp [listed, Text.join, List.intercalate_cons_cons]

theorem break_not_mem_listed {texts : List Text} (single : ∀ text ∈ texts, '\n' ∉ text) :
    '\n' ∉ listed texts := by
  induction texts with
  | nil => exact List.not_mem_nil
  | cons text texts inductionHypothesis =>
    rw [List.forall_mem_cons] at single
    cases texts with
    | nil => simp [listed, Text.join, single.1]
    | cons next texts =>
      have later := inductionHypothesis single.2
      rw [listed, List.mem_cons, not_or] at later
      rw [listed, Text.join, List.intercalate_cons_cons]
      simp only [List.mem_cons, List.mem_append, not_or]
      exact ⟨by decide, ⟨single.1, by decide⟩, later.2⟩

theorem Column.Written.not_withoutId {column : Column} {text : Text} {texts : List Text}
    (shorter : ¬ Text.BeginsWithWord "WITHOUT ID" (Text.upper column.field))
    (written : column.Written text) :
    ¬ Text.BeginsWithWord " WITHOUT ID" (Text.upper (listed (text :: texts))) := by
  obtain ⟨tail, shape, ends⟩ := exists_listed text texts
  rw [shape]
  cases written with
  | plain same =>
    rcases ends with rfl | comma
    · exact Query.not_withoutId shorter (Or.inl rfl)
    · exact Query.not_withoutId shorter (Or.inr (Or.inl comma))
  | named spelled =>
    rename_i word
    rw [List.append_assoc]
    refine Query.not_withoutId shorter (Or.inr (Or.inr ?_))
    have capitals : Text.upper word = "AS" := Spelled.upper_eq (by decide) spelled
    refine ⟨'S' :: Text.upper (' ' :: '"' :: column.label ++ ['"'] ++ tail), ?_⟩
    have parts : labelled word column.label ++ tail =
        ' ' :: (word ++ (' ' :: '"' :: column.label ++ ['"'] ++ tail)) := by
      simp [labelled]
    rw [parts, Text.upper_blank_cons, Text.upper_append, capitals]
    rfl

/-! ### Clauses on lines -/

section Keyword

variable {keyword word : Text} (ascii : Text.isAsciiText keyword)
  (plain : keyword ≠ [] ∧ Text.trim keyword = keyword) (spelled : Spelled keyword word)
include ascii plain spelled

theorem Spelled.isBlank_eq_false {c : Char}
    (edge : c.toUpper ∈ keyword.head? ∨ c.toUpper ∈ keyword.getLast?) (member : c ∈ word) :
    Text.isBlank c = false := by
  by_contra blank
  rw [Bool.not_eq_false] at blank
  rw [Text.toUpper_of_isBlank (Spelled.toNat_lt ascii spelled member) blank, ← plain.2] at edge
  have seen := edge.elim (Text.isBlank_head_trim c) (Text.isBlank_getLast_trim c)
  rw [blank] at seen
  exact Bool.noConfusion seen

/-- A line that begins with a keyword and ends with something visible is trimmed. -/
theorem Spelled.trim_append {content : Text}
    (last : ∀ c ∈ content.getLast?, Text.isBlank c = false) :
    Text.trim (word ++ content) = word ++ content := by
  have nonempty : word ≠ [] := by
    rintro rfl
    exact plain.1 spelled.symm
  refine Text.trim_eq_self ?_ ?_
  · intro c found
    rw [List.head?_append_of_ne_nil _ nonempty] at found
    refine Spelled.isBlank_eq_false ascii plain spelled (Or.inl ?_) (List.mem_of_mem_head? found)
    rw [← spelled, List.head?_map, found]
    exact rfl
  · intro c found
    cases content with
    | nil =>
      rw [List.append_nil] at found
      refine Spelled.isBlank_eq_false ascii plain spelled (Or.inr ?_)
        (List.mem_of_mem_getLast? found)
      rw [← spelled, List.getLast?_map, found]
      exact rfl
    | cons d content =>
      rw [List.getLast?_append_of_ne_nil _ (List.cons_ne_nil d content)] at found
      exact last c found

end Keyword

theorem follows_listed (texts : List Text) : Follows (listed texts) := by
  cases texts with
  | nil => simp [listed, Follows]
  | cons text texts => simp [listed, Follows]

theorem follows_blank_cons (text : Text) : Follows (' ' :: text) := by
  simp [Follows]

namespace Scope

/-- The scopes that have a printed form. -/
structure Writable (scope : Scope) : Prop where
  nonempty : scope.selector ≠ []
  trimmed : Text.trim scope.selector = scope.selector
  single : '\n' ∉ scope.selector

end Scope

/-- The queries that have a printed form. Only a table leaves out the notes, and its first column
does not lengthen the keyword before it. -/
structure Writable (query : Query) : Prop where
  columns : ∀ column ∈ query.columns, column.Writable
  list : query.form = .list → query.withoutId = false
  table : query.form = .table → query.withoutId = false → ∀ column ∈ query.columns.head?,
    ¬ Text.BeginsWithWord "WITHOUT ID" (Text.upper column.field)
  scopes : ∀ scope ∈ query.scopes, scope.Writable
  conditions : ∀ condition ∈ query.conditions, condition.Writable
  order : ∀ order ∈ query.order, order.Writable

/-- The keyword of a form. -/
def formKeyword : Form → (withoutId : Bool) → Text
  | .table, true => "TABLE WITHOUT ID"
  | .table, false => "TABLE"
  | .list, _ => "LIST"

namespace Clause

/-- How a clause is written on a line, with its keyword in any case. -/
inductive Written : Clause → Text → Prop
  | form {kind : Form} {withoutId : Bool} {columns : List Column} {word : Text} {texts : List Text}
      (spelled : Spelled (formKeyword kind withoutId) word)
      (written : List.Forall₂ Column.Written columns texts) :
      Written (.form kind withoutId columns) (word ++ listed texts)
  | scope {place : Scope} {word : Text} (spelled : Spelled "FROM" word) :
      Written (.scope place) (word ++ ' ' :: place.selector)
  | condition {test : Condition} {word : Text} (spelled : Spelled "WHERE" word) :
      Written (.condition test) (word ++ ' ' :: test.toText)
  | order {direction : Order} {word text : Text} (spelled : Spelled "SORT" word)
      (written : direction.Written text) :
      Written (.order (some direction)) (word ++ ' ' :: text)
  | nothing {line : Text} (idle : Idle line) (trimmed : Text.trim line = line)
      (single : '\n' ∉ line) : Written .nothing line

/-- The clauses that have a printed form. -/
def Writable : Clause → Prop
  | .form kind withoutId columns => (∀ column ∈ columns, column.Writable) ∧
      (kind = .list → withoutId = false) ∧
      (kind = .table → withoutId = false → ∀ column ∈ columns.head?,
        ¬ Text.BeginsWithWord "WITHOUT ID" (Text.upper column.field))
  | .scope place => place.Writable
  | .condition test => test.Writable
  | .order direction => ∀ found ∈ direction, found.Writable
  | .nothing => True

theorem ofLine_form {kind : Form} {withoutId : Bool} {columns : List Column} {word : Text}
    {texts : List Text} (writable : Writable (.form kind withoutId columns))
    (spelled : Spelled (formKeyword kind withoutId) word)
    (written : List.Forall₂ Column.Written columns texts) :
    ofLine (word ++ listed texts) = .form kind withoutId columns := by
  obtain ⟨each, list, table⟩ := writable
  have same := columnsOf_listed each written
  have follows := follows_listed texts
  cases kind with
  | list =>
    obtain rfl := list rfl
    rw [ofLine_list follows spelled, same]
  | table =>
    cases withoutId with
    | true => rw [ofLine_tableWithoutId follows spelled, same]
    | false =>
      have shorter : ¬ Text.BeginsWithWord " WITHOUT ID" (Text.upper (listed texts)) := by
        cases written with
        | nil =>
          rintro ⟨rest, empty, -⟩
          simp [listed] at empty
        | cons first others => exact first.not_withoutId (table rfl rfl _ rfl)
      rw [ofLine_table follows spelled shorter, same]

variable {clause : Clause} {line : Text} (writable : clause.Writable)
  (written : clause.Written line)
include writable written

/-- A written clause is read as itself. -/
theorem Written.ofLine_eq : ofLine line = clause := by
  cases written with
  | form spelled columns => exact ofLine_form writable spelled columns
  | scope spelled =>
    have trimmed := (Text.trim_blank_cons _).trans writable.trimmed
    rw [ofLine_from (follows_blank_cons _) spelled (by rw [trimmed]; exact writable.nonempty),
      trimmed]
  | condition spelled =>
    have trimmed := (Text.trim_blank_cons _).trans writable.trim_toText
    refine ofLine_where (follows_blank_cons _) spelled ?_
    rw [trimmed]
    exact writable.condition?_toText
  | order spelled direction =>
    have found := writable _ rfl
    rw [ofLine_sort (follows_blank_cons _) spelled, Text.trim_blank_cons, direction.trim_eq found,
      direction.order?_eq found]
  | nothing idle trimmed single => exact ofLine_of_idle idle

theorem Written.trim_eq : Text.trim line = line := by
  cases written with
  | form spelled columns =>
    rename_i kind withoutId columns' word texts
    have visible : ∀ c ∈ (listed texts).getLast?, Text.isBlank c = false := by
      intro c found
      by_cases empty : texts = []
      · rw [empty] at found
        exact absurd found (by simp [listed])
      · obtain ⟨before, last, member, shape⟩ := exists_last_listed empty
        obtain ⟨column, fits, printed⟩ := exists_written writable.1 columns last member
        rw [shape, List.getLast?_append_of_ne_nil _ (printed.ne_nil fits),
          ← printed.trim_eq fits] at found
        exact Text.isBlank_getLast_trim c found
    refine Spelled.trim_append ?_ ?_ spelled visible <;> cases kind <;> cases withoutId <;> decide
  | scope spelled =>
    refine Spelled.trim_append (by decide) (by decide) spelled fun c found => ?_
    rw [List.getLast?_cons_of_ne_nil writable.nonempty, ← writable.trimmed] at found
    exact Text.isBlank_getLast_trim c found
  | condition spelled =>
    refine Spelled.trim_append (by decide) (by decide) spelled fun c found => ?_
    rw [List.getLast?_cons_of_ne_nil writable.toText_ne_nil, ← writable.trim_toText] at found
    exact Text.isBlank_getLast_trim c found
  | order spelled direction =>
    have fits := writable _ rfl
    refine Spelled.trim_append (by decide) (by decide) spelled fun c found => ?_
    rw [List.getLast?_cons_of_ne_nil (direction.ne_nil fits), ← direction.trim_eq fits] at found
    exact Text.isBlank_getLast_trim c found
  | nothing idle trimmed single => exact trimmed

theorem Written.break_not_mem : '\n' ∉ line := by
  have word {keyword word : Text} (ascii : Text.isAsciiText keyword)
      (spelled : Spelled keyword word) (missing : '\n' ∉ keyword) : '\n' ∉ word :=
    Spelled.not_mem_of_isBlank ascii spelled (by decide) missing
  cases written with
  | form spelled columns =>
    rename_i kind withoutId columns' word' texts
    have inWord : '\n' ∉ word' := by
      refine word ?_ spelled ?_ <;> cases kind <;> cases withoutId <;> decide
    have inColumns : '\n' ∉ listed texts := by
      refine break_not_mem_listed fun text member => ?_
      obtain ⟨column, fits, printed⟩ := exists_written writable.1 columns text member
      exact printed.break_not_mem fits
    simp [inWord, inColumns]
  | scope spelled => simp [word (by decide) spelled (by decide), writable.single]
  | condition spelled => simp [word (by decide) spelled (by decide), writable.break_not_mem]
  | order spelled direction =>
    simp [word (by decide) spelled (by decide), direction.break_not_mem (writable _ rfl)]
  | nothing idle trimmed single => exact single

end Clause

/-! ### Printed queries -/

/-- The clauses of a query, in any order that keeps the scopes' and the conditions' own, with
lines that say nothing anywhere between them. -/
inductive Arranged : Option (Form × Bool × List Column) → List Scope → List Condition →
    Option Order → List Clause → Prop
  | nil : Arranged none [] [] none []
  | nothing {form scopes conditions order clauses}
      (others : Arranged form scopes conditions order clauses) :
      Arranged form scopes conditions order (.nothing :: clauses)
  | form {kind withoutId columns scopes conditions order clauses}
      (others : Arranged none scopes conditions order clauses) :
      Arranged (some (kind, withoutId, columns)) scopes conditions order
        (.form kind withoutId columns :: clauses)
  | scope {form place scopes conditions order clauses}
      (others : Arranged form scopes conditions order clauses) :
      Arranged form (place :: scopes) conditions order (.scope place :: clauses)
  | condition {form scopes test conditions order clauses}
      (others : Arranged form scopes conditions order clauses) :
      Arranged form scopes (test :: conditions) order (.condition test :: clauses)
  | order {form scopes conditions direction clauses}
      (others : Arranged form scopes conditions none clauses) :
      Arranged form scopes conditions (some direction) (.order (some direction) :: clauses)

section Arranged

variable {form : Option (Form × Bool × List Column)} {scopes : List Scope}
  {conditions : List Condition} {order : Option Order} {clauses : List Clause}

/-- An arrangement holds the parts that it arranges and no others. -/
theorem Arranged.parts (arranged : Arranged form scopes conditions order clauses) :
    clauses.filterMap Clause.form? = form.toList ∧ clauses.filterMap Clause.scope? = scopes ∧
      clauses.filterMap Clause.condition? = conditions ∧
      clauses.filterMap Clause.order? = order.toList.map some := by
  induction arranged with
  | nil => exact ⟨rfl, rfl, rfl, rfl⟩
  | nothing others inductionHypothesis => exact inductionHypothesis
  | form others inductionHypothesis =>
    obtain ⟨forms, others⟩ := inductionHypothesis
    exact ⟨by rw [List.filterMap_cons, forms]; rfl, others⟩
  | scope others inductionHypothesis =>
    obtain ⟨forms, places, others⟩ := inductionHypothesis
    exact ⟨forms, by rw [List.filterMap_cons, places]; rfl, others⟩
  | condition others inductionHypothesis =>
    obtain ⟨forms, places, tests, others⟩ := inductionHypothesis
    exact ⟨forms, places, by rw [List.filterMap_cons, tests]; rfl, others⟩
  | order others inductionHypothesis =>
    obtain ⟨forms, places, tests, orders⟩ := inductionHypothesis
    exact ⟨forms, places, tests, by rw [List.filterMap_cons, orders]; rfl⟩

theorem exists_arranged (form : Option (Form × Bool × List Column)) (scopes : List Scope)
    (conditions : List Condition) (order : Option Order) :
    ∃ clauses, Arranged form scopes conditions order clauses := by
  induction scopes with
  | cons place scopes inductionHypothesis =>
    obtain ⟨clauses, arranged⟩ := inductionHypothesis
    exact ⟨_, arranged.scope⟩
  | nil =>
    induction conditions with
    | cons test conditions inductionHypothesis =>
      obtain ⟨clauses, arranged⟩ := inductionHypothesis
      exact ⟨_, arranged.condition⟩
    | nil =>
      cases form with
      | none =>
        cases order with
        | none => exact ⟨_, .nil⟩
        | some direction => exact ⟨_, .order .nil⟩
      | some parts =>
        cases order with
        | none => exact ⟨_, .form .nil⟩
        | some direction => exact ⟨_, .form (.order .nil)⟩

theorem exists_written_columns (columns : List Column) :
    ∃ texts, List.Forall₂ Column.Written columns texts := by
  induction columns with
  | nil => exact ⟨[], .nil⟩
  | cons column columns inductionHypothesis =>
    obtain ⟨texts, written⟩ := inductionHypothesis
    have spelled : Spelled "AS" "AS" := rfl
    exact ⟨_, .cons (.named spelled) written⟩

theorem Arranged.exists_written (arranged : Arranged form scopes conditions order clauses) :
    ∃ lines, List.Forall₂ Clause.Written clauses lines := by
  induction arranged with
  | nil => exact ⟨[], .nil⟩
  | nothing others inductionHypothesis =>
    obtain ⟨lines, written⟩ := inductionHypothesis
    exact ⟨_, .cons (.nothing idle_nil rfl List.not_mem_nil) written⟩
  | form others inductionHypothesis =>
    rename_i kind withoutId columns _ _ _ _
    obtain ⟨lines, written⟩ := inductionHypothesis
    obtain ⟨texts, columns⟩ := exists_written_columns columns
    have spelled : Spelled (formKeyword kind withoutId) (formKeyword kind withoutId) := by
      cases kind <;> cases withoutId <;> rfl
    exact ⟨_, .cons (.form spelled columns) written⟩
  | scope others inductionHypothesis =>
    obtain ⟨lines, written⟩ := inductionHypothesis
    have spelled : Spelled "FROM" "FROM" := rfl
    exact ⟨_, .cons (.scope spelled) written⟩
  | condition others inductionHypothesis =>
    obtain ⟨lines, written⟩ := inductionHypothesis
    have spelled : Spelled "WHERE" "WHERE" := rfl
    exact ⟨_, .cons (.condition spelled) written⟩
  | order others inductionHypothesis =>
    rename_i direction _
    obtain ⟨lines, written⟩ := inductionHypothesis
    have spelled : Spelled "SORT" "SORT" := rfl
    have word : Spelled direction.direction.keyword direction.direction.keyword := by
      cases direction.direction <;> rfl
    exact ⟨_, .cons (.order spelled ⟨_, word, rfl⟩) written⟩

end Arranged

/-- A printing of a query on lines: its clauses written in some arrangement, with blanks
around the lines. -/
def Printed (query : Query) (lines : List Text) : Prop :=
  ∃ clauses written,
    Arranged (some (query.form, query.withoutId, query.columns)) query.scopes query.conditions
      query.order clauses ∧
    List.Forall₂ Clause.Written clauses written ∧ List.Forall₂ Text.Padded written lines

/-- The clauses of a writable query are writable. -/
theorem Writable.clauses {query : Query} (writable : query.Writable) {clauses : List Clause}
    (arranged : Arranged (some (query.form, query.withoutId, query.columns)) query.scopes
      query.conditions query.order clauses) : ∀ clause ∈ clauses, clause.Writable := by
  obtain ⟨forms, places, tests, orders⟩ := arranged.parts
  intro clause member
  cases clause with
  | form kind withoutId columns =>
    have found : (kind, withoutId, columns) ∈ clauses.filterMap Clause.form? :=
      List.mem_filterMap.2 ⟨_, member, rfl⟩
    rw [forms] at found
    obtain ⟨rfl, rfl, rfl⟩ : kind = query.form ∧ withoutId = query.withoutId ∧
        columns = query.columns := by
      simpa using found
    exact ⟨writable.columns, writable.list, writable.table⟩
  | scope place =>
    refine writable.scopes place ?_
    rw [← places]
    exact List.mem_filterMap.2 ⟨_, member, rfl⟩
  | condition test =>
    refine writable.conditions test ?_
    rw [← tests]
    exact List.mem_filterMap.2 ⟨_, member, rfl⟩
  | order direction =>
    have found : direction ∈ clauses.filterMap Clause.order? :=
      List.mem_filterMap.2 ⟨_, member, rfl⟩
    rw [orders] at found
    obtain ⟨order, inQuery, rfl⟩ := List.mem_map.1 found
    intro same rfl'
    obtain rfl := Option.some.inj rfl'
    exact writable.order order (Option.mem_toList.1 inQuery)
  | nothing => trivial

/-- Written lines are read as the clauses that they print. -/
theorem lineClauses_unlines {clauses : List Clause} {written lines : List Text}
    (writable : ∀ clause ∈ clauses, clause.Writable) (nonempty : lines ≠ [])
    (printed : List.Forall₂ Clause.Written clauses written)
    (padded : List.Forall₂ Text.Padded written lines) :
    lineClauses (Text.unlines lines) = clauses := by
  have each : (∀ line ∈ lines, '\n' ∉ line) ∧
      (lines.map Text.trim).map Clause.ofLine = clauses := by
    clear nonempty
    induction printed generalizing lines with
    | nil =>
      cases padded
      exact ⟨by simp, rfl⟩
    | cons first others inductionHypothesis =>
      rw [List.forall_mem_cons] at writable
      cases padded with
      | cons around padded =>
        obtain ⟨single, later⟩ := inductionHypothesis writable.2 padded
        refine ⟨List.forall_mem_cons.2 ⟨?_, single⟩, ?_⟩
        · exact around.break_not_mem (first.break_not_mem writable.1)
        · rw [List.map_cons, List.map_cons, later, around.trim_eq, first.trim_eq writable.1,
            first.ofLine_eq writable.1]
  rw [lineClauses, Text.trimmedLines, Text.lines_unlines each.1 nonempty, each.2]

/-- Every writable query has a printing, and every printing of it is read as the query. -/
theorem parse?_printed {query : Query} (writable : query.Writable) :
    (∃ lines, query.Printed lines) ∧
      ∀ lines, query.Printed lines → parse? (Text.unlines lines) = some query := by
  constructor
  · obtain ⟨clauses, arranged⟩ := exists_arranged (some (query.form, query.withoutId,
      query.columns)) query.scopes query.conditions query.order
    obtain ⟨lines, written⟩ := arranged.exists_written
    exact ⟨lines, clauses, lines, arranged, written, List.forall₂_same.2 fun _ _ => .refl _⟩
  · rintro lines ⟨clauses, written, arranged, printed, padded⟩
    obtain ⟨forms, places, tests, orders⟩ := arranged.parts
    have nonempty : lines ≠ [] := by
      rintro rfl
      cases padded
      cases printed
      exact absurd forms (by simp)
    rw [parse?_eq, lineClauses_unlines (writable.clauses arranged) nonempty printed padded, forms,
      places, tests, orders]
    obtain ⟨form, withoutId, columns, scopes, conditions, order⟩ := query
    cases order <;> rfl

/-- A field that holds the word before labels, a label with a comma, and a value with a sign,
on lines that stand in an order of their own. -/
theorem parse?_printed_table :
    let column : Column := ⟨"x as y", "a, b"⟩
    let condition : Condition := ⟨"status", .unequal, "a = b"⟩
    let order : Order := ⟨"name", .ascending⟩
    let query : Query := ⟨.table, false, [column], [⟨"#npc"⟩], [condition], some order⟩
    let text : Text := "Sort name aSC\n\n  WHERE status != a = b\nno keyword\n" ++
      "table x as y AS \"a, b\"\nFROM #npc"
    query.Writable ∧ parse? text = some query := by
  intro column condition order query text
  have writable : query.Writable := {
    columns := List.forall_mem_singleton.2
      ⟨by decide, by decide, by decide, by decide, by decide, Or.inr (by decide)⟩
    list := by decide
    table := by
      intro _ _ found first
      obtain rfl := Option.some.inj first
      rw [← hasKeyword_iff]
      decide
    scopes := List.forall_mem_singleton.2 ⟨by decide, by decide, by decide⟩
    conditions := List.forall_mem_singleton.2
      ⟨by decide, List.all_iff_forall_prop.1 (by decide), by decide, by decide, by decide⟩
    order := by
      intro found same
      obtain rfl := Option.some.inj same
      exact ⟨by decide, List.all_iff_forall_prop.1 (by decide)⟩ }
  have idle : Idle "no keyword" := by
    intro keyword member
    rw [← hasKeyword_eq_false]
    revert keyword
    decide
  have ascending : order.Written "name aSC" := ⟨"aSC".toList, rfl, rfl⟩
  have spelled : Spelled "SORT" "Sort" ∧ Spelled "WHERE" "WHERE" ∧ Spelled "TABLE" "table" ∧
      Spelled "AS" "AS" ∧ Spelled "FROM" "FROM" := ⟨rfl, rfl, rfl, rfl, rfl⟩
  obtain ⟨sort, test, form, label, place⟩ := spelled
  have columns : List.Forall₂ Column.Written [column] ["x as y AS \"a, b\"".toList] :=
    .cons (.named label) .nil
  have indented : Text.Padded "WHERE status != a = b" "  WHERE status != a = b" :=
    ⟨[' ', ' '], [], rfl, by simp [Text.isBlank]⟩
  have printed : query.Printed (Text.lines text) := by
    refine ⟨_, _, .order (.nothing (.condition (.nothing (.form (.scope .nil))))),
      .cons (.order sort ascending) (.cons (.nothing idle_nil rfl (by decide))
        (.cons (.condition test) (.cons (.nothing idle rfl (by decide))
          (.cons (.form form columns) (.cons (.scope place) .nil))))), ?_⟩
    exact .cons (.refl _) (.cons (.refl _) (.cons indented
      (.cons (.refl _) (.cons (.refl _) (.cons (.refl _) .nil)))))
  have read := (parse?_printed writable).2 _ printed
  rw [Text.unlines_lines] at read
  exact ⟨writable, read⟩

end Query

end CampaignPress
