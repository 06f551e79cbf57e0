/-
This file says which values a condition finds that are written in double
quotes. A condition takes all quotes and brackets of any kind off the ends of
its literal, so a value that begins or ends with one of them is cut short, and a
text has another small form than all shorter ones that are left of it. And an
inequality is looked for first: if nothing is blank before a sign of inequality
in the value, and nothing around the sign of the condition, then that sign is
taken for the condition's. All other values are found.
-/
import CampaignPress.Proofs.Query.Condition
import CampaignPress.Proofs.Query.Matching
import CampaignPress.Proofs.Text.Case

namespace CampaignPress

namespace Query

/-! ### Literals -/

/-- A value between double quotes. -/
def inQuotes (value : Text) : Text := '"' :: (value ++ ['"'])

/-- A value on one line, without blanks around it, that may stand between double quotes. -/
structure IsQuotable (value : Text) : Prop where
  nonempty : value ≠ []
  trimmed : Text.trim value = value
  single : '\n' ∉ value
  unquoted : '"' ∉ value
  bare : ¬ IsWrapped value

/-- Neither end of a value is a quote or a bracket of its side. -/
structure HasPlainEnds (value : Text) : Prop where
  first : ∀ c ∈ value.head?, c ≠ '\x27' ∧ c ≠ '['
  last : ∀ c ∈ value.getLast?, c ≠ '\x27' ∧ c ≠ ']'

/-- The characters that a literal may begin with before its value. -/
def opensLiteral (c : Char) : Bool := c = '"' || c = '\x27' || c = '['

def closesLiteral (c : Char) : Bool := c = '"' || c = '\x27' || c = ']'

theorem stripLiteral_eq (value : Text) : stripLiteral value =
    Text.trim (Text.dropEnd closesLiteral (Text.dropStart opensLiteral (Text.trim value))) := rfl

theorem trim_inQuotes (value : Text) : Text.trim (inQuotes value) = inQuotes value := by
  refine Text.trim_eq_self (fun c found => ?_) fun c found => ?_
  · obtain rfl := Option.some.inj found
    rfl
  · rw [inQuotes, ← List.cons_append, List.getLast?_concat] at found
    obtain rfl := Option.some.inj found
    rfl

/-- Double quotes come off with the other quotes and brackets. -/
theorem stripLiteral_inQuotes {value : Text} (trimmed : Text.trim value = value) :
    stripLiteral (inQuotes value) = stripLiteral value := by
  have opened : Text.dropStart opensLiteral (inQuotes value) =
      Text.dropStart opensLiteral (value ++ ['"']) := rfl
  rw [stripLiteral_eq, stripLiteral_eq, trim_inQuotes, trimmed, opened, Text.dropStart,
    Text.dropStart, List.dropWhile_append]
  split
  · rename_i empty
    rw [List.isEmpty_iff.1 empty]
    rfl
  · have closed (rest : Text) :
        Text.dropEnd closesLiteral (rest ++ ['"']) = Text.dropEnd closesLiteral rest :=
      List.rdropWhile_concat_pos closesLiteral rest '"' rfl
    rw [closed]

theorem sublist_stripLiteral (value : Text) : (stripLiteral value).Sublist value :=
  (Text.sublist_trim _).trans <| (Text.isPrefix_dropEnd closesLiteral _).sublist.trans <|
    (List.dropWhile_sublist opensLiteral).trans (Text.sublist_trim value)

section Values

variable {value : Text} (quotable : IsQuotable value)
include quotable

theorem IsQuotable.opensLiteral_eq_false_iff {c : Char} (member : c ∈ value) :
    opensLiteral c = false ↔ c ≠ '\x27' ∧ c ≠ '[' := by
  have other : c ≠ '"' := fun same => quotable.unquoted (same ▸ member)
  simp [opensLiteral, other]

theorem IsQuotable.closesLiteral_eq_false_iff {c : Char} (member : c ∈ value) :
    closesLiteral c = false ↔ c ≠ '\x27' ∧ c ≠ ']' := by
  have other : c ≠ '"' := fun same => quotable.unquoted (same ▸ member)
  simp [closesLiteral, other]

/-- A value loses nothing as a literal if its ends are plain. -/
theorem IsQuotable.stripLiteral_eq_self_iff : stripLiteral value = value ↔ HasPlainEnds value := by
  rw [stripLiteral_eq, quotable.trimmed]
  constructor
  · intro same
    have opened := List.dropWhile_sublist opensLiteral (l := value)
    have closed := (Text.isPrefix_dropEnd closesLiteral (Text.dropStart opensLiteral value)).sublist
    have within := Text.sublist_trim
      (Text.dropEnd closesLiteral (Text.dropStart opensLiteral value))
    rw [same] at within
    have start : Text.dropStart opensLiteral value = value :=
      opened.antisymm (within.trans closed)
    rw [start] at closed within
    have whole : Text.dropEnd closesLiteral value = value := closed.antisymm within
    refine ⟨fun c found => ?_, fun c found => ?_⟩
    · refine (quotable.opensLiteral_eq_false_iff (List.mem_of_mem_head? found)).1 ?_
      exact Text.eq_false_of_mem_head?_dropStart (start.symm ▸ found)
    · refine (quotable.closesLiteral_eq_false_iff (List.mem_of_mem_getLast? found)).1 ?_
      exact Text.eq_false_of_mem_getLast?_dropEnd (whole.symm ▸ found)
  · intro plain
    have opened : Text.dropStart opensLiteral value = value := Text.dropStart_eq_self fun c found =>
      (quotable.opensLiteral_eq_false_iff (List.mem_of_mem_head? found)).2 (plain.first c found)
    have closed : Text.dropEnd closesLiteral value = value := Text.dropEnd_eq_self fun c found =>
      (quotable.closesLiteral_eq_false_iff (List.mem_of_mem_getLast? found)).2 (plain.last c found)
    rw [opened, closed, quotable.trimmed]

end Values

/-! ### Signs -/

/-- A sign stands in a clause behind a word, with blanks between them or none, and before a
value. -/
def HasSign (sign clause : Text) : Prop :=
  ∃ word blanks rest, clause = word ++ (blanks ++ (sign ++ rest)) ∧ word ≠ [] ∧
    (∀ c ∈ word, Text.isBlank c = false) ∧ (∀ c ∈ blanks, Text.isBlank c) ∧ (valueOf? rest).isSome

theorem HasSign.cons {sign clause : Text} (has : HasSign sign clause) {c : Char}
    (inked : Text.isBlank c = false) : HasSign sign (c :: clause) := by
  obtain ⟨word, blanks, rest, rfl, -, plain, blank, value⟩ := has
  exact ⟨c :: word, blanks, rest, rfl, List.cons_ne_nil c word,
    List.forall_mem_cons.2 ⟨inked, plain⟩, blank, value⟩

theorem hasSign_of_isSome {sign clause : Text} (found : (cutSign? sign clause).isSome) :
    HasSign sign clause := by
  induction clause with
  | nil => exact absurd found Bool.false_ne_true
  | cons c clause inductionHypothesis =>
    rw [cutSign?] at found
    split at found
    · exact absurd found Bool.false_ne_true
    · rename_i plain
      rw [Bool.not_eq_true] at plain
      split at found
      · rename_i value here
        obtain ⟨rest, after, filled⟩ := Option.bind_eq_some_iff.1 here
        refine ⟨[c], clause.takeWhile Text.isBlank, rest, ?_, List.cons_ne_nil c [],
          List.forall_mem_singleton.2 plain, fun d => List.mem_takeWhile_imp, ?_⟩
        · rw [← Text.after?_eq_some_iff.1 after, Text.takeWhile_append_trimStart]
          rfl
        · rw [filled]
          rfl
      · rw [Option.isSome_map] at found
        exact (inductionHypothesis found).cons plain

/-- A field as short as it can be is found if any is. -/
theorem HasSign.isSome_cutSign? {mark : Char} {sign clause : Text}
    (inked : Text.isBlank mark = false) (has : HasSign (mark :: sign) clause) :
    (cutSign? (mark :: sign) clause).isSome := by
  obtain ⟨word, blanks, rest, rfl, filled, plain, blank, value⟩ := has
  have start : Text.trimStart (blanks ++ (mark :: sign ++ rest)) = mark :: sign ++ rest := by
    refine Text.trimStart_append blank fun d found => ?_
    obtain rfl := Option.some.inj found
    exact inked
  induction word with
  | nil => exact absurd rfl filled
  | cons c word inductionHypothesis =>
    rw [List.forall_mem_cons] at plain
    rw [List.cons_append, cutSign?, if_neg (by simp [plain.1])]
    split
    · rfl
    · rename_i missing
      rw [Option.isSome_map]
      cases word with
      | nil =>
        rw [List.nil_append, start, Text.after?_eq_some_iff.2 rfl, Option.bind_some] at missing
        rw [missing] at value
        exact absurd value Bool.false_ne_true
      | cons d word => exact inductionHypothesis (List.cons_ne_nil d word) plain.2

/-- A sign of inequality stands in a value before anything that is blank, but for blanks right before
it. -/
def HoldsSign (value : Text) : Prop :=
  ∃ word blanks rest, value = word ++ (blanks ++ ("!=" ++ rest)) ∧
    (∀ c ∈ word, Text.isBlank c = false) ∧ ∀ c ∈ blanks, Text.isBlank c

def IsSpaces (text : Text) : Prop := ∀ c ∈ text, c = ' '

theorem IsSpaces.isBlank {text : Text} (spaces : IsSpaces text) : ∀ c ∈ text, Text.isBlank c := by
  intro c member
  rw [spaces c member]
  rfl

theorem valueOf?_append_inQuotes {before value : Text} (spaces : IsSpaces before)
    (single : '\n' ∉ value) : valueOf? (before ++ inQuotes value) = some (inQuotes value) := by
  have whole : Text.trimStart (before ++ inQuotes value) = inQuotes value := by
    refine Text.trimStart_append spaces.isBlank fun c found => ?_
    obtain rfl := Option.some.inj found
    rfl
  have line : '\n' ∉ before ++ inQuotes value := by
    intro member
    rcases List.mem_append.1 member with inBlanks | inValue
    · exact absurd (spaces _ inBlanks) (by decide)
    · exact single (by simpa [inQuotes] using inValue)
  rw [valueOf?_of_single line (by rw [whole]; exact List.cons_ne_nil _ _), whole]

theorem isSome_cutSign?_inQuotes {value : Text} (single : '\n' ∉ value) :
    (cutSign? "!=" (inQuotes value)).isSome ↔ HoldsSign value := by
  have inked : Text.isBlank '!' = false := by decide
  constructor
  · intro found
    obtain ⟨word, blanks, rest, same, filled, plain, blank, value'⟩ := hasSign_of_isSome found
    obtain ⟨c, word, rfl⟩ := List.exists_cons_of_ne_nil filled
    obtain ⟨rfl, inside⟩ := List.cons.inj same
    rcases List.eq_nil_or_concat' rest with rfl | ⟨rest, d, rfl⟩
    · exact absurd value' (by decide)
    · have split : value ++ ['"'] = word ++ (blanks ++ ("!=".toList ++ rest)) ++ [d] := by
        simp only [List.append_assoc]
        exact inside
      obtain ⟨whole, -⟩ := List.append_inj' split rfl
      exact ⟨word, blanks, rest, whole, (List.forall_mem_cons.1 plain).2, blank⟩
  · rintro ⟨word, blanks, rest, rfl, plain, blank⟩
    have quote : Text.isBlank '"' = false := by decide
    have line : '\n' ∉ rest ++ ['"'] := by
      simp only [List.mem_append, not_or] at single
      simpa using single.2.2.2
    have ink : Text.trimStart (rest ++ ['"']) ≠ [] := by
      rw [Text.trimStart, Text.dropStart, Ne, List.dropWhile_eq_nil_iff]
      intro blank
      exact absurd (blank '"' (List.mem_append_right _ List.mem_cons_self)) (by decide)
    refine HasSign.isSome_cutSign? inked ⟨'"' :: word, blanks, rest ++ ['"'], ?_,
      List.cons_ne_nil _ _, List.forall_mem_cons.2 ⟨quote, plain⟩, blank, ?_⟩
    · simp only [inQuotes, List.append_assoc]
      rfl
    · rw [valueOf?_of_single line ink]
      rfl

/-! ### Clauses -/

/-- No inequality begins with a text and the other character that follows it, but one may begin
with the text and go on. -/
theorem cutSign?_unequal_append {field blanks rest : Text} {other : Char} (nonempty : field ≠ [])
    (plain : ∀ c ∈ field, Text.isBlank c = false ∧ c ≠ '!') (blank : ∀ c ∈ blanks, Text.isBlank c)
    (inked : Text.isBlank other = false) (unlike : other ≠ '!') :
    cutSign? "!=" (field ++ (blanks ++ other :: rest)) =
      (cutSign? "!=" (blanks ++ other :: rest)).map fun found => (field ++ found.1, found.2) := by
  have start : Text.trimStart (blanks ++ other :: rest) = other :: rest := by
    refine Text.trimStart_append blank fun c found => ?_
    obtain rfl := Option.some.inj found
    exact inked
  have missing : Text.after? ('!' :: ['=']) (other :: rest) = none := if_neg unlike.symm
  have split : cutSign? ('!' :: ['=']) (field ++ (blanks ++ other :: rest)) = _ :=
    cutSign?_append _ nonempty plain
  rwa [start, missing] at split

/-- The names of the fields that describe the file of a note. -/
def fileFields : List Text := ["file.link", "file.name", "file.path", "file.folder", "file.mtime"]

theorem equal_not_mem_fileFields : ∀ name ∈ fileFields, '=' ∉ name := by
  decide

/-- A field in the head of a note, without blanks and the characters of signs in its name. -/
structure IsOwnField (field : Text) : Prop where
  nonempty : field ≠ []
  plain : ∀ c ∈ field, Text.isBlank c = false ∧ c ≠ '=' ∧ c ≠ '!'
  own : field ∉ fileFields

theorem IsOwnField.unmarked {field : Text} (own : IsOwnField field) :
    ∀ c ∈ field, Text.isBlank c = false ∧ c ≠ '!' :=
  fun c member => ⟨(own.plain c member).1, (own.plain c member).2.2⟩

/-- A field is compared with a value in double quotes, with spaces around the sign or none. -/
def quotedClause (comparison : Comparison) (before after field value : Text) : Text :=
  field ++ (before ++ (comparison.sign ++ (after ++ inQuotes value)))

theorem Comparison.exists_sign_eq (comparison : Comparison) : ∃ mark rest,
    comparison.sign = mark :: rest ∧ Text.isBlank mark = false ∧ (mark = '=' ∨ mark = '!') := by
  cases comparison with
  | equal => exact ⟨'=', [], rfl, rfl, .inl rfl⟩
  | unequal => exact ⟨'!', ['='], rfl, rfl, .inr rfl⟩

section Clauses

variable {field value before after : Text} (own : IsOwnField field) (quotable : IsQuotable value)
  (left : IsSpaces before) (right : IsSpaces after)
include own quotable left right

/-- The sign that was written is found if it is looked for. -/
theorem cutSign?_quotedClause (comparison : Comparison) :
    cutSign? comparison.sign (quotedClause comparison before after field value) =
      some (field, inQuotes value) := by
  obtain ⟨mark, rest, sign, inked, side⟩ := comparison.exists_sign_eq
  have plain : ∀ c ∈ field, Text.isBlank c = false ∧ c ≠ mark := fun c member => by
    obtain ⟨blank, equal, other⟩ := own.plain c member
    rcases side with rfl | rfl
    · exact ⟨blank, equal⟩
    · exact ⟨blank, other⟩
  have start : ∀ c ∈ (mark :: rest ++ (after ++ inQuotes value)).head?, Text.isBlank c = false := by
    intro c found
    obtain rfl := Option.some.inj found
    exact inked
  rw [quotedClause, sign, cutSign?_append _ own.nonempty plain,
    Text.trimStart_append left.isBlank start, Text.after?_eq_some_iff.2 rfl, Option.bind_some,
    valueOf?_append_inQuotes right quotable.single]
  rfl

theorem condition?_unequal : condition? (quotedClause .unequal before after field value) =
    some ⟨field, .unequal, stripLiteral value⟩ := by
  rw [← stripLiteral_inQuotes quotable.trimmed]
  exact condition?_of_unequal (cutSign?_quotedClause own quotable left right .unequal)

omit quotable right in
/-- Where an equality was written, an inequality can only begin with the whole field. -/
theorem cutSign?_unequal_quotedClause :
    cutSign? "!=" (quotedClause .equal before after field value) =
      (cutSign? "!=" (before ++ '=' :: (after ++ inQuotes value))).map fun found =>
        (field ++ found.1, found.2) := by
  have inked : Text.isBlank '=' = false := by decide
  exact cutSign?_unequal_append own.nonempty own.unmarked left.isBlank inked (by decide)

omit own quotable left in
theorem cutSign?_unequal_equal :
    cutSign? "!=" ('=' :: (after ++ inQuotes value)) =
      (cutSign? "!=" (after ++ inQuotes value)).map fun found => ('=' :: found.1, found.2) := by
  have inked : Text.isBlank '"' = false := by decide
  have plain : ∀ c ∈ ['='], Text.isBlank c = false ∧ c ≠ '!' :=
    List.forall_mem_singleton.2 (by decide)
  exact cutSign?_unequal_append (List.cons_ne_nil _ _) plain right.isBlank inked (by decide)

theorem condition?_equal (unsigned : before = [] → after = [] → ¬ HoldsSign value) :
    condition? (quotedClause .equal before after field value) =
      some ⟨field, .equal, stripLiteral value⟩ := by
  have other : cutSign? "!=" (quotedClause .equal before after field value) = none := by
    rw [cutSign?_unequal_quotedClause own left, Option.map_eq_none_iff]
    cases before with
    | cons c before =>
      obtain rfl := left c List.mem_cons_self
      rfl
    | nil =>
      rw [List.nil_append, cutSign?_unequal_equal right, Option.map_eq_none_iff]
      cases after with
      | cons c after =>
        obtain rfl := right c List.mem_cons_self
        rfl
      | nil =>
        rw [List.nil_append, ← Option.not_isSome_iff_eq_none,
          isSome_cutSign?_inQuotes quotable.single]
        exact unsigned rfl rfl
  rw [← stripLiteral_inQuotes quotable.trimmed]
  exact condition?_of_equal other (cutSign?_quotedClause own quotable left right .equal)

omit left right in
/-- A sign in the value is taken for the sign of the condition, which then asks for another
field. -/
theorem exists_condition?_of_holdsSign (holds : HoldsSign value) : ∃ longer literal,
    condition? (quotedClause .equal [] [] field value) =
      some ⟨field ++ '=' :: longer, .unequal, literal⟩ := by
  obtain ⟨⟨longer, literal⟩, inside⟩ :=
    Option.isSome_iff_exists.1 ((isSome_cutSign?_inQuotes quotable.single).2 holds)
  have none' : IsSpaces [] := List.forall_mem_nil _
  have behind : cutSign? "!=" ('=' :: ([] ++ inQuotes value)) = _ := cutSign?_unequal_equal none'
  refine ⟨longer, stripLiteral literal, condition?_of_unequal ?_⟩
  rw [cutSign?_unequal_quotedClause own none', List.nil_append, behind, List.nil_append, inside]
  rfl

omit quotable left right in
theorem trim_quotedClause (comparison : Comparison) :
    Text.trim (quotedClause comparison before after field value) =
      quotedClause comparison before after field value := by
  refine Text.trim_eq_self (fun c found => ?_) fun c found => ?_
  · rw [quotedClause, List.head?_append_of_ne_nil _ own.nonempty] at found
    exact (own.plain c (List.mem_of_mem_head? found)).1
  · have split : quotedClause comparison before after field value =
        (field ++ (before ++ (comparison.sign ++ (after ++ '"' :: value)))) ++ ['"'] := by
      simp [quotedClause, inQuotes]
    rw [split, List.getLast?_concat] at found
    obtain rfl := Option.some.inj found
    decide

theorem break_not_mem_quotedClause (comparison : Comparison) :
    '\n' ∉ quotedClause comparison before after field value := by
  have inField : '\n' ∉ field := fun member => absurd (own.plain _ member).1 (by decide)
  have inBefore : '\n' ∉ before := fun member => absurd (left _ member) (by decide)
  have inAfter : '\n' ∉ after := fun member => absurd (right _ member) (by decide)
  have inSign : '\n' ∉ comparison.sign := by
    cases comparison <;> decide
  have inValue := quotable.single
  simp [quotedClause, inQuotes, inField, inBefore, inAfter, inSign, inValue]

end Clauses

/-! ### Queries -/

/-- The query for all notes. -/
def listing : Query := ⟨.list, false, [], [], [], none⟩

/-- The text of a query with one condition, in which a field is compared with a value in double
quotes. -/
def quotedQuery (comparison : Comparison) (before after field value : Text) : Text :=
  "LIST\nWHERE " ++ quotedClause comparison before after field value

/-- The notes that the text of a query finds among others. -/
def Finds (text : Text) (notes found : List Note) : Prop :=
  ∃ query, parse? text = some query ∧ query.run notes = .ok found

theorem parse?_listing {clause : Text} {condition : Condition} (nonempty : clause ≠ [])
    (single : '\n' ∉ clause) (trimmed : Text.trim clause = clause)
    (read : condition? clause = some condition) : parse? ("LIST\nWHERE " ++ clause) =
      some (listing.asking condition.field condition.comparison condition.value) := by
  have line : '\n' ∉ "WHERE ".toList ++ clause := by
    simpa using single
  have whole : Text.trim ("WHERE ".toList ++ clause) = "WHERE ".toList ++ clause :=
    Text.trim_append_word _ nonempty (trimmed ▸ Text.isBlank_head_trim)
      (trimmed ▸ Text.isBlank_getLast_trim)
  have test : Clause.ofLine ("WHERE".toList ++ ' ' :: clause) = .condition condition := by
    have follows : Follows (' ' :: clause) := fun c found => (Option.some.inj found).symm
    have spelled : Spelled "WHERE" "WHERE" := rfl
    refine ofLine_where follows spelled ?_
    rwa [Text.trim_blank_cons, trimmed]
  have form : Clause.ofLine (Text.trim "LIST") = .form .list false [] := by decide
  have clauses : lineClauses ("LIST\nWHERE " ++ clause) =
      [.form .list false [], .condition condition] := by
    have split : Text.trimmedLines ("LIST".toList ++ '\n' :: ("WHERE ".toList ++ clause)) =
        [Text.trim "LIST", "WHERE ".toList ++ clause] := by
      rw [Text.trimmedLines_append_break, Text.trimmedLines_of_not_mem line, whole,
        Text.trimmedLines_of_not_mem (by decide)]
      rfl
    rw [lineClauses]
    refine (congrArg (List.map Clause.ofLine) split).trans ?_
    rw [List.map_cons, List.map_cons, form]
    exact congrArg (fun read => [Clause.form .list false [], read]) test
  rw [parse?_eq, clauses]
  rfl

/-- Among notes whose field has a text, the text of a query finds those that meet the condition
which is read in it. -/
theorem finds_quotedQuery {field value before after : Text} {comparison : Comparison}
    {condition : Condition} (own : IsOwnField field) (quotable : IsQuotable value)
    (left : IsSpaces before) (right : IsSpaces after)
    (read : condition? (quotedClause comparison before after field value) = some condition)
    {notes : List Note} (written : ∀ note ∈ notes, (resolve note condition.field).HasText) :
    Finds (quotedQuery comparison before after field value) notes
      (notes.filter fun note => passes (meets condition note)) := by
  have clause := parse?_listing (List.append_ne_nil_of_left_ne_nil own.nonempty _)
    (break_not_mem_quotedClause own quotable left right comparison)
    (trim_quotedClause own comparison) read
  have free : ∀ note ∈ notes, listing.Comparable note := fun note _ =>
    { tags := List.forall_mem_nil _
      fields := List.forall_mem_nil _
      order := nofun }
  refine ⟨_, clause, ?_⟩
  rw [run_asking rfl free written]
  have every : notes.filter listing.selects = notes := List.filter_eq_self.2 fun _ _ => rfl
  rw [every]

theorem Finds.unique {text : Text} {notes found other : List Note} (first : Finds text notes found)
    (second : Finds text notes other) : found = other := by
  obtain ⟨query, read, ran⟩ := first
  obtain ⟨query', read', ran'⟩ := second
  obtain rfl := Option.some.inj (read.symm.trans read')
  exact Except.ok.inj (ran.symm.trans ran')

/-! ### Notes with a value -/

theorem field?_text_cons (key name : Text) (value : Value) (others : Frontmatter) :
    Frontmatter.field? name ((.text key, value) :: others) =
      if key = name then some value else others.field? name := by
  have same : Value.isSameKey (.text key) (.text name) = decide (key = name) := by
    rw [Value.isSameKey]
  rw [Frontmatter.field?, List.find?_cons, same]
  split
  · rename_i found
    rw [if_pos (of_decide_eq_true found)]
    rfl
  · rename_i other
    rw [if_neg (of_decide_eq_false other)]
    rfl

section Notes

variable {note : Note} {field value : Text}

theorem resolve_of_not_mem (own : field ∉ fileFields) :
    resolve note field = unwrap ((note.frontmatter.field? field).getD .null) := by
  simp only [fileFields, List.mem_cons, List.not_mem_nil, or_false, not_or] at own
  obtain ⟨link, name, path, folder, time⟩ := own
  rw [resolve, decide_eq_false link, decide_eq_false name, Bool.or_self, if_neg Bool.false_ne_true,
    if_neg path, if_neg folder, if_neg time]

theorem hasValue_iff_of_text {literal : Text} (same : resolve note field = .text value) :
    HasValue note field literal ↔
      Text.lower (unwrapText value) = Text.lower (unwrapText literal) := by
  simp only [HasValue, same, Value.isLeafOf_text_iff, exists_eq_left, Says]
  constructor
  · rintro ⟨text, written, agree⟩
    obtain rfl := Except.ok.inj written
    exact agree
  · intro agree
    exact ⟨value, rfl, agree⟩

theorem sublist_unwrapText (text : Text) : (unwrapText text).Sublist text := by
  rw [unwrapText]
  split
  · exact (List.dropLast_sublist _).trans ((List.dropLast_sublist _).trans (List.drop_sublist 2 text))
  · exact .refl text

variable (own : IsOwnField field) (quotable : IsQuotable value)
  (held : note.frontmatter.field? field = some (.text value))
include own quotable held

theorem resolve_eq_text : resolve note field = .text value := by
  rw [resolve_of_not_mem own.own, held]
  exact congrArg Value.text (unwrapText_eq_self quotable.bare)

/-- A note with a value is found by the literal of the value only if that is the whole value. -/
theorem hasValue_stripLiteral_iff :
    HasValue note field (stripLiteral value) ↔ stripLiteral value = value := by
  rw [hasValue_iff_of_text (resolve_eq_text own quotable held), unwrapText_eq_self quotable.bare]
  constructor
  · intro same
    by_contra shorter
    have part := (sublist_unwrapText (stripLiteral value)).trans (sublist_stripLiteral value)
    refine Text.lower_ne_of_sublist part (fun whole => ?_) same.symm
    have back := sublist_unwrapText (stripLiteral value)
    rw [whole] at back
    exact shorter ((sublist_stripLiteral value).antisymm back)
  · intro same
    rw [same, unwrapText_eq_self quotable.bare]

end Notes

/-! ### Quoted values -/

/-- A value in double quotes stands for itself: among all notes whose field has a text, those with
the value are found where the field is to equal it, and none of them where it is not to. -/
def FindsQuoted (before after field value : Text) : Prop :=
  ∀ notes, (∀ note ∈ notes, (resolve note field).HasText) → ∃ kept others,
    Finds (quotedQuery .equal before after field value) notes kept ∧
      Finds (quotedQuery .unequal before after field value) notes others ∧
      ∀ note ∈ notes, note.frontmatter.field? field = some (.text value) →
        note ∈ kept ∧ note ∉ others

/-- A note of which nothing is known but its head. -/
def noteWith (frontmatter : Frontmatter) : Note := ⟨"a.md", "a", "a", frontmatter, none⟩

/-- A note with a value, and with a literal in a field with a longer name. -/
theorem exists_note_beside (field value longer literal : Text) : ∃ note : Note,
    note.frontmatter.field? field = some (.text value) ∧
      (resolve note (field ++ '=' :: longer)).HasText ∧
        HasValue note (field ++ '=' :: longer) literal := by
  have outside : field ++ '=' :: longer ∉ fileFields := fun member =>
    equal_not_mem_fileFields _ member (List.mem_append_right _ List.mem_cons_self)
  have unlike : field ≠ field ++ '=' :: longer := fun same => by
    have lengths := congrArg List.length same
    simp at lengths
  generalize field ++ '=' :: longer = other at outside unlike
  let note := noteWith [(.text field, .text value), (.text other, .list [.text literal])]
  have beside : note.frontmatter.field? other = some (.list [.text literal]) :=
    (field?_text_cons field other _ _).trans <| (if_neg unlike).trans <|
      (field?_text_cons other other _ []).trans (if_pos rfl)
  have resolved : resolve note other = .list [.text literal] := by
    rw [resolve_of_not_mem outside, beside]
    rfl
  refine ⟨note, (field?_text_cons field field _ _).trans (if_pos rfl), resolved ▸ .ok _, ?_⟩
  rw [HasValue, resolved]
  have inside : (Value.text literal).IsLeafOf (.text literal) := Value.isLeafOf_text_iff.2 rfl
  exact ⟨.text literal, .item rfl List.mem_cons_self inside, literal, rfl, rfl⟩

section Quoted

variable {field value before after : Text} (own : IsOwnField field) (quotable : IsQuotable value)
include own quotable

/-- A value that is cut short is not found by what is left of it. -/
theorem FindsQuoted.hasPlainEnds (left : IsSpaces before) (right : IsSpaces after)
    (finds : FindsQuoted before after field value) : HasPlainEnds value := by
  let note := noteWith [(.text field, .text value)]
  have held : note.frontmatter.field? field = some (.text value) :=
    (field?_text_cons field field _ []).trans (if_pos rfl)
  have resolved := resolve_eq_text own quotable held
  have hasText : (resolve note field).HasText := resolved ▸ .ok value
  have written : ∀ other ∈ [note], (resolve other field).HasText :=
    List.forall_mem_singleton.2 hasText
  obtain ⟨_, others, -, found, each⟩ := finds [note] written
  have missing := (each note List.mem_cons_self held).2
  have read := condition?_unequal own quotable left right
  rw [found.unique (finds_quotedQuery own quotable left right read written), List.mem_filter,
    and_iff_right List.mem_cons_self, passes_meets_unequal hasText, Bool.not_eq_true',
    Bool.not_eq_false, passes_meets_equal hasText, hasValue_stripLiteral_iff own quotable held,
    quotable.stripLiteral_eq_self_iff] at missing
  exact missing

/-- Where a sign in the value is taken for that of the condition, a note with the value is lost
if the other field that is asked for has the value that is left. -/
theorem FindsQuoted.not_holdsSign (finds : FindsQuoted [] [] field value) : ¬ HoldsSign value := by
  intro holds
  have none' : IsSpaces [] := List.forall_mem_nil _
  obtain ⟨longer, literal, read⟩ := exists_condition?_of_holdsSign own quotable holds
  obtain ⟨note, held, hasText, agreed⟩ := exists_note_beside field value longer literal
  have written : ∀ other ∈ [note], (resolve other field).HasText :=
    List.forall_mem_singleton.2 (resolve_eq_text own quotable held ▸ .ok value)
  obtain ⟨kept, _, found, -, each⟩ := finds [note] written
  have present := (each note List.mem_cons_self held).1
  rw [found.unique (finds_quotedQuery own quotable none' none' read
    (List.forall_mem_singleton.2 hasText)), List.mem_filter, passes_meets_unequal hasText,
    (passes_meets_equal hasText literal).2 agreed] at present
  exact absurd present.2 Bool.false_ne_true

/-- A value in double quotes stands for itself exactly if neither end of it is a single quote or a
bracket of its side, and if there are spaces around the sign of the condition or no sign of inequality
in the value that could be taken for it. -/
theorem findsQuoted_iff (left : IsSpaces before) (right : IsSpaces after) :
    FindsQuoted before after field value ↔
      HasPlainEnds value ∧ (before = [] → after = [] → ¬ HoldsSign value) := by
  constructor
  · intro finds
    refine ⟨finds.hasPlainEnds own quotable left right, ?_⟩
    rintro rfl rfl
    exact finds.not_holdsSign own quotable
  · rintro ⟨plain, unsigned⟩ notes written
    have whole := quotable.stripLiteral_eq_self_iff.2 plain
    refine ⟨_, _, finds_quotedQuery own quotable left right
      (condition?_equal own quotable left right unsigned) written,
      finds_quotedQuery own quotable left right
        (condition?_unequal own quotable left right) written, fun note member held => ?_⟩
    have agreed := (passes_meets_equal (written note member) (stripLiteral value)).2
      ((hasValue_stripLiteral_iff own quotable held).2 whole)
    rw [List.mem_filter, List.mem_filter, passes_meets_unequal (written note member), agreed]
    exact ⟨⟨member, rfl⟩, fun lost => absurd lost.2 Bool.false_ne_true⟩

end Quoted

/-- Single quotes, brackets and a sign inside a value do no harm beside a space. -/
theorem findsQuoted_iff_inside :
    IsOwnField "status" ∧ IsQuotable "a!=[b]'s end" ∧ IsSpaces [' '] ∧ IsSpaces [] ∧
      FindsQuoted [' '] [] "status" "a!=[b]'s end" := by
  have own : IsOwnField "status" := ⟨by decide, List.all_iff_forall_prop.1 (by decide), by decide⟩
  have quotable : IsQuotable "a!=[b]'s end" :=
    ⟨by decide, by decide, by decide, by decide, by decide⟩
  have plain : HasPlainEnds "a!=[b]'s end" := by
    constructor
    · intro c found
      obtain rfl := Option.some.inj found
      decide
    · intro c found
      obtain rfl := Option.some.inj found
      decide
  have left : IsSpaces [' '] := List.forall_mem_singleton.2 rfl
  have right : IsSpaces [] := List.forall_mem_nil _
  refine ⟨own, quotable, left, right, (findsQuoted_iff own quotable left right).2 ⟨plain, ?_⟩⟩
  exact fun none' => absurd none' (List.cons_ne_nil _ _)

/-- A value that begins with an apostrophe, one in brackets, and one with a sign between no
blanks. -/
theorem exists_quoted_lost :
    IsOwnField "status" ∧ IsQuotable "'tis" ∧ ¬ FindsQuoted [' '] [' '] "status" "'tis" ∧
      IsQuotable "[draft]" ∧ ¬ FindsQuoted [' '] [' '] "status" "[draft]" ∧
      IsQuotable "a!=b" ∧ ¬ FindsQuoted [] [] "status" "a!=b" := by
  have own : IsOwnField "status" := ⟨by decide, List.all_iff_forall_prop.1 (by decide), by decide⟩
  have space : IsSpaces [' '] := List.forall_mem_singleton.2 rfl
  have apostrophe : IsQuotable "'tis" := ⟨by decide, by decide, by decide, by decide, by decide⟩
  have bracket : IsQuotable "[draft]" := ⟨by decide, by decide, by decide, by decide, by decide⟩
  have sign : IsQuotable "a!=b" := ⟨by decide, by decide, by decide, by decide, by decide⟩
  refine ⟨own, apostrophe, fun finds => ?_, bracket, fun finds => ?_, sign, fun finds => ?_⟩
  · exact ((finds.hasPlainEnds own apostrophe space space).first '\x27' rfl).1 rfl
  · exact ((finds.hasPlainEnds own bracket space space).first '[' rfl).2 rfl
  · refine finds.not_holdsSign own sign ⟨"a", [], "b", rfl, ?_, List.forall_mem_nil _⟩
    exact List.forall_mem_singleton.2 (by decide)

end Query

end CampaignPress
