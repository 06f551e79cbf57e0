/-
This file shows how the lines of a query are told apart. A line says what its
keyword says, in whatever case the keyword is written; a line that begins with
no keyword says nothing. Since an empty line says nothing either, the query of
a text is the query of its trimmed lines.
-/
import CampaignPress.Query.Parser
import CampaignPress.Text.Fold
import CampaignPress.Proofs.Text.Cut
import CampaignPress.Proofs.Text.Lines

namespace CampaignPress

namespace Text

/-! ### Beginnings -/

/-- A text begins with a word that ends there or at a blank. -/
def BeginsWithWord (word text : Text) : Prop :=
  ∃ rest, text = word ++ rest ∧ ∀ c ∈ rest.head?, isBlank c

/-! ### Capitals -/

@[simp]
theorem upper_nil : upper [] = [] := rfl

theorem upper_append (left right : Text) : upper (left ++ right) = upper left ++ upper right :=
  List.flatMap_append

theorem upper_blank_cons (text : Text) : upper (' ' :: text) = ' ' :: upper text := rfl

def isAsciiText (text : Text) : Bool := text.all isAscii

theorem toNat_lt_of_mem {c : Char} {text : Text} (ascii : isAsciiText text) (member : c ∈ text) :
    c.toNat < 128 :=
  of_decide_eq_true (List.all_eq_true.1 ascii c member)

/-- In ASCII, capitals are the standard library's. -/
theorem upperChar_of_toNat_lt {c : Char} (ascii : c.toNat < 128) : upperChar c = [c.toUpper] := by
  have every : ∀ code < 128, upperChar (Char.ofNat code) = [(Char.ofNat code).toUpper] := by
    decide
  have found := every c.toNat ascii
  rwa [Char.ofNat_toNat] at found

theorem toNat_lt_of_toUpper {c : Char} (ascii : c.toUpper.toNat < 128) : c.toNat < 128 := by
  by_contra large
  have same : c.toUpper = c := by
    rw [Char.toUpper]
    split
    · rename_i small
      have bound : c.toNat ≤ 122 := UInt32.le_iff_toNat_le.1 small.2
      omega
    · rfl
  rw [same] at ascii
  exact large ascii

theorem toUpper_of_isBlank {c : Char} (ascii : c.toNat < 128) (blank : isBlank c) :
    c.toUpper = c := by
  have every : ∀ code < 128, isBlank (Char.ofNat code) →
      (Char.ofNat code).toUpper = Char.ofNat code := by
    decide
  have found := every c.toNat ascii
  rw [Char.ofNat_toNat] at found
  exact found blank

end Text

namespace Query

/-! ### Keywords in any case -/

/-- A keyword as it may be written: every letter in either case. -/
def Spelled (keyword word : Text) : Prop := word.map Char.toUpper = keyword

theorem Spelled.length_eq {keyword word : Text} (spelled : Spelled keyword word) :
    word.length = keyword.length := by
  rw [← spelled, List.length_map]

section Ascii

variable {keyword word : Text} (ascii : Text.isAsciiText keyword)
  (spelled : Spelled keyword word)
include ascii spelled

theorem Spelled.toNat_lt {c : Char} (member : c ∈ word) : c.toNat < 128 := by
  refine Text.toNat_lt_of_toUpper (Text.toNat_lt_of_mem ascii ?_)
  rw [← spelled]
  exact List.mem_map_of_mem member

theorem Spelled.upper_eq : Text.upper word = keyword := by
  have each : ∀ c ∈ word, Text.upperChar c = [c.toUpper] := fun c member =>
    Text.upperChar_of_toNat_lt (Spelled.toNat_lt ascii spelled member)
  rw [Text.upper, ← spelled]
  clear ascii spelled
  induction word with
  | nil => rfl
  | cons c word inductionHypothesis =>
    rw [List.forall_mem_cons] at each
    rw [List.flatMap_cons, each.1, inductionHypothesis each.2, List.map_cons]
    rfl

/-- A keyword holds no blanks but its own. -/
theorem Spelled.not_mem_of_isBlank {c : Char} (blank : Text.isBlank c) (missing : c ∉ keyword) :
    c ∉ word := by
  intro member
  have same := Text.toUpper_of_isBlank (Spelled.toNat_lt ascii spelled member) blank
  refine missing ?_
  rw [← spelled, ← same]
  exact List.mem_map_of_mem member

end Ascii

/-! ### The keyword of a line -/

theorem hasKeyword_iff {capitals keyword : Text} :
    hasKeyword capitals keyword ↔ Text.BeginsWithWord keyword capitals := by
  constructor
  · intro found
    rw [hasKeyword] at found
    split at found
    · rename_i whole
      exact ⟨[], Text.after?_eq_some_iff.1 whole, by simp⟩
    · rename_i c rest part
      exact ⟨c :: rest, Text.after?_eq_some_iff.1 part, by simpa using found⟩
    · simp at found
  · rintro ⟨rest, rfl, blank⟩
    rw [hasKeyword, Text.after?_eq_some_iff.2 rfl]
    cases rest with
    | nil => rfl
    | cons c rest => exact blank c rfl

theorem hasKeyword_eq_false {capitals keyword : Text} :
    hasKeyword capitals keyword = false ↔ ¬ Text.BeginsWithWord keyword capitals := by
  rw [← hasKeyword_iff, Bool.not_eq_true]

/-- What follows a keyword is nothing, or something after a blank. -/
def Follows (content : Text) : Prop := ∀ c ∈ content.head?, c = ' '

theorem Follows.isBlank_upper {content : Text} (follows : Follows content) :
    ∀ c ∈ (Text.upper content).head?, Text.isBlank c := by
  cases content with
  | nil => simp
  | cons c content =>
    obtain rfl := follows c rfl
    rw [Text.upper_blank_cons]
    intro c found
    obtain rfl := Option.some.inj found
    decide

theorem hasKeyword_append {keyword content : Text} (follows : Follows content) :
    hasKeyword (keyword ++ Text.upper content) keyword = true :=
  hasKeyword_iff.2 ⟨Text.upper content, rfl, follows.isBlank_upper⟩

section Lines

variable {word content : Text} (follows : Follows content)
include follows

theorem ofLine_tableWithoutId (spelled : Spelled "TABLE WITHOUT ID" word) :
    Clause.ofLine (word ++ content) = .form .table true (columnsOf content) := by
  have capitals : Text.upper (word ++ content) = "TABLE WITHOUT ID" ++ Text.upper content := by
    rw [Text.upper_append, Spelled.upper_eq (by decide) spelled]
  simp only [Clause.ofLine, capitals, hasKeyword_append follows, if_true, ← spelled.length_eq,
    List.drop_left]

/-- What follows the keyword of a table is read as its columns, unless the longer keyword
stands there. -/
theorem ofLine_table (spelled : Spelled "TABLE" word)
    (shorter : ¬ Text.BeginsWithWord " WITHOUT ID" (Text.upper content)) :
    Clause.ofLine (word ++ content) = .form .table false (columnsOf content) := by
  have capitals : Text.upper (word ++ content) = "TABLE" ++ Text.upper content := by
    rw [Text.upper_append, Spelled.upper_eq (by decide) spelled]
  have longer : hasKeyword ("TABLE" ++ Text.upper content) "TABLE WITHOUT ID" = false := by
    rw [hasKeyword_eq_false]
    rintro ⟨rest, same, blank⟩
    have split : "TABLE".toList ++ Text.upper content =
      "TABLE".toList ++ (" WITHOUT ID".toList ++ rest) := same
    exact shorter ⟨rest, List.append_cancel_left split, blank⟩
  simp only [Clause.ofLine, capitals, longer, hasKeyword_append follows, if_true,
    Bool.false_eq_true, if_false, ← spelled.length_eq, List.drop_left]

theorem ofLine_list (spelled : Spelled "LIST" word) :
    Clause.ofLine (word ++ content) = .form .list false (columnsOf content) := by
  have capitals : Text.upper (word ++ content) = "LIST" ++ Text.upper content := by
    rw [Text.upper_append, Spelled.upper_eq (by decide) spelled]
  have longer : hasKeyword ("LIST" ++ Text.upper content) "TABLE WITHOUT ID" = false := rfl
  have table : hasKeyword ("LIST" ++ Text.upper content) "TABLE" = false := rfl
  simp only [Clause.ofLine, capitals, longer, table, hasKeyword_append follows, if_true,
    Bool.false_eq_true, if_false, ← spelled.length_eq, List.drop_left]

theorem ofLine_from (spelled : Spelled "FROM" word) (nonempty : Text.trim content ≠ []) :
    Clause.ofLine (word ++ content) = .scope ⟨Text.trim content⟩ := by
  have capitals : Text.upper (word ++ content) = "FROM" ++ Text.upper content := by
    rw [Text.upper_append, Spelled.upper_eq (by decide) spelled]
  have longer : hasKeyword ("FROM" ++ Text.upper content) "TABLE WITHOUT ID" = false := rfl
  have table : hasKeyword ("FROM" ++ Text.upper content) "TABLE" = false := rfl
  have list : hasKeyword ("FROM" ++ Text.upper content) "LIST" = false := rfl
  simp only [Clause.ofLine, capitals, longer, table, list, hasKeyword_append follows, if_true,
    Bool.false_eq_true, if_false, ← spelled.length_eq, List.drop_left, List.isEmpty_iff, nonempty]

theorem ofLine_where (spelled : Spelled "WHERE" word) {condition : Condition}
    (found : condition? (Text.trim content) = some condition) :
    Clause.ofLine (word ++ content) = .condition condition := by
  have capitals : Text.upper (word ++ content) = "WHERE" ++ Text.upper content := by
    rw [Text.upper_append, Spelled.upper_eq (by decide) spelled]
  have longer : hasKeyword ("WHERE" ++ Text.upper content) "TABLE WITHOUT ID" = false := rfl
  have table : hasKeyword ("WHERE" ++ Text.upper content) "TABLE" = false := rfl
  have list : hasKeyword ("WHERE" ++ Text.upper content) "LIST" = false := rfl
  have scope : hasKeyword ("WHERE" ++ Text.upper content) "FROM" = false := rfl
  simp only [Clause.ofLine, capitals, longer, table, list, scope, hasKeyword_append follows,
    if_true, Bool.false_eq_true, if_false, ← spelled.length_eq, List.drop_left, found]

theorem ofLine_sort (spelled : Spelled "SORT" word) :
    Clause.ofLine (word ++ content) = .order (order? (Text.trim content)) := by
  have capitals : Text.upper (word ++ content) = "SORT" ++ Text.upper content := by
    rw [Text.upper_append, Spelled.upper_eq (by decide) spelled]
  have longer : hasKeyword ("SORT" ++ Text.upper content) "TABLE WITHOUT ID" = false := rfl
  have table : hasKeyword ("SORT" ++ Text.upper content) "TABLE" = false := rfl
  have list : hasKeyword ("SORT" ++ Text.upper content) "LIST" = false := rfl
  have scope : hasKeyword ("SORT" ++ Text.upper content) "FROM" = false := rfl
  have condition : hasKeyword ("SORT" ++ Text.upper content) "WHERE" = false := rfl
  simp only [Clause.ofLine, capitals, longer, table, list, scope, condition,
    hasKeyword_append follows, if_true, Bool.false_eq_true, if_false, ← spelled.length_eq,
    List.drop_left]

end Lines

/-- The words that the lines of a query begin with. -/
def keywords : List Text := ["TABLE", "LIST", "FROM", "WHERE", "SORT"]

/-- A line that begins with no keyword. -/
def Idle (line : Text) : Prop :=
  ∀ keyword ∈ keywords, ¬ Text.BeginsWithWord keyword (Text.upper line)

theorem ofLine_of_idle {line : Text} (idle : Idle line) : Clause.ofLine line = .nothing := by
  have missing : ∀ keyword ∈ keywords, hasKeyword (Text.upper line) keyword = false :=
    fun keyword member => hasKeyword_eq_false.2 (idle keyword member)
  have longer : hasKeyword (Text.upper line) "TABLE WITHOUT ID" = false := by
    rw [hasKeyword_eq_false]
    rintro ⟨rest, same, -⟩
    refine idle "TABLE" (by decide) ⟨" WITHOUT ID" ++ rest, same, ?_⟩
    intro c found
    obtain rfl := Option.some.inj found
    decide
  have table := missing "TABLE" (by decide)
  have list := missing "LIST" (by decide)
  have scope := missing "FROM" (by decide)
  have condition := missing "WHERE" (by decide)
  have order := missing "SORT" (by decide)
  simp only [Clause.ofLine, longer, table, list, scope, condition, order, Bool.false_eq_true,
    if_false]

theorem idle_nil : Idle [] := by
  intro keyword member
  rintro ⟨rest, same, -⟩
  obtain ⟨rfl, -⟩ := List.append_eq_nil_iff.1 same.symm
  exact absurd member (by decide)

/-! ### The parts of clauses -/

namespace Clause

def form? : Clause → Option (Form × Bool × List Column)
  | .form kind withoutId columns => some (kind, withoutId, columns)
  | _ => none

def scope? : Clause → Option Scope
  | .scope place => some place
  | _ => none

def condition? : Clause → Option Condition
  | .condition test => some test
  | _ => none

def order? : Clause → Option (Option Order)
  | .order direction => some direction
  | _ => none

end Clause

theorem formOf_eq (clauses : List Clause) :
    formOf clauses = (clauses.filterMap Clause.form?).getLast? := rfl

theorem scopesOf_eq (clauses : List Clause) :
    scopesOf clauses = clauses.filterMap Clause.scope? := rfl

theorem conditionsOf_eq (clauses : List Clause) :
    conditionsOf clauses = clauses.filterMap Clause.condition? := rfl

theorem orderOf_eq (clauses : List Clause) :
    orderOf clauses = ((clauses.filterMap Clause.order?).getLast?).join := rfl

/-! ### The query of trimmed lines -/

/-- The clauses of the trimmed lines of a text. -/
def lineClauses (text : Text) : List Clause := (Text.trimmedLines text).map Clause.ofLine

theorem filterMap_clausesOf {Meaning : Type} (read : Clause → Option Meaning)
    (silent : read .nothing = none) (text : Text) :
    (clausesOf text).filterMap read = (lineClauses text).filterMap read := by
  have lines : clausesOf text = (Text.trimmedLines (Text.trim text)).map Clause.ofLine := by
    rw [Text.trimmedLines, List.map_map]
    rfl
  rw [lines, lineClauses, List.filterMap_map, List.filterMap_map]
  refine Text.filterMap_trimmedLines_trim _ ?_ text
  rw [Function.comp_apply, ofLine_of_idle idle_nil, silent]

/-- A query is what its lines say; the blanks around them do not matter. -/
theorem parse?_eq (text : Text) :
    parse? text =
      (((lineClauses text).filterMap Clause.form?).getLast?).map fun (form, withoutId, columns) =>
        { form, withoutId, columns
          scopes := (lineClauses text).filterMap Clause.scope?
          conditions := (lineClauses text).filterMap Clause.condition?
          order := (((lineClauses text).filterMap Clause.order?).getLast?).join } := by
  rw [parse?, formOf_eq, scopesOf_eq, conditionsOf_eq, orderOf_eq, filterMap_clausesOf _ rfl,
    filterMap_clausesOf _ rfl, filterMap_clausesOf _ rfl, filterMap_clausesOf _ rfl]

end Query

end CampaignPress
