/-
This file prints the columns of a query and reads them back. Columns are
divided by commas outside of quotes, so a label may hold commas. A label
follows the word before it only where a quote opens, and the field holds no
quote; with a blank on either side of that word, counting the characters that
are not blank before the quote leaves one place for the field to end.
-/
import CampaignPress.Proofs.Query.Keyword

namespace CampaignPress

namespace Query

/-! ### Commas -/

/-- A text that holds no comma outside of quotes, and ends outside of quotes as it begins. -/
def Uncut (text : Text) : Prop :=
  ∀ rest, commaPieces false (text ++ rest) =
    (text ++ (commaPieces false rest).1, (commaPieces false rest).2)

theorem Uncut.append {left right : Text} (first : Uncut left) (second : Uncut right) :
    Uncut (left ++ right) := by
  intro rest
  rw [List.append_assoc, first, second, List.append_assoc]

theorem commaPieces_cons (quoted : Bool) (c : Char) (rest : Text) :
    commaPieces quoted (c :: rest) =
      if c = ',' && !(if c = '"' then !quoted else quoted) then
        ([], (commaPieces (if c = '"' then !quoted else quoted) rest).1 ::
          (commaPieces (if c = '"' then !quoted else quoted) rest).2)
      else
        (c :: (commaPieces (if c = '"' then !quoted else quoted) rest).1,
          (commaPieces (if c = '"' then !quoted else quoted) rest).2) := rfl

theorem commaPieces_comma (rest : Text) :
    commaPieces false (',' :: rest) =
      ([], (commaPieces false rest).1 :: (commaPieces false rest).2) := rfl

/-- Characters other than commas and quotes stay where they are. -/
theorem commaPieces_plain {quoted : Bool} {text : Text} (noQuote : '"' ∉ text)
    (noComma : quoted = false → ',' ∉ text) (rest : Text) :
    commaPieces quoted (text ++ rest) =
      (text ++ (commaPieces quoted rest).1, (commaPieces quoted rest).2) := by
  induction text with
  | nil => rfl
  | cons c text inductionHypothesis =>
    rw [List.mem_cons, not_or] at noQuote
    have kept : (c = ',' && !quoted) = false := by
      cases quoted with
      | true => simp
      | false =>
        have := noComma rfl
        rw [List.mem_cons, not_or] at this
        simp [Ne.symm this.1]
    have later := inductionHypothesis noQuote.2 fun open' member =>
      noComma open' (List.mem_cons_of_mem _ member)
    rw [List.cons_append, commaPieces_cons, if_neg (Ne.symm noQuote.1), kept, later]
    rfl

theorem Uncut.of_not_mem {text : Text} (noQuote : '"' ∉ text) (noComma : ',' ∉ text) :
    Uncut text :=
  commaPieces_plain noQuote fun _ => noComma

/-- A quoted text is not cut, whatever commas it holds. -/
theorem Uncut.quoted {label : Text} (noQuote : '"' ∉ label) : Uncut ('"' :: label ++ ['"']) := by
  intro rest
  rw [List.append_assoc, List.cons_append, commaPieces_cons]
  show ('"' :: (commaPieces true (label ++ ('"' :: rest))).1,
    (commaPieces true (label ++ ('"' :: rest))).2) = _
  rw [commaPieces_plain noQuote (by simp)]
  show ('"' :: (label ++ '"' :: (commaPieces false rest).1), (commaPieces false rest).2) = _
  simp

/-- Columns after a blank and a comma each are the pieces between the commas. -/
theorem commaPieces_join {texts : List Text} (uncut : ∀ text ∈ texts, Uncut text)
    (nonempty : texts ≠ []) :
    (commaPieces false (' ' :: Text.join ", " texts)).1 ::
        (commaPieces false (' ' :: Text.join ", " texts)).2 = texts.map (' ' :: ·) := by
  induction texts with
  | nil => exact absurd rfl nonempty
  | cons text texts inductionHypothesis =>
    rw [List.forall_mem_cons] at uncut
    have blank : Uncut [' '] := .of_not_mem (by decide) (by decide)
    have whole : Uncut (' ' :: text) := blank.append uncut.1
    cases texts with
    | nil =>
      have cut := whole []
      rw [List.append_nil] at cut
      have single : Text.join ", " [text] = text := List.intercalate_singleton
      rw [single, cut]
      simp [commaPieces]
    | cons next texts =>
      have joined : ' ' :: Text.join ", " (text :: next :: texts) =
          (' ' :: text) ++ ',' :: (' ' :: Text.join ", " (next :: texts)) := by
        rw [Text.join, List.intercalate_cons_cons]
        simp [Text.join]
      have later := inductionHypothesis uncut.2 (by simp)
      rw [joined, whole, commaPieces_comma, later, List.append_nil, List.map_cons]
      rfl

/-- The content of a line that lists columns. -/
def listed : List Text → Text
  | [] => []
  | text :: texts => ' ' :: Text.join ", " (text :: texts)

theorem splitColumns_listed {texts : List Text} (uncut : ∀ text ∈ texts, Uncut text)
    (trimmed : ∀ text ∈ texts, Text.trim text = text ∧ text ≠ []) :
    splitColumns (listed texts) = texts := by
  cases texts with
  | nil => rfl
  | cons text texts =>
    have pieces := commaPieces_join uncut (by simp)
    have each : ∀ piece ∈ text :: texts, (Text.trim ∘ (' ' :: ·)) piece = piece :=
      fun piece member => (Text.trim_blank_cons piece).trans (trimmed piece member).1
    rw [listed, splitColumns]
    simp only
    rw [pieces, List.map_map, List.map_congr_left each, List.map_id', List.filter_eq_self]
    intro piece member
    simp [(trimmed piece member).2]

/-! ### Labels -/

/-- The number of characters that are not blank before the first quote. -/
def visible (text : Text) : Nat := (text.takeWhile (· ≠ '"')).countP fun c => !Text.isBlank c

theorem visible_append_quote {before : Text} (noQuote : '"' ∉ before) (rest : Text) :
    visible (before ++ '"' :: rest) = before.countP fun c => !Text.isBlank c := by
  have all : ∀ c ∈ before, (decide (c ≠ '"')) = true := by
    intro c member
    rw [decide_eq_true_eq]
    rintro rfl
    exact noQuote member
  rw [visible, List.takeWhile_append_of_pos all, List.takeWhile_cons_of_neg (by simp),
    List.append_nil]

theorem takeWhile_within (before rest : Text) :
    (before ++ '"' :: rest).takeWhile (· ≠ '"') <+: before := by
  induction before with
  | nil => exact List.nil_prefix
  | cons c before inductionHypothesis =>
    rw [List.cons_append, List.takeWhile_cons]
    split
    · exact (List.prefix_cons_inj c).2 inductionHypothesis
    · exact List.nil_prefix

theorem exists_of_afterAnyCase? {text rest : Text}
    (found : Text.afterAnyCase? "as" text = some rest) : ∃ a s, text = a :: s :: rest := by
  change Text.afterAnyCase? ['a', 's'] text = some rest at found
  match text with
  | [] => simp [Text.afterAnyCase?] at found
  | [a] => simp [Text.afterAnyCase?] at found
  | a :: s :: later =>
    simp only [Text.afterAnyCase?] at found
    split at found
    · split at found
      · exact ⟨a, s, by rw [Option.some.inj found]⟩
      · simp at found
    · simp at found

theorem exists_trimStart (text : Text) :
    ∃ blanks, text = blanks ++ Text.trimStart text ∧ ∀ c ∈ blanks, Text.isBlank c :=
  ⟨text.takeWhile Text.isBlank, (List.takeWhile_append_dropWhile).symm,
    fun _ member => List.mem_takeWhile_imp member⟩

/-- Before the quote of a label stand only blanks and the two letters of a word. -/
theorem visible_le_of_label? {text label : Text} (found : label? text = some label) :
    visible text ≤ 2 ∧ '"' ∈ text := by
  rw [label?] at found
  simp only [bind, Option.bind_eq_some_iff] at found
  obtain ⟨-, -, rest, word, -, -, inner, quote, -⟩ := found
  obtain ⟨a, s, letters⟩ := exists_of_afterAnyCase? word
  obtain ⟨before, start, blankBefore⟩ := exists_trimStart text
  obtain ⟨between, gap, blankBetween⟩ := exists_trimStart rest
  rw [Text.after?_eq_some_iff] at quote
  have whole : text = (before ++ [a, s] ++ between) ++ '"' :: inner := by
    rw [start, letters, gap, quote]
    simp
  have few : (before ++ [a, s] ++ between).countP (fun c => !Text.isBlank c) ≤ 2 := by
    have noneBefore : before.countP (fun c => !Text.isBlank c) = 0 := by
      rw [List.countP_eq_zero]
      intro c member
      simp [blankBefore c member]
    have noneBetween : between.countP (fun c => !Text.isBlank c) = 0 := by
      rw [List.countP_eq_zero]
      intro c member
      simp [blankBetween c member]
    have both : [a, s].countP (fun c => !Text.isBlank c) ≤ 2 := List.countP_le_length
    rw [List.countP_append, List.countP_append]
    omega
  constructor
  · refine le_trans ?_ few
    rw [visible, whole]
    exact (takeWhile_within _ inner).sublist.countP_le
  · rw [whole]
    simp

/-- The end of a column that bears a label. -/
def labelled (word label : Text) : Text := ' ' :: word ++ ' ' :: '"' :: label ++ ['"']

theorem mem_of_spelled_as {word : Text} (spelled : Spelled "AS" word) :
    word ∈ [['a', 's'], ['a', 'S'], ['A', 's'], ['A', 'S']] := by
  have every : ∀ code < 128,
      ((Char.ofNat code).toUpper = 'A' → Char.ofNat code = 'a' ∨ Char.ofNat code = 'A') ∧
        ((Char.ofNat code).toUpper = 'S' → Char.ofNat code = 's' ∨ Char.ofNat code = 'S') := by
    decide
  have each : ∀ c ∈ word,
      (c.toUpper = 'A' → c = 'a' ∨ c = 'A') ∧ (c.toUpper = 'S' → c = 's' ∨ c = 'S') := by
    intro c member
    have found := every c.toNat (Spelled.toNat_lt (by decide) spelled member)
    rwa [Char.ofNat_toNat] at found
  obtain ⟨a, s, rfl⟩ := List.length_eq_two.1 spelled.length_eq
  change [a.toUpper, s.toUpper] = ['A', 'S'] at spelled
  injection spelled with first second
  injection second with second
  rcases (each a (by simp)).1 first with rfl | rfl <;>
    rcases (each s (by simp)).2 second with rfl | rfl <;> decide

theorem takeWhile_append_quote {label : Text} (noQuote : '"' ∉ label) :
    (label ++ ['"']).takeWhile (· ≠ '"') = label ∧
      (label ++ ['"']).dropWhile (· ≠ '"') = ['"'] := by
  have all : ∀ c ∈ label, (decide (c ≠ '"')) = true := by
    intro c member
    rw [decide_eq_true_eq]
    rintro rfl
    exact noQuote member
  rw [List.takeWhile_append_of_pos all, List.dropWhile_append_of_pos all]
  exact ⟨List.append_nil label, rfl⟩

theorem label?_of_parts {text rest inner label : Text} (before : text.takeWhile Text.isBlank ≠ [])
    (word : Text.afterAnyCase? "as" (Text.trimStart text) = some rest)
    (between : rest.takeWhile Text.isBlank ≠ [])
    (quote : Text.after? "\"" (Text.trimStart rest) = some inner)
    (content : inner.takeWhile (· ≠ '"') = label) (nonempty : label ≠ [])
    (last : inner.dropWhile (· ≠ '"') = ['"']) : label? text = some label := by
  have first : (guard (text.takeWhile Text.isBlank ≠ []) : Option Unit) = some () := if_pos before
  have second : (guard (rest.takeWhile Text.isBlank ≠ []) : Option Unit) = some () :=
    if_pos between
  have third : (guard (!label.isEmpty) : Option Unit) = some () := if_pos (by simpa using nonempty)
  simp only [label?, first, word, second, quote, content, third, last, Option.bind_eq_bind,
    Option.bind_some]
  rfl

section Label

variable {word label : Text} (spelled : Spelled "AS" word)
include spelled

theorem label?_labelled (noQuote : '"' ∉ label) (nonempty : label ≠ []) :
    label? (labelled word label) = some label := by
  obtain ⟨content, last⟩ := takeWhile_append_quote noQuote
  have member := mem_of_spelled_as spelled
  simp only [List.mem_cons, List.not_mem_nil, or_false] at member
  rcases member with rfl | rfl | rfl | rfl <;>
    exact label?_of_parts (List.cons_ne_nil _ _) rfl (List.cons_ne_nil _ _) rfl content nonempty
      last

/-- A label does not follow an earlier part of the field. -/
theorem label?_append_labelled {rest : Text} (inField : '"' ∉ rest)
    (last : ∃ c ∈ rest, Text.isBlank c = false) : label? (rest ++ labelled word label) = none := by
  cases found : label? (rest ++ labelled word label) with
  | none => rfl
  | some other =>
    have few := (visible_le_of_label? found).1
    obtain ⟨c, member, seen⟩ := last
    have one : 0 < rest.countP fun c => !Text.isBlank c :=
      List.countP_pos_iff.2 ⟨c, member, by simp [seen]⟩
    have two : (' ' :: word ++ [' ']).countP (fun c => !Text.isBlank c) = 2 ∧
        '"' ∉ ' ' :: word ++ [' '] := by
      have member := mem_of_spelled_as spelled
      simp only [List.mem_cons, List.not_mem_nil, or_false] at member
      rcases member with rfl | rfl | rfl | rfl <;> decide
    have whole : rest ++ labelled word label =
        (rest ++ (' ' :: word ++ [' '])) ++ '"' :: (label ++ ['"']) := by
      simp [labelled]
    rw [whole, visible_append_quote (by rw [List.mem_append, not_or]; exact ⟨inField, two.2⟩),
      List.countP_append, two.1] at few
    omega

end Label

/-! ### Columns -/

theorem label?_of_not_mem {text : Text} (noQuote : '"' ∉ text) : label? text = none := by
  cases found : label? text with
  | none => rfl
  | some label => exact absurd (visible_le_of_label? found).2 noQuote

theorem cutLabel?_of_not_mem {text : Text} (noQuote : '"' ∉ text) : cutLabel? text = none := by
  induction text with
  | nil => rfl
  | cons c text inductionHypothesis =>
    rw [List.mem_cons, not_or] at noQuote
    rw [cutLabel?, label?_of_not_mem noQuote.2, inductionHypothesis noQuote.2]
    split <;> rfl

/-- The first place where a label follows is the end of the field. -/
theorem cutLabel?_append {field tail label : Text} (nonempty : field ≠ []) (single : '\n' ∉ field)
    (found : label? tail = some label)
    (later : ∀ rest, rest ≠ [] → rest <:+ field → label? (rest ++ tail) = none) :
    cutLabel? (field ++ tail) = some (field, label) := by
  induction field with
  | nil => exact absurd rfl nonempty
  | cons c field inductionHypothesis =>
    rw [List.mem_cons, not_or] at single
    rw [List.cons_append, cutLabel?, if_neg (Ne.symm single.1)]
    by_cases ends : field = []
    · rw [ends, List.nil_append, found]
    · rw [later field ends (List.suffix_cons c field),
        inductionHypothesis ends single.2 fun rest nonempty' suffix' =>
          later rest nonempty' (suffix'.trans (List.suffix_cons c field))]
      rfl

namespace Column

/-- The columns that have a printed form: fields hold no comma and no quote, and a label other
than the field holds no quote. -/
structure Writable (column : Column) : Prop where
  nonempty : column.field ≠ []
  trimmed : Text.trim column.field = column.field
  single : '\n' ∉ column.field
  noComma : ',' ∉ column.field
  noQuote : '"' ∉ column.field
  label : column.label = column.field ∨
    column.label ≠ [] ∧ '"' ∉ column.label ∧ '\n' ∉ column.label

/-- How a column is written; a label that is the field may be left out. -/
inductive Written (column : Column) : Text → Prop
  | plain (same : column.label = column.field) : Written column column.field
  | named {word : Text} (spelled : Spelled "AS" word) :
      Written column (column.field ++ labelled word column.label)

variable {column : Column} {text : Text} (writable : column.Writable)
  (written : column.Written text)
include writable

theorem Writable.label_facts :
    column.label ≠ [] ∧ '"' ∉ column.label ∧ '\n' ∉ column.label := by
  rcases writable.label with same | facts
  · rw [same]
    exact ⟨writable.nonempty, writable.noQuote, writable.single⟩
  · exact facts

include written

theorem Written.uncut : Uncut text := by
  have field := Uncut.of_not_mem writable.noQuote writable.noComma
  cases written with
  | plain same => exact field
  | named spelled =>
    rename_i word
    have before : Uncut (' ' :: word ++ [' ']) := by
      have member := mem_of_spelled_as spelled
      simp only [List.mem_cons, List.not_mem_nil, or_false] at member
      rcases member with rfl | rfl | rfl | rfl <;>
        exact Uncut.of_not_mem (by decide) (by decide)
    have whole := field.append (before.append (Uncut.quoted writable.label_facts.2.1))
    simpa [labelled] using whole

theorem Written.trim_eq : Text.trim text = text := by
  cases written with
  | plain same => exact writable.trimmed
  | named spelled =>
    refine Text.trim_eq_self ?_ ?_
    · intro c found
      rw [List.head?_append_of_ne_nil _ writable.nonempty, ← writable.trimmed] at found
      exact Text.isBlank_head_trim c found
    · intro c found
      rw [labelled, ← List.append_assoc, List.getLast?_concat] at found
      obtain rfl := Option.some.inj found
      decide

theorem Written.ne_nil : text ≠ [] := by
  cases written with
  | plain same => exact writable.nonempty
  | named spelled => exact List.append_ne_nil_of_left_ne_nil writable.nonempty _

theorem Written.break_not_mem : '\n' ∉ text := by
  cases written with
  | plain same => exact writable.single
  | named spelled =>
    rename_i word
    have inWord : '\n' ∉ word :=
      Spelled.not_mem_of_isBlank (by decide) spelled (by decide) (by decide)
    have inLabel := writable.label_facts.2.2
    have inField := writable.single
    simp [labelled, inWord, inLabel, inField]

/-- A written column is read as itself. -/
theorem Written.columnOf_eq : columnOf text = column := by
  cases written with
  | plain same =>
    rw [columnOf, cutLabel?_of_not_mem writable.noQuote]
    obtain ⟨field, label⟩ := column
    obtain rfl : label = field := same
    rfl
  | named spelled =>
    have label := writable.label_facts
    have cut := cutLabel?_append writable.nonempty writable.single
      (label?_labelled spelled label.2.1 label.1) fun rest nonempty ending => by
        refine label?_append_labelled spelled
          (fun member => writable.noQuote (ending.subset member)) ?_
        have last : rest.getLast nonempty ∈ (Text.trim column.field).getLast? := by
          rw [writable.trimmed, ending.getLast nonempty]
          exact List.getLast?_eq_some_getLast _
        exact ⟨_, List.getLast_mem nonempty, Text.isBlank_getLast_trim _ last⟩
    rw [columnOf, cut]
    show (⟨Text.trim column.field, column.label⟩ : Column) = column
    rw [writable.trimmed]

end Column

section Columns

variable {columns : List Column} {texts : List Text}
  (writable : ∀ column ∈ columns, column.Writable)
  (written : List.Forall₂ Column.Written columns texts)
include writable written

theorem exists_written :
    ∀ text ∈ texts, ∃ column : Column, column.Writable ∧ column.Written text := by
  induction written with
  | nil => simp
  | cons first others inductionHypothesis =>
    rw [List.forall_mem_cons] at writable
    exact List.forall_mem_cons.2 ⟨⟨_, writable.1, first⟩, inductionHypothesis writable.2⟩

/-- Written columns in a list are read as the columns. -/
theorem columnsOf_listed : columnsOf (listed texts) = columns := by
  have each := exists_written writable written
  have uncut : ∀ text ∈ texts, Uncut text := by
    intro text member
    obtain ⟨column, fits, printed⟩ := each text member
    exact printed.uncut fits
  have trimmed : ∀ text ∈ texts, Text.trim text = text ∧ text ≠ [] := by
    intro text member
    obtain ⟨column, fits, printed⟩ := each text member
    exact ⟨printed.trim_eq fits, printed.ne_nil fits⟩
  rw [columnsOf, splitColumns_listed uncut trimmed]
  clear each uncut trimmed
  induction written with
  | nil => rfl
  | cons first others inductionHypothesis =>
    rw [List.forall_mem_cons] at writable
    rw [List.map_cons, first.columnOf_eq writable.1, inductionHypothesis writable.2]

end Columns

end Query

end CampaignPress
