/-
This file prints the header of a node and reads it back. A header is the
keyword and, in any order, the quoted arguments and the properties. Quoting
escapes quotes and backslashes, so whatever a text holds, its quoted form is
one token, and no brace in it counts.
-/
import CampaignPress.Proofs.Mechanics.Brace

namespace CampaignPress

namespace Mechanics

/-! ### Names -/

/-- The characters of keywords. -/
def isKeywordChar (c : Char) : Bool := Text.isAsciiAlphanumeric c || c = '_' || c = '-'

/-- The characters of the keys of properties. -/
def isPropertyChar (c : Char) : Bool := isKeywordChar c || c = '.'

theorem toNat_lt_of_isPropertyChar {c : Char} (allowed : isPropertyChar c) : c.toNat < 128 := by
  simp only [isPropertyChar, isKeywordChar, Text.isAsciiAlphanumeric, Text.isAsciiLetter,
    Text.isAsciiDigit, Bool.or_eq_true, Bool.and_eq_true, decide_eq_true_eq, Char.le_def,
    UInt32.le_iff_toNat_le] at allowed
  rcases allowed with ((((⟨-, upper⟩ | ⟨-, upper⟩) | ⟨-, upper⟩) | rfl) | rfl) | rfl
  · exact Nat.lt_of_le_of_lt upper (by decide)
  · exact Nat.lt_of_le_of_lt upper (by decide)
  · exact Nat.lt_of_le_of_lt upper (by decide)
  · decide
  · decide
  · decide

theorem isPropertyChar_of_isKeywordChar {c : Char} (allowed : isKeywordChar c) :
    isPropertyChar c := by
  rw [isPropertyChar, allowed]
  rfl

/-- Names hold no blank, quote, brace, backslash or equals sign. -/
theorem isPropertyChar_facts {c : Char} (allowed : isPropertyChar c) :
    isQuiet c ∧ isKeyChar c ∧ isPlain c ∧ isBare c ∧ Text.isBlank c = false := by
  have every : ∀ code < 128, isPropertyChar (Char.ofNat code) →
      isQuiet (Char.ofNat code) ∧ isKeyChar (Char.ofNat code) ∧ isPlain (Char.ofNat code) ∧
        isBare (Char.ofNat code) ∧ Text.isBlank (Char.ofNat code) = false := by
    decide
  have found := every c.toNat (toNat_lt_of_isPropertyChar allowed)
  rw [Char.ofNat_toNat] at found
  exact found allowed

/-! ### Quoted texts -/

/-- The form of a text between quotes. -/
def escape (text : Text) : Text :=
  text.flatMap fun c => if c = '"' || c = '\\' then ['\\', c] else [c]

def quote (text : Text) : Text := '"' :: escape text ++ ['"']

theorem escape_cons_of_special {c : Char} (special : c = '"' ∨ c = '\\') (text : Text) :
    escape (c :: text) = '\\' :: c :: escape text := by
  rw [escape, List.flatMap_cons, if_pos (by simpa using special)]
  rfl

theorem escape_cons_of_plain {c : Char} (notQuote : c ≠ '"') (notBackslash : c ≠ '\\')
    (text : Text) : escape (c :: text) = c :: escape text := by
  rw [escape, List.flatMap_cons, if_neg (by simp [notQuote, notBackslash])]
  rfl

theorem unescape_escape (text : Text) : unescape (escape text) = text := by
  induction text with
  | nil => rfl
  | cons c text inductionHypothesis =>
    by_cases special : c = '"' ∨ c = '\\'
    · rw [escape_cons_of_special special]
      rcases special with rfl | rfl
      · rw [unescape, inductionHypothesis]
      · rw [unescape, inductionHypothesis]
    · rw [not_or] at special
      rw [escape_cons_of_plain special.1 special.2, unescape, inductionHypothesis]
      all_goals
        intro rest same
        exact absurd same special.2

/-- A quoted text ends at its own closing quote. -/
theorem cutQuoted?_escape {text : Text} (single : '\n' ∉ text) (rest : Text) :
    cutQuoted? (escape text ++ '"' :: rest) = some (escape text, rest) := by
  induction text with
  | nil => rfl
  | cons c text inductionHypothesis =>
    rw [List.mem_cons, not_or] at single
    have later := inductionHypothesis single.2
    by_cases special : c = '"' ∨ c = '\\'
    · rw [escape_cons_of_special special, List.cons_append, List.cons_append, cutQuoted?,
        if_neg (Ne.symm single.1), later]
      rfl
    · rw [not_or] at special
      rw [escape_cons_of_plain special.1 special.2, List.cons_append, cutQuoted?,
        if_neg special.2, later]
      · rfl
      · intro same
        exact absurd same special.1
      · intro d rest' same
        exact absurd same special.2

theorem break_not_mem_quote {text : Text} (single : '\n' ∉ text) : '\n' ∉ quote text := by
  have inside : '\n' ∉ escape text := by
    rw [escape, List.mem_flatMap]
    rintro ⟨c, member, found⟩
    split at found
    · rename_i special
      simp only [List.mem_cons, List.not_mem_nil, or_false] at found
      rcases found with found | rfl
      · exact absurd found (by decide)
      · exact single member
    · obtain rfl := List.mem_singleton.1 found
      exact single member
  simp only [quote, List.cons_append, List.mem_cons, List.mem_append, List.not_mem_nil, or_false,
    not_or]
  exact ⟨by decide, inside, by decide⟩

/-- Inside quotes no brace counts, and an escaped text keeps the reader there. -/
theorem run_escape (text : Text) :
    Reader.run ⟨true, false⟩ (escape text) = ⟨true, false⟩ ∧
      Reader.braces ⟨true, false⟩ (escape text) = [] := by
  induction text with
  | nil => exact ⟨rfl, rfl⟩
  | cons c text inductionHypothesis =>
    by_cases special : c = '"' ∨ c = '\\'
    · rw [escape_cons_of_special special]
      exact inductionHypothesis
    · rw [not_or] at special
      have step : Reader.step ⟨true, false⟩ c = (⟨true, false⟩, none) := by
        simp [Reader.step, special.1, special.2]
      rw [escape_cons_of_plain special.1 special.2, Reader.run_cons, Reader.braces_cons, step]
      exact inductionHypothesis

theorem quiet_quote (text : Text) : Quiet (quote text) := by
  have inside := run_escape text
  constructor
  · rw [quote, List.cons_append, Reader.braces_cons]
    show Reader.braces ⟨true, false⟩ (escape text ++ ['"']) = []
    rw [Reader.braces_append, inside.1, inside.2]
    rfl
  · rw [quote, List.cons_append, Reader.run_cons]
    show Reader.run ⟨true, false⟩ (escape text ++ ['"']) = {}
    rw [Reader.run_append, inside.1]
    rfl

/-! ### Items -/

/-- An argument or a property, as it stands in a header. -/
inductive Item where
  | arg (content : Text)
  | property (key value : Text)

namespace Item

def write : Item → Text
  | .arg content => quote content
  | .property key value => key ++ '=' :: quote value

def token : Item → Token
  | .arg content => .quoted content
  | .property key value => .property key value

def arg? : Item → Option Text
  | .arg content => some content
  | .property _ _ => none

def property? : Item → Option (Text × Text)
  | .arg _ => none
  | .property key value => some (key, value)

/-- Keys are words, and texts stand on one line. -/
def Writable : Item → Prop
  | .arg content => '\n' ∉ content
  | .property key value => key ≠ [] ∧ (∀ c ∈ key, isPropertyChar c) ∧ '\n' ∉ value

end Item

/-- A blank and an item, for each item. -/
def writeItems (items : List Item) : Text := items.flatMap fun item => ' ' :: item.write

/-- The header of a node without the brace that may follow. -/
def writeHeader (keyword : Text) (items : List Item) : Text := keyword ++ writeItems items

theorem writeItems_cons (item : Item) (items : List Item) :
    writeItems (item :: items) = ' ' :: (item.write ++ writeItems items) := rfl

theorem quiet_blank : Quiet [' '] := ⟨rfl, rfl⟩

theorem Item.Writable.quiet {item : Item} (writable : item.Writable) : Quiet item.write := by
  cases item with
  | arg content => exact quiet_quote content
  | property key value =>
    have named : Quiet (key ++ ['=']) :=
      (Quiet.of_isQuiet fun c member => (isPropertyChar_facts (writable.2.1 c member)).1).append
        ⟨rfl, rfl⟩
    have whole := named.append (quiet_quote value)
    rwa [List.append_assoc] at whole

theorem quiet_writeItems {items : List Item} (writable : ∀ item ∈ items, item.Writable) :
    Quiet (writeItems items) := by
  induction items with
  | nil => exact Quiet.nil
  | cons item items inductionHypothesis =>
    rw [List.forall_mem_cons] at writable
    exact quiet_blank.append (writable.1.quiet.append (inductionHypothesis writable.2))

theorem quiet_writeHeader {keyword : Text} {items : List Item}
    (word : ∀ c ∈ keyword, isKeywordChar c) (writable : ∀ item ∈ items, item.Writable) :
    Quiet (writeHeader keyword items) :=
  (Quiet.of_isQuiet fun c member =>
    (isPropertyChar_facts (isPropertyChar_of_isKeywordChar (word c member))).1).append
    (quiet_writeItems writable)

theorem break_not_mem_of_isPropertyChar {name : Text} (word : ∀ c ∈ name, isPropertyChar c) :
    '\n' ∉ name :=
  fun member => absurd (word _ member) (by decide)

theorem Item.Writable.break_not_mem {item : Item} (writable : item.Writable) :
    '\n' ∉ item.write := by
  cases item with
  | arg content => exact break_not_mem_quote writable
  | property key value =>
    have inName := break_not_mem_of_isPropertyChar writable.2.1
    have inValue := break_not_mem_quote writable.2.2
    simp only [Item.write, List.mem_append, List.mem_cons, not_or]
    exact ⟨inName, by decide, inValue⟩

theorem break_not_mem_writeHeader {keyword : Text} {items : List Item}
    (word : ∀ c ∈ keyword, isKeywordChar c) (writable : ∀ item ∈ items, item.Writable) :
    '\n' ∉ writeHeader keyword items := by
  have inKeyword := break_not_mem_of_isPropertyChar fun c member =>
    isPropertyChar_of_isKeywordChar (word c member)
  rw [writeHeader, List.mem_append, not_or]
  refine ⟨inKeyword, ?_⟩
  rw [writeItems, List.mem_flatMap]
  rintro ⟨item, member, found⟩
  rcases List.mem_cons.1 found with found | found
  · exact absurd found (by decide)
  · exact (writable item member).break_not_mem found

/-! ### Ends of a header -/

theorem Item.getLast?_write (item : Item) : item.write.getLast? = some '"' := by
  cases item with
  | arg content => exact List.getLast?_concat
  | property key value =>
    show (key ++ ('=' :: '"' :: escape value ++ ['"'])).getLast? = _
    rw [← List.append_assoc]
    exact List.getLast?_concat

/-- A text that does not end in a blank still does not after some items. -/
theorem getLast?_append_writeItems {text : Text} (items : List Item)
    (last : ∀ c ∈ text.getLast?, Text.isBlank c = false) :
    ∀ c ∈ (text ++ writeItems items).getLast?, Text.isBlank c = false := by
  induction items generalizing text with
  | nil => rwa [writeItems, List.flatMap_nil, List.append_nil]
  | cons item items inductionHypothesis =>
    rw [writeItems_cons, ← List.singleton_append, ← List.append_assoc, ← List.append_assoc]
    refine inductionHypothesis ?_
    intro c found
    rw [List.getLast?_append, Item.getLast?_write, Option.some_or, Option.mem_some] at found
    subst found
    decide

theorem trim_writeHeader {keyword : Text} (items : List Item) (nonempty : keyword ≠ [])
    (word : ∀ c ∈ keyword, isKeywordChar c) :
    Text.trim (writeHeader keyword items) = writeHeader keyword items := by
  have visible : ∀ c ∈ keyword, Text.isBlank c = false := fun c member =>
    (isPropertyChar_facts (isPropertyChar_of_isKeywordChar (word c member))).2.2.2.2
  refine Text.trim_eq_self ?_ (getLast?_append_writeItems items ?_)
  · intro c found
    rw [writeHeader, List.head?_append_of_ne_nil _ nonempty] at found
    exact visible c (List.mem_of_mem_head? found)
  · intro c found
    exact visible c (List.mem_of_mem_getLast? found)

/-! ### Tokens -/

theorem tokens_nil : tokens [] = [] := by
  unfold tokens
  rfl

theorem tokens_cons (c : Char) (rest : Text) :
    tokens (c :: rest) =
      if !isPlain c then tokens rest
      else if c = '"' then
        match cutQuoted? rest with
        | some (body, after) => .quoted (unescape body) :: tokens after
        | none => tokens rest
      else
        match cutProperty? (c :: rest) with
        | some (key, value, after) => .property key (unescape value) :: tokens after
        | none => .bare (c :: rest.takeWhile isBare) :: tokens (rest.dropWhile isBare) := by
  conv => lhs; unfold tokens
  split
  · rfl
  split
  · split <;> rename_i found <;> simp only [found]
  · split <;> rename_i found <;> simp only [found]

theorem tokens_blank {c : Char} (blank : Text.isBlank c) (rest : Text) :
    tokens (c :: rest) = tokens rest := by
  rw [tokens_cons, if_pos (by simp [isPlain, blank])]

theorem tokens_quote {content : Text} (single : '\n' ∉ content) (rest : Text) :
    tokens (quote content ++ rest) = .quoted content :: tokens rest := by
  have cut := cutQuoted?_escape single rest
  rw [quote, List.cons_append, List.cons_append, List.append_assoc, List.singleton_append,
    tokens_cons, if_neg (by decide), if_pos rfl, cut]
  show Token.quoted (unescape (escape content)) :: tokens rest = _
  rw [unescape_escape]

theorem cutProperty?_write {key value : Text} (nonempty : key ≠ [])
    (word : ∀ c ∈ key, isPropertyChar c) (single : '\n' ∉ value) (rest : Text) :
    cutProperty? (key ++ '=' :: quote value ++ rest) = some (key, escape value, rest) := by
  have inside : ∀ c ∈ key, isKeyChar c := fun c member =>
    (isPropertyChar_facts (word c member)).2.1
  have ending : isKeyChar '=' = false := by decide
  have cut := cutQuoted?_escape single rest
  have taken : (key ++ '=' :: quote value ++ rest).takeWhile isKeyChar = key := by
    rw [List.append_assoc, List.takeWhile_append_of_pos inside, List.cons_append,
      List.takeWhile_cons_of_neg (by simp [ending]), List.append_nil]
  have dropped : (key ++ '=' :: quote value ++ rest).dropWhile isKeyChar =
      '=' :: '"' :: (escape value ++ '"' :: rest) := by
    rw [List.append_assoc, List.dropWhile_append_of_pos inside, List.cons_append,
      List.dropWhile_cons_of_neg (by simp [ending]), quote]
    simp
  rw [cutProperty?, taken, dropped]
  simp [nonempty, cutValue?, cut]

/-- A property is read where a word is that one can be cut from. -/
theorem tokens_of_cutProperty? {name rest : Text} (nonempty : name ≠ [])
    (word : ∀ c ∈ name, isPropertyChar c) {key value later : Text}
    (cut : cutProperty? (name ++ rest) = some (key, value, later)) :
    tokens (name ++ rest) = .property key (unescape value) :: tokens later := by
  obtain ⟨c, name, rfl⟩ := List.exists_cons_of_ne_nil nonempty
  have facts := isPropertyChar_facts (word c List.mem_cons_self)
  have notQuote : c ≠ '"' := by
    rintro rfl
    exact absurd (word _ List.mem_cons_self) (by decide)
  rw [List.cons_append] at cut ⊢
  rw [tokens_cons, if_neg (by simp [facts.2.2.1]), if_neg notQuote, cut]

theorem tokens_property {key value : Text} (nonempty : key ≠ [])
    (word : ∀ c ∈ key, isPropertyChar c) (single : '\n' ∉ value) (rest : Text) :
    tokens (key ++ '=' :: quote value ++ rest) = .property key value :: tokens rest := by
  have cut := cutProperty?_write nonempty word single rest
  rw [List.append_assoc] at cut ⊢
  rw [tokens_of_cutProperty? nonempty word cut, unescape_escape]

/-- A keyword ends at a blank. -/
theorem tokens_keyword {keyword rest : Text} (nonempty : keyword ≠ [])
    (word : ∀ c ∈ keyword, isKeywordChar c) (ends : ∀ c ∈ rest.head?, c = ' ') :
    tokens (keyword ++ rest) = .bare keyword :: tokens rest := by
  have facts : ∀ c ∈ keyword, _ := fun c member =>
    isPropertyChar_facts (isPropertyChar_of_isKeywordChar (word c member))
  have stops : rest = [] ∨ ∃ later, rest = ' ' :: later := by
    cases rest with
    | nil => exact Or.inl rfl
    | cons c later => exact Or.inr ⟨later, by rw [ends c rfl]⟩
  have taken : rest.takeWhile isBare = [] := by
    rcases stops with rfl | ⟨later, rfl⟩ <;> rfl
  have dropped : rest.dropWhile isBare = rest := by
    rcases stops with rfl | ⟨later, rfl⟩ <;> rfl
  cases keyword with
  | nil => exact absurd rfl nonempty
  | cons c keyword =>
    have notQuote : c ≠ '"' := by
      rintro rfl
      exact absurd (word _ List.mem_cons_self) (by decide)
    have bare : ∀ d ∈ keyword, isBare d := fun d member =>
      (facts d (List.mem_cons_of_mem _ member)).2.2.2.1
    have unnamed : cutProperty? (c :: (keyword ++ rest)) = none := by
      have key : ∀ d ∈ c :: keyword, isKeyChar d := fun d member => (facts d member).2.1
      rw [cutProperty?, ← List.cons_append, List.dropWhile_append_of_pos key]
      rcases stops with rfl | ⟨later, rfl⟩ <;> rfl
    rw [List.cons_append, tokens_cons, if_neg (by simp [(facts c List.mem_cons_self).2.2.1]),
      if_neg notQuote, unnamed]
    show Token.bare (c :: (keyword ++ rest).takeWhile isBare) ::
      tokens ((keyword ++ rest).dropWhile isBare) = _
    rw [List.takeWhile_append_of_pos bare, List.dropWhile_append_of_pos bare, taken, dropped,
      List.append_nil]

theorem tokens_of_blank {blanks : Text} (blank : ∀ c ∈ blanks, c = ' ') : tokens blanks = [] := by
  induction blanks with
  | nil => exact tokens_nil
  | cons c blanks inductionHypothesis =>
    obtain ⟨rfl, later⟩ := List.forall_mem_cons.1 blank
    exact (tokens_blank (by decide) _).trans (inductionHypothesis later)

theorem tokens_writeItems_append {items : List Item} (writable : ∀ item ∈ items, item.Writable)
    (rest : Text) : tokens (writeItems items ++ rest) = items.map Item.token ++ tokens rest := by
  induction items with
  | nil => rfl
  | cons item items inductionHypothesis =>
    rw [List.forall_mem_cons] at writable
    rw [writeItems_cons, List.cons_append, tokens_blank (by decide), List.append_assoc,
      List.map_cons, List.cons_append, ← inductionHypothesis writable.2]
    cases item with
    | arg content => exact tokens_quote writable.1 _
    | property key value => exact tokens_property writable.1.1 writable.1.2.1 writable.1.2.2 _

/-- The tokens of a header are its keyword and its items. -/
theorem tokens_writeHeader_append {keyword : Text} {items : List Item} (nonempty : keyword ≠ [])
    (word : ∀ c ∈ keyword, isKeywordChar c) (writable : ∀ item ∈ items, item.Writable)
    {rest : Text} (ends : ∀ c ∈ rest.head?, c = ' ') :
    tokens (writeHeader keyword items ++ rest) =
      .bare keyword :: (items.map Item.token ++ tokens rest) := by
  rw [writeHeader, List.append_assoc, tokens_keyword nonempty word,
    tokens_writeItems_append writable]
  intro c found
  cases items with
  | nil => exact ends c found
  | cons item items => exact (Option.some.inj found).symm

theorem tokens_writeHeader {keyword : Text} {items : List Item} (nonempty : keyword ≠ [])
    (word : ∀ c ∈ keyword, isKeywordChar c) (writable : ∀ item ∈ items, item.Writable)
    {blanks : Text} (blank : ∀ c ∈ blanks, c = ' ') :
    tokens (writeHeader keyword items ++ blanks) = .bare keyword :: items.map Item.token := by
  rw [tokens_writeHeader_append nonempty word writable fun c found =>
    blank c (List.mem_of_mem_head? found), tokens_of_blank blank, List.append_nil]

end Mechanics

/-! ### Nodes of headers -/

namespace Node

open Mechanics

theorem putProperty_of_not_mem {key : Text} (value : Text) {entries : List (Text × Text)}
    (fresh : key ∉ entries.map Prod.fst) :
    putProperty key value entries = entries ++ [(key, value)] := by
  induction entries with
  | nil => rfl
  | cons entry entries inductionHypothesis =>
    rw [List.map_cons, List.mem_cons, not_or] at fresh
    rw [putProperty, if_neg (Ne.symm fresh.1), inductionHypothesis fresh.2, List.cons_append]

/-- Items with distinct keys are added in order. -/
theorem foldl_addToken_items {keyword : Text} {args : List Text} {properties : List (Text × Text)}
    {source : Text} {children : List Node} {items : List Item}
    (distinct : ((properties ++ items.filterMap Item.property?).map Prod.fst).Nodup) :
    (items.map Item.token).foldl addToken ⟨keyword, args, properties, source, children⟩ =
      ⟨keyword, args ++ items.filterMap Item.arg?, properties ++ items.filterMap Item.property?,
        source, children⟩ := by
  induction items generalizing args properties with
  | nil =>
    rw [List.filterMap_nil, List.filterMap_nil, List.append_nil, List.append_nil]
    rfl
  | cons item items inductionHypothesis =>
    rw [List.map_cons, List.foldl_cons]
    cases item with
    | arg content =>
      have added : (items.map Item.token).foldl addToken
            ⟨keyword, args ++ [content], properties, source, children⟩ =
          ⟨keyword, args ++ [content] ++ items.filterMap Item.arg?,
            properties ++ items.filterMap Item.property?, source, children⟩ :=
        inductionHypothesis distinct
      rwa [← List.append_cons] at added
    | property key value =>
      have fresh : key ∉ properties.map Prod.fst := by
        rw [List.map_append] at distinct
        have disjoint := (List.nodup_append.1 distinct).2.2
        intro member
        exact disjoint key member key List.mem_cons_self rfl
      have added : (items.map Item.token).foldl addToken
            ⟨keyword, args, properties ++ [(key, value)], source, children⟩ =
          ⟨keyword, args ++ items.filterMap Item.arg?,
            properties ++ [(key, value)] ++ items.filterMap Item.property?, source, children⟩ :=
        inductionHypothesis (by rwa [← List.append_cons])
      rw [← List.append_cons, ← putProperty_of_not_mem value fresh] at added
      exact added

/-- A header is read as the node that it prints. -/
theorem ofHeader_writeHeader {keyword : Text} {items : List Item} (nonempty : keyword ≠ [])
    (word : ∀ c ∈ keyword, isKeywordChar c) (writable : ∀ item ∈ items, item.Writable)
    (distinct : ((items.filterMap Item.property?).map Prod.fst).Nodup)
    {blanks : Text} (blank : ∀ c ∈ blanks, c = ' ') :
    ofHeader (writeHeader keyword items ++ blanks) =
      ⟨keyword, items.filterMap Item.arg?, items.filterMap Item.property?,
        Text.trim (writeHeader keyword items ++ blanks), []⟩ := by
  rw [ofHeader, tokens_writeHeader nonempty word writable blank, List.foldl_cons,
    ← List.nil_append (items.filterMap Item.arg?),
    ← List.nil_append (items.filterMap Item.property?)]
  exact foldl_addToken_items distinct

end Node

end CampaignPress
