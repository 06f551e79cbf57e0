/-
This file reads nodes as players write them: a keyword, quoted arguments without
escapes, and numbers that stand unquoted after their keys. A number ends at a
blank, so such a line is read from its start whatever follows the blank. A node
with a single node inside may be written on one line or with each brace ending a
line, and both are the same unit.
-/
import CampaignPress.Proofs.Mechanics.RoundTrip
import CampaignPress.Proofs.Numeral

namespace CampaignPress

namespace Mechanics

/-! ### Plain texts -/

/-- A text that means nothing to fields and quotes. -/
structure IsTame (text : Text) : Prop where
  trimmed : Text.trim text = text
  bar : '|' ∉ text
  quote : '"' ∉ text
  backslash : '\\' ∉ text
  single : '\n' ∉ text

theorem escape_of_not_mem {text : Text} (quote : '"' ∉ text) (backslash : '\\' ∉ text) :
    escape text = text := by
  induction text with
  | nil => rfl
  | cons c text inductionHypothesis =>
    rw [List.mem_cons, not_or] at quote backslash
    rw [escape_cons_of_plain (Ne.symm quote.1) (Ne.symm backslash.1),
      inductionHypothesis quote.2 backslash.2]

theorem unescape_of_not_mem {text : Text} (backslash : '\\' ∉ text) : unescape text = text := by
  induction text with
  | nil => rfl
  | cons c text inductionHypothesis =>
    rw [List.mem_cons, not_or] at backslash
    rw [unescape, inductionHypothesis backslash.2]
    all_goals
      intro rest same
      exact absurd same (Ne.symm backslash.1)

/-- A line that is a unit of its own: trimmed, with something on it, and no brace that counts. -/
structure Tidy (line : Text) : Prop where
  nonempty : line ≠ []
  single : '\n' ∉ line
  quiet : Quiet line
  first : ∀ c ∈ line.head?, Text.isBlank c = false
  last : ∀ c ∈ line.getLast?, Text.isBlank c = false

section Tidy

variable {line : Text} (tidy : Tidy line)
include tidy

theorem Tidy.trim_eq : Text.trim line = line := Text.trim_eq_self tidy.first tidy.last

theorem Tidy.trim_append (rest : Text) {c : Char} (visible : Text.isBlank c = false) :
    Text.trim (line ++ rest ++ [c]) = line ++ rest ++ [c] := by
  refine Text.trim_eq_self (fun d found => ?_) fun d found => ?_
  · rw [List.append_assoc, List.head?_append_of_ne_nil _ tidy.nonempty] at found
    exact tidy.first d found
  · rw [List.getLast?_concat] at found
    obtain rfl := Option.some.inj found
    exact visible

end Tidy

/-! ### Numbers -/

/-- A blank, a key, an equals sign and a number, for each number. -/
def writeNumbers (numbers : List (Text × Int)) : Text :=
  numbers.flatMap fun entry => ' ' :: entry.1 ++ '=' :: Numeral.digits entry.2

/-- The properties that written numbers are read as. -/
def numberItems (numbers : List (Text × Int)) : List Item :=
  numbers.map fun entry => .property entry.1 (Numeral.digits entry.2)

/-- Keys are words. -/
def AreKeys (numbers : List (Text × Int)) : Prop :=
  ∀ entry ∈ numbers, entry.1 ≠ [] ∧ ∀ c ∈ entry.1, isPropertyChar c

theorem writeNumbers_cons (key : Text) (number : Int) (numbers : List (Text × Int)) :
    writeNumbers ((key, number) :: numbers) =
      ' ' :: (key ++ '=' :: Numeral.digits number ++ writeNumbers numbers) := rfl

theorem isPropertyChar_of_mem_digits {number : Int} {c : Char}
    (member : c ∈ Numeral.digits number) : isPropertyChar c := by
  rcases Numeral.isDigit_or_eq_of_mem_digits member with digit | rfl
  · have every : ∀ code < 128, (Char.ofNat code).isDigit → isPropertyChar (Char.ofNat code) := by
      decide
    have found := every c.toNat (Text.toNat_lt_of_isDigit digit)
    rw [Char.ofNat_toNat] at found
    exact found digit
  · decide

theorem digits_ne_nil (number : Int) : Numeral.digits number ≠ [] := by
  obtain ⟨-, sign, -, same, -, -⟩ := Numeral.digits_eq number
  rw [same]
  exact List.append_ne_nil_of_right_ne_nil sign Nat.toDigits_ne_nil

theorem cutProperty?_digits {key rest : Text} (nonempty : key ≠ [])
    (word : ∀ c ∈ key, isPropertyChar c) (number : Int) (ends : ∀ c ∈ rest.head?, c = ' ') :
    cutProperty? (key ++ '=' :: Numeral.digits number ++ rest) =
      some (key, Numeral.digits number, rest) := by
  have inside : ∀ c ∈ key, isKeyChar c := fun c member => (isPropertyChar_facts (word c member)).2.1
  have ending : ¬ isKeyChar '=' := by decide
  have plain : ∀ c ∈ Numeral.digits number, isPlain c := fun c member =>
    (isPropertyChar_facts (isPropertyChar_of_mem_digits member)).2.2.1
  have stops : rest.takeWhile isPlain = [] ∧ rest.dropWhile isPlain = rest := by
    cases rest with
    | nil => exact ⟨rfl, rfl⟩
    | cons c later =>
      obtain rfl := ends c rfl
      exact ⟨rfl, rfl⟩
  have taken : (Numeral.digits number ++ rest).takeWhile isPlain = Numeral.digits number := by
    rw [List.takeWhile_append_of_pos plain, stops.1, List.append_nil]
  have dropped : (Numeral.digits number ++ rest).dropWhile isPlain = rest := by
    rw [List.dropWhile_append_of_pos plain, stops.2]
  have value : cutValue? (Numeral.digits number ++ rest) = some (Numeral.digits number, rest) := by
    rw [cutValue?.eq_def]
    dsimp only
    rw [taken, dropped, if_neg (by simp [digits_ne_nil])]
    split
    · rename_i later same
      obtain ⟨c, digits, found⟩ := List.exists_cons_of_ne_nil (digits_ne_nil number)
      rw [found] at same
      obtain rfl := (List.cons.inj same).1
      exact absurd (isPropertyChar_of_mem_digits (found ▸ List.mem_cons_self)) (by decide)
    · rfl
  rw [cutProperty?, List.append_assoc, List.takeWhile_append_of_pos inside,
    List.dropWhile_append_of_pos inside, List.cons_append, List.takeWhile_cons_of_neg ending,
    List.dropWhile_cons_of_neg ending, List.append_nil]
  simp [nonempty, value]

theorem tokens_number {key rest : Text} (nonempty : key ≠ []) (word : ∀ c ∈ key, isPropertyChar c)
    (number : Int) (ends : ∀ c ∈ rest.head?, c = ' ') :
    tokens (key ++ '=' :: Numeral.digits number ++ rest) =
      .property key (Numeral.digits number) :: tokens rest := by
  have cut := cutProperty?_digits nonempty word number ends
  have backslash : '\\' ∉ Numeral.digits number := fun member =>
    absurd (isPropertyChar_of_mem_digits member) (by decide)
  rw [List.append_assoc] at cut ⊢
  rw [tokens_of_cutProperty? nonempty word cut, unescape_of_not_mem backslash]

theorem head?_writeNumbers_append (numbers : List (Text × Int)) {rest : Text}
    (ends : ∀ c ∈ rest.head?, c = ' ') : ∀ c ∈ (writeNumbers numbers ++ rest).head?, c = ' ' := by
  cases numbers with
  | nil => exact ends
  | cons entry numbers => exact fun c found => (Option.some.inj found).symm

theorem tokens_writeNumbers_append {numbers : List (Text × Int)} (keys : AreKeys numbers)
    {rest : Text} (ends : ∀ c ∈ rest.head?, c = ' ') :
    tokens (writeNumbers numbers ++ rest) =
      (numberItems numbers).map Item.token ++ tokens rest := by
  induction numbers with
  | nil => rfl
  | cons entry numbers inductionHypothesis =>
    obtain ⟨key, number⟩ := entry
    obtain ⟨⟨nonempty, word⟩, later⟩ := List.forall_mem_cons.1 keys
    rw [writeNumbers_cons, List.cons_append, tokens_blank (by decide), List.append_assoc,
      tokens_number nonempty word number (head?_writeNumbers_append numbers ends),
      inductionHypothesis later]
    rfl

theorem quiet_writeNumbers {numbers : List (Text × Int)} (keys : AreKeys numbers) :
    Quiet (writeNumbers numbers) := by
  refine Quiet.of_isQuiet fun c member => ?_
  obtain ⟨entry, inNumbers, found⟩ := List.mem_flatMap.1 member
  rcases List.mem_cons.1 found with rfl | found
  · decide
  rcases List.mem_append.1 found with inKey | found
  · exact (isPropertyChar_facts ((keys entry inNumbers).2 c inKey)).1
  rcases List.mem_cons.1 found with rfl | inDigits
  · decide
  · exact (isPropertyChar_facts (isPropertyChar_of_mem_digits inDigits)).1

theorem break_not_mem_writeNumbers {numbers : List (Text × Int)} (keys : AreKeys numbers) :
    '\n' ∉ writeNumbers numbers := by
  intro member
  obtain ⟨entry, inNumbers, found⟩ := List.mem_flatMap.1 member
  rcases List.mem_cons.1 found with same | found
  · exact absurd same (by decide)
  rcases List.mem_append.1 found with inKey | found
  · exact break_not_mem_of_isPropertyChar (keys entry inNumbers).2 inKey
  rcases List.mem_cons.1 found with same | inDigits
  · exact absurd same (by decide)
  · exact absurd (isPropertyChar_of_mem_digits inDigits) (by decide)

/-- A text that does not end in a blank still does not after some numbers. -/
theorem getLast?_append_writeNumbers {text : Text} (numbers : List (Text × Int))
    (last : ∀ c ∈ text.getLast?, Text.isBlank c = false) :
    ∀ c ∈ (text ++ writeNumbers numbers).getLast?, Text.isBlank c = false := by
  induction numbers generalizing text with
  | nil => rwa [writeNumbers, List.flatMap_nil, List.append_nil]
  | cons entry numbers inductionHypothesis =>
    obtain ⟨key, number⟩ := entry
    rw [writeNumbers_cons, ← List.singleton_append, ← List.append_assoc, ← List.append_assoc]
    refine inductionHypothesis ?_
    intro c found
    rw [← List.append_assoc, List.append_cons,
      List.getLast?_append_of_ne_nil _ (digits_ne_nil number)] at found
    exact (isPropertyChar_facts
      (isPropertyChar_of_mem_digits (List.mem_of_mem_getLast? found))).2.2.2.2

/-! ### Lines -/

/-- A line of a keyword, arguments between quotes, and numbers after their keys. -/
def writeLine (keyword : Text) (args : List Text) (numbers : List (Text × Int)) : Text :=
  keyword ++ args.flatMap (fun arg => ' ' :: '"' :: arg ++ ['"']) ++ writeNumbers numbers

/-- What such a line may be made of: words, and arguments that need no escapes. -/
structure IsLine (keyword : Text) (args : List Text) (numbers : List (Text × Int)) : Prop where
  named : keyword ≠ []
  word : ∀ c ∈ keyword, isKeywordChar c
  args : ∀ arg ∈ args, IsTame arg
  keys : AreKeys numbers
  distinct : (numbers.map Prod.fst).Nodup

namespace IsLine

variable {keyword : Text} {args : List Text} {numbers : List (Text × Int)}
  (line : IsLine keyword args numbers)
include line

theorem writable : ∀ item ∈ args.map Item.arg, item.Writable := by
  rw [List.forall_mem_map]
  exact fun arg member => (line.args arg member).single

theorem writeLine_eq : writeLine keyword args numbers =
    writeHeader keyword (args.map Item.arg) ++ writeNumbers numbers := by
  have items : args.flatMap (fun arg => ' ' :: '"' :: arg ++ ['"']) =
      writeItems (args.map Item.arg) := by
    rw [writeItems, List.flatMap_map]
    refine List.flatMap_congr fun arg member => ?_
    show _ = ' ' :: quote arg
    rw [Mechanics.quote, escape_of_not_mem (line.args arg member).quote
      (line.args arg member).backslash]
    rfl
  rw [writeLine, items]
  rfl

theorem tidy : Tidy (writeLine keyword args numbers) := by
  have header := trim_writeHeader (args.map Item.arg) line.named line.word
  have nonempty : writeHeader keyword (args.map Item.arg) ≠ [] :=
    List.append_ne_nil_of_left_ne_nil line.named _
  rw [line.writeLine_eq]
  constructor
  · exact List.append_ne_nil_of_left_ne_nil nonempty _
  · rw [List.mem_append, not_or]
    exact ⟨break_not_mem_writeHeader line.word line.writable, break_not_mem_writeNumbers line.keys⟩
  · exact (quiet_writeHeader line.word line.writable).append (quiet_writeNumbers line.keys)
  · intro c found
    rw [List.head?_append_of_ne_nil _ nonempty, ← header] at found
    exact Text.isBlank_head_trim c found
  · refine getLast?_append_writeNumbers numbers fun c found => ?_
    rw [← header] at found
    exact Text.isBlank_getLast_trim c found

/-- A line is read as the keyword, the arguments and the numbers. -/
theorem ofHeader_eq {blanks : Text} (blank : ∀ c ∈ blanks, c = ' ') :
    ∃ source, Node.ofHeader (writeLine keyword args numbers ++ blanks) =
      ⟨keyword, args, numbers.map fun entry => (entry.1, Numeral.digits entry.2), source, []⟩ := by
  have argsOf : (args.map Item.arg ++ numberItems numbers).filterMap Item.arg? = args := by
    simp [numberItems, List.filterMap_map, Function.comp_def, Item.arg?]
  have propertiesOf : (args.map Item.arg ++ numberItems numbers).filterMap Item.property? =
      numbers.map fun entry => (entry.1, Numeral.digits entry.2) := by
    simp [numberItems, List.filterMap_map, Function.comp_def, Item.property?]
  have ends : ∀ c ∈ blanks.head?, c = ' ' := fun c found => blank c (List.mem_of_mem_head? found)
  have read : tokens (writeLine keyword args numbers ++ blanks) =
      .bare keyword :: (args.map Item.arg ++ numberItems numbers).map Item.token := by
    rw [line.writeLine_eq, List.append_assoc,
      tokens_writeHeader_append line.named line.word line.writable
        (head?_writeNumbers_append numbers ends),
      tokens_writeNumbers_append line.keys ends, tokens_of_blank blank, List.append_nil,
      List.map_append]
  have distinct : (([] ++ (args.map Item.arg ++ numberItems numbers).filterMap
      Item.property?).map Prod.fst).Nodup := by
    rw [propertiesOf, List.nil_append, List.map_map]
    exact line.distinct
  refine ⟨Text.trim (writeLine keyword args numbers ++ blanks), ?_⟩
  rw [Node.ofHeader, read, List.foldl_cons]
  refine (Node.foldl_addToken_items distinct).trans ?_
  rw [argsOf, propertiesOf]
  rfl

/-- A line alone is read as a node without others inside. -/
theorem ofUnit_eq : ∃ source, Node.ofUnit [writeLine keyword args numbers] =
    ⟨keyword, args, numbers.map fun entry => (entry.1, Numeral.digits entry.2), source, []⟩ := by
  have plain : ∀ c ∈ ([] : Text), c = ' ' := by simp
  obtain ⟨source, read⟩ := line.ofHeader_eq plain
  rw [List.append_nil] at read
  rw [Node.ofUnit_eq, Text.unlines_singleton, splitBody_quiet line.tidy.quiet, read]
  exact ⟨_, rfl⟩

end IsLine

/-! ### Blocks -/

theorem trimmedLines_of_padded {line source : Text} (padded : Text.Padded line source)
    (trimmed : Text.trim line = line) (single : '\n' ∉ line) : Text.trimmedLines source = [line] := by
  rw [Text.trimmedLines_of_not_mem (padded.break_not_mem single), padded.trim_eq, trimmed]

theorem scan_of_padded {line source : Text} (padded : Text.Padded line source)
    (trimmed : Text.trim line = line) (single : '\n' ∉ line) (nonempty : line ≠ [])
    (even : balance line = 0) : scan none (Text.trimmedLines source) = ([[line]], none) := by
  rw [trimmedLines_of_padded padded trimmed single, scan_none_single nonempty even]

theorem Tidy.scan_eq {line source : Text} (tidy : Tidy line) (padded : Text.Padded line source) :
    scan none (Text.trimmedLines source) = ([[line]], none) :=
  scan_of_padded padded tidy.trim_eq tidy.single tidy.nonempty tidy.quiet.balance_eq_zero

/-- A line with a node on it is a block of that node. -/
theorem Tidy.ofBlock_eq {line source : Text} (tidy : Tidy line) (padded : Text.Padded line source) :
    Node.ofBlock source = [Node.ofUnit [line]] := by
  rw [Node.ofBlock, units_trim_of_scan (tidy.scan_eq padded), List.map_singleton]

/-- A block of a line with another one between its braces: on the same line, or on a line of its
own. -/
inductive Encloses (outer inner : Text) : Text → Prop
  | line {source : Text}
      (whole : Text.Padded (outer ++ " \x7b " ++ inner ++ " \x7d") source) : Encloses outer inner source
  | lines {opening body closing : Text} (header : Text.Padded (outer ++ " \x7b") opening)
      (between : Text.Padded inner body) (footer : Text.Padded "\x7d" closing) :
      Encloses outer inner (Text.unlines [opening, body, closing])

section Encloses

variable {outer inner source : Text} (tidy : Tidy outer) (tidyInner : Tidy inner)
include tidy

/-- The node of a unit with a header and a body between braces. -/
theorem ofBlock_of_scan {unit : List Text} {body : Text}
    (scanned : scan none (Text.trimmedLines source) = ([unit], none))
    (text : Text.unlines unit = outer ++ [' '] ++ '\x7b' :: body ++ ['\x7d']) (level : Level body)
    (scannedBody : scan none (Text.trimmedLines body) = ([[inner]], none)) :
    Node.ofBlock source = [{ Node.ofHeader (outer ++ [' ']) with
      source := Text.unlines unit, children := [Node.ofUnit [inner]] }] := by
  have split := splitBody_braced (tidy.quiet.append quiet_blank) level
  have units : Mechanics.units body = [[inner]] := groupFrom_of_scan scannedBody
  rw [Node.ofBlock, units_trim_of_scan scanned, List.map_singleton, Node.ofUnit_eq, text, split,
    units]
  rfl

include tidyInner

theorem ofBlock_of_line (whole : Text.Padded (outer ++ " \x7b " ++ inner ++ " \x7d") source) :
    ∃ text, Node.ofBlock source = [{ Node.ofHeader (outer ++ [' ']) with
      source := text, children := [Node.ofUnit [inner]] }] := by
  have parts : outer ++ " \x7b " ++ inner ++ " \x7d" =
      outer ++ [' '] ++ '\x7b' :: (' ' :: inner ++ [' ']) ++ ['\x7d'] := by simp
  have level : Level (' ' :: inner ++ [' ']) :=
    (quiet_blank.append (tidyInner.quiet.append quiet_blank)).level
  have balanced := ((tidy.quiet.append quiet_blank).level.append level.braced).balanced
  rw [← List.append_assoc, ← parts] at balanced
  have visible : Text.isBlank '\x7d' = false := by decide
  have trimmed := tidy.trim_append ([' '] ++ '\x7b' :: (' ' :: inner ++ [' '])) visible
  rw [← List.append_assoc outer, ← parts] at trimmed
  have single : '\n' ∉ outer ++ " \x7b " ++ inner ++ " \x7d" := by
    simp [tidy.single, tidyInner.single]
  have padded : Text.Padded inner (' ' :: inner ++ [' ']) :=
    ⟨[' '], [' '], rfl, by simp [Text.isBlank]⟩
  exact ⟨_, ofBlock_of_scan tidy (scan_of_padded whole trimmed single (by simp) balanced)
    ((Text.unlines_singleton _).trans parts) level (tidyInner.scan_eq padded)⟩

theorem ofBlock_of_lines {opening body closing : Text} (header : Text.Padded (outer ++ " \x7b") opening)
    (between : Text.Padded inner body) (footer : Text.Padded "\x7d" closing) :
    ∃ text, Node.ofBlock (Text.unlines [opening, body, closing]) =
      [{ Node.ofHeader (outer ++ [' ']) with source := text, children := [Node.ofUnit [inner]] }] := by
  have even := tidyInner.quiet.balance_eq_zero
  have level : Level ('\n' :: inner ++ ['\n']) :=
    (Node.quiet_break.append (tidyInner.quiet.append Node.quiet_break)).level
  have visible : Text.isBlank '\x7b' = false := by decide
  have trimmed : Text.trim (outer ++ " \x7b") = outer ++ " \x7b" := by
    have whole := tidy.trim_append [' '] visible
    rwa [List.append_assoc] at whole
  have single : '\n' ∉ outer ++ " \x7b" := by simp [tidy.single]
  have singles : ∀ line ∈ [opening, body, closing], '\n' ∉ line := by
    have last : '\n' ∉ closing := footer.break_not_mem (by decide)
    simp [header.break_not_mem single, between.break_not_mem tidyInner.single, last]
  have lines : Text.trimmedLines (Text.unlines [opening, body, closing]) =
      (outer ++ " \x7b") :: [inner] ++ [['\x7d']] := by
    rw [Text.trimmedLines, Text.lines_unlines singles (by simp), List.map_cons, List.map_cons,
      List.map_singleton, header.trim_eq, between.trim_eq, footer.trim_eq, trimmed,
      tidyInner.trim_eq]
    rfl
  have closes : balance ['\x7d'] = -1 := rfl
  have scanned := scan_none_braced (Carried.single even) tidy.quiet.balance_opening closes
  have bodyLines : Text.trimmedLines ('\n' :: inner ++ ['\n']) = [[]] ++ ([inner] ++ [[]]) := by
    rw [← List.nil_append ('\n' :: inner ++ ['\n']), List.cons_append, Text.trimmedLines_append_break,
      Text.trimmedLines_append_break, Text.trimmedLines_of_not_mem tidyInner.single,
      tidyInner.trim_eq]
    rfl
  have blank : scan none [[]] = ([], none) := rfl
  have scannedBody : scan none (Text.trimmedLines ('\n' :: inner ++ ['\n'])) = ([[inner]], none) := by
    rw [bodyLines, scan_append, blank, scan_append,
      scan_none_single tidyInner.nonempty even, blank]
    rfl
  have text : Text.unlines ((outer ++ " \x7b") :: [inner] ++ [['\x7d']]) =
      outer ++ [' '] ++ '\x7b' :: ('\n' :: inner ++ ['\n']) ++ ['\x7d'] := by
    rw [Text.unlines_append_singleton, Text.ended_cons, Text.ended_cons, Text.ended_nil]
    simp
  exact ⟨_, ofBlock_of_scan tidy (lines ▸ scanned) text level scannedBody⟩

/-- Whichever way it is written, the block is a node with the inner line as the one inside. -/
theorem Encloses.ofBlock_eq (encloses : Encloses outer inner source) :
    ∃ text, Node.ofBlock source = [{ Node.ofHeader (outer ++ [' ']) with
      source := text, children := [Node.ofUnit [inner]] }] := by
  cases encloses with
  | line whole => exact ofBlock_of_line tidy tidyInner whole
  | lines header between footer => exact ofBlock_of_lines tidy tidyInner header between footer

end Encloses

end Mechanics

end CampaignPress
