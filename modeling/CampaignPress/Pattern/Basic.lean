/-
This file holds patterns of names, and finds them in a text. The ends of a
pattern are all the places where a match from a given place may stop, the
preferred ones first.
-/
import CampaignPress.Text.Case
import CampaignPress.Text.Class

namespace CampaignPress

namespace Pattern

/-! ### Letter case -/

/-- The first character of the small form of a character. -/
def smallChar (asciiOnly : Bool) (c : Char) : Char :=
  if asciiOnly && 128 ≤ c.toNat then c else ((Text.lowerChar c).head?).getD c

def capitalChar (c : Char) : Char := ((Text.upperChar c).head?).getD c

/-- What the characters share that are the same where case is ignored. -/
def caseless (asciiOnly : Bool) (c : Char) : Text :=
  if asciiOnly then [smallChar true c] else Text.upperChar (smallChar false c)

/-- Whether a character is the one with a code. No character has the code of a surrogate. -/
def isCode (anyCase asciiOnly : Bool) (code : Nat) (c : Char) : Bool :=
  c.toNat = code || (anyCase && code.isValidChar &&
    caseless asciiOnly (Char.ofNat code) = caseless asciiOnly c)

/-! ### Characters -/

/-- A class of characters with a letter of its own. -/
inductive Class where
  | digit
  | blank
  | word
  deriving DecidableEq, Repr

/-- One entry of a set of characters, which are given by their codes. -/
inductive Entry where
  | char (code : Nat)
  | range (first last : Nat)
  | class (name : Class) (isNegated : Bool)
  deriving DecidableEq, Repr

structure CharSet where
  isNegated : Bool
  entries : List Entry
  /-- Whether case is ignored. -/
  anyCase : Bool := false
  /-- Whether classes hold characters of ASCII alone, and other characters have one case. -/
  asciiOnly : Bool := false
  deriving DecidableEq, Repr

def isAsciiBlank (c : Char) : Bool := c = ' ' || ('\t' ≤ c && c ≤ '\r')

def Class.has (name : Class) (asciiOnly : Bool) (c : Char) : Bool :=
  match name with
  | .digit => Text.isDecimal c && (!asciiOnly || c.toNat < 128)
  | .blank => if asciiOnly then isAsciiBlank c else Text.isBlank c
  | .word => Text.isWord c && (!asciiOnly || c.toNat < 128)

def Entry.has (asciiOnly : Bool) (c : Char) : Entry → Bool
  | .char code => c.toNat = code
  | .range first last => first ≤ c.toNat && c.toNat ≤ last
  | .class name isNegated => name.has asciiOnly c != isNegated

/-- The last code of the first plane. -/
def lastOfPlane : Nat := 65535

/-- Whether a character or another form of it is in an entry. Beyond the first plane an entry is
asked for the small form alone, and a range for the capital form of that too. -/
def Entry.hasAnyCase (asciiOnly : Bool) (c : Char) : Entry → Bool
  | .char code =>
    if code ≤ lastOfPlane then isCode true asciiOnly code c
    else (smallChar asciiOnly c).toNat = code
  | .range first last =>
    let small := smallChar asciiOnly c
    let plain := List.range' first (min last lastOfPlane + 1 - first)
    plain.any (isCode true asciiOnly · c) ||
      (lastOfPlane < last && ((Entry.range first last).has asciiOnly small ||
        (Entry.range first last).has asciiOnly (capitalChar small)))
  | entry => entry.has asciiOnly (smallChar asciiOnly c)

def CharSet.has (set : CharSet) (c : Char) : Bool :=
  let inside :=
    match set.entries with
    | [.char code] => isCode set.anyCase set.asciiOnly code c
    | entries =>
      if set.anyCase then entries.any (Entry.hasAnyCase set.asciiOnly c)
      else entries.any (Entry.has set.asciiOnly c)
  inside != set.isNegated

/-! ### Patterns -/

/-- Conditions on a place. -/
inductive Edge where
  | textStart
  | textEnd
  | lineStart
  /-- The end of a text, or the place before its last line break. -/
  | lastLineEnd
  | lineEnd
  | wordEdge (asciiOnly : Bool)
  | noWordEdge (asciiOnly : Bool)
  deriving DecidableEq, Repr

/-- How many repetitions are tried first. -/
inductive Greed where
  | most
  | fewest
  /-- As many as possible, and no fewer later. -/
  | all
  deriving DecidableEq, Repr

end Pattern

inductive Pattern where
  | empty
  | any (withBreaks : Bool)
  | oneOf (chars : Pattern.CharSet)
  | edge (condition : Pattern.Edge)
  | both (first second : Pattern)
  | either (first second : Pattern)
  | many (least : Nat) (most : Option Nat) (greed : Pattern.Greed) (body : Pattern)
  /-- A group with a number, whose text can be referred to. -/
  | group (number : Nat) (body : Pattern)
  /-- The text of a group once more. -/
  | same (number : Nat) (anyCase asciiOnly : Bool)
  /-- One of two bodies, by whether a group has matched. -/
  | given (number : Nat) (body other : Pattern)
  /-- A body whose first match is the only one. -/
  | fixed (body : Pattern)
  /-- A body that does or does not match from here on. -/
  | ahead (isNegated : Bool) (body : Pattern)
  /-- A body of a width that does or does not match up to here. -/
  | behind (isNegated : Bool) (width : Nat) (body : Pattern)
  deriving DecidableEq, Repr

namespace Pattern

/-! ### Matching -/

structure Place where
  index : Nat
  /-- The groups so far, as the places where they begin and end. -/
  groups : List (Nat × Nat × Nat) := []
  deriving DecidableEq, Repr

def isWordAt (text : Array Char) (asciiOnly : Bool) (index : Nat) : Bool :=
  text[index]?.any fun c => Class.word.has asciiOnly c

/-- Whether a word begins or ends at a place. -/
def isWordEdge (text : Array Char) (asciiOnly : Bool) (index : Nat) : Bool :=
  (0 < index && isWordAt text asciiOnly (index - 1)) != isWordAt text asciiOnly index

def Edge.holds (text : Array Char) (index : Nat) : Edge → Bool
  | .textStart => index = 0
  | .textEnd => index = text.size
  | .lineStart => index = 0 || text[index - 1]? = some '\n'
  | .lastLineEnd => index = text.size || (index + 1 = text.size && text[index]? = some '\n')
  | .lineEnd => index = text.size || text[index]? = some '\n'
  | .wordEdge asciiOnly => isWordEdge text asciiOnly index
  | .noWordEdge asciiOnly => text.size ≠ 0 && !isWordEdge text asciiOnly index

/-- The place behind one character that passes a test. -/
def oneChar (text : Array Char) (test : Char → Bool) (place : Place) : List Place :=
  if text[place.index]?.any test then [{ place with index := place.index + 1 }] else []

/-- The ends of repetitions. Once there are enough of them, there is no further one from the place
where the last one began; `room` bounds their count. -/
def repeated (ends : Place → List Place) (greed : Greed) :
    (room least : Nat) → (most : Option Nat) → (last? : Option Nat) → Place → List Place
  | 0, least, _, _, place => if least = 0 then [place] else []
  | room + 1, least, most, last?, place =>
    let enough := if least = 0 then [place] else []
    if most = some 0 || (least = 0 && last? = some place.index) then enough
    else
      let last? := if least = 0 then some place.index else last?
      let more := (ends place).flatMap
        (repeated ends greed room (least - 1) (most.map (· - 1)) last?)
      (if greed = .fewest then enough ++ more else more ++ enough).eraseDups

/-- Whether two texts agree. -/
def agree (anyCase asciiOnly : Bool) (left right : List Char) : Bool :=
  if anyCase then left.map (smallChar asciiOnly) = right.map (smallChar asciiOnly)
  else left = right

/-- The ends of a pattern from a place on. -/
def ends (text : Array Char) : Pattern → Place → List Place
  | .empty, place => [place]
  | .any withBreaks, place => oneChar text (fun c => withBreaks || c ≠ '\n') place
  | .oneOf chars, place => oneChar text chars.has place
  | .edge condition, place => if condition.holds text place.index then [place] else []
  | .both first second, place => ((ends text first place).flatMap (ends text second)).eraseDups
  | .either first second, place => (ends text first place ++ ends text second place).eraseDups
  | .many least most greed body, place =>
    let found := repeated (ends text body) greed (text.size + least + 2) least most none place
    if greed = .all then found.take 1 else found
  | .group number body, place =>
    (ends text body place).map fun after =>
      { after with groups :=
          (number, place.index, after.index) :: after.groups.filter (·.1 ≠ number) }
  | .same number anyCase asciiOnly, place =>
    match place.groups.lookup number with
    | none => []
    | some (start, stop) =>
      let after := place.index + (stop - start)
      let taken := (text.extract start stop).toList
      let again := (text.extract place.index after).toList
      if after ≤ text.size && agree anyCase asciiOnly taken again then
        [{ place with index := after }]
      else []
  | .given number body other, place =>
    if (place.groups.lookup number).isSome then ends text body place else ends text other place
  | .fixed body, place => (ends text body place).take 1
  | .ahead isNegated body, place =>
    match ends text body place, isNegated with
    | after :: _, false => [{ after with index := place.index }]
    | [], true => [place]
    | _, _ => []
  | .behind isNegated width body, place =>
    let found :=
      if width ≤ place.index then
        (ends text body { place with index := place.index - width }).filter
          (·.index = place.index)
      else []
    match found, isNegated with
    | after :: _, false => [after]
    | [], true => [place]
    | _, _ => []

/-- Whether a pattern matches anywhere in a text. -/
def occursIn (pattern : Pattern) (text : Text) : Bool :=
  let chars := text.toArray
  (List.range (chars.size + 1)).any fun index => !(pattern.ends chars { index }).isEmpty

/-! ### Width -/

/-- The least and the greatest number of characters that something takes; without a greatest one
there is no bound. -/
structure Span where
  least : Nat
  greatest : Option Nat
  deriving DecidableEq, Repr

namespace Span

def exactly (width : Nat) : Span := ⟨width, some width⟩

def add (first second : Span) : Span where
  least := first.least + second.least
  greatest := do return (← first.greatest) + (← second.greatest)

def join (first second : Span) : Span where
  least := min first.least second.least
  greatest := do return max (← first.greatest) (← second.greatest)

def times (span : Span) (least : Nat) (most : Option Nat) : Span where
  least := span.least * least
  greatest := if span.greatest = some 0 then some 0 else do return (← span.greatest) * (← most)

end Span

/-- The span of a pattern, where groups before it have spans. -/
def span (groups : List (Option Span)) : Pattern → Span
  | .empty => .exactly 0
  | .any _ => .exactly 1
  | .oneOf _ => .exactly 1
  | .edge _ => .exactly 0
  | .both first second => (span groups first).add (span groups second)
  | .either first second => (span groups first).join (span groups second)
  | .many least most _ body => (span groups body).times least most
  | .group _ body => span groups body
  | .same number _ _ => ((groups[number - 1]?).join).getD (.exactly 0)
  | .given _ body other => (span groups body).join (span groups other)
  | .fixed body => span groups body
  | .ahead _ _ => .exactly 0
  | .behind _ _ _ => .exactly 0

end Pattern

end CampaignPress
