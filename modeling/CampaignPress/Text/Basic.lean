/-
This file fixes what a text is, the list of its characters, and the cutting,
joining and trimming that the rest of the library does with texts.
-/

namespace CampaignPress

/-- A text is the list of its characters; a literal is read as that list. -/
abbrev Text := List Char

instance : Coe String Text := ⟨String.toList⟩

namespace Text

/-! ### Blank characters -/

/-- Blank are the controls and spaces that Unicode gives a separating role. -/
def isBlank (c : Char) : Bool :=
  let code := c.toNat
  (9 ≤ code && code ≤ 13) || (28 ≤ code && code ≤ 32) || code = 133 || code = 160 ||
    code = 5760 || (8192 ≤ code && code ≤ 8202) || code = 8232 || code = 8233 ||
    code = 8239 || code = 8287 || code = 12288

def isBlankText (text : Text) : Bool := text.all isBlank

/-! ### Cutting -/

/-- The piece before the first cut, and the pieces after it. -/
def pieces (isCut : Char → Bool) : Text → Text × List Text
  | [] => ([], [])
  | c :: rest =>
    let (first, others) := pieces isCut rest
    if isCut c then ([], first :: others) else (c :: first, others)

/-- The pieces between cuts; a text without a cut is one piece. -/
def splitWhere (isCut : Char → Bool) (text : Text) : List Text :=
  let (first, others) := pieces isCut text
  first :: others

def splitOn (separator : Char) (text : Text) : List Text :=
  splitWhere (· == separator) text

def lines (text : Text) : List Text := splitOn '\n' text

/-- The pieces between blanks, without the empty ones. -/
def words (text : Text) : List Text :=
  (splitWhere isBlank text).filter (!·.isEmpty)

/-- What stands before and after the first separator, if there is one. -/
def cutAt (separator : Char) : Text → Option (Text × Text)
  | [] => none
  | c :: rest =>
    if c = separator then some ([], rest)
    else (cutAt separator rest).map fun (before, after) => (c :: before, after)

/-- What stands before and after the last separator, if there is one. -/
def cutAtLast (separator : Char) (text : Text) : Option (Text × Text) :=
  (cutAt separator text.reverse).map fun (after, before) => (before.reverse, after.reverse)

/-- What stands before and after the first place where a text occurs. -/
def cutAtText (separator : Text) : Text → Option (Text × Text)
  | [] => if separator.isEmpty then some ([], []) else none
  | c :: rest =>
    if separator.isPrefixOf (c :: rest) then some ([], (c :: rest).drop separator.length)
    else (cutAtText separator rest).map fun (before, after) => (c :: before, after)

/-- The rest of a text after a given beginning. -/
def after? : (beginning : Text) → Text → Option Text
  | [], text => some text
  | _ :: _, [] => none
  | b :: beginning, c :: text => if b = c then after? beginning text else none

theorem length_after? {beginning text rest : Text}
    (found : after? beginning text = some rest) : rest.length ≤ text.length := by
  induction beginning generalizing text with
  | nil => simp_all [after?]
  | cons b beginning inductionHypothesis =>
    cases text with
    | nil => simp [after?] at found
    | cons c text =>
      unfold after? at found
      split at found
      · have := inductionHypothesis found
        simp only [List.length_cons]
        omega
      · simp at found

def startsWith (text beginning : Text) : Bool := beginning.isPrefixOf text

def endsWith (text ending : Text) : Bool := ending.isSuffixOf text

/-- Whether one text occurs inside another. -/
def contains (part : Text) : Text → Bool
  | [] => part.isEmpty
  | c :: rest => part.isPrefixOf (c :: rest) || contains part rest

/-! ### Joining -/

def join (separator : Text) (parts : List Text) : Text := separator.intercalate parts

def unlines (parts : List Text) : Text := join ['\n'] parts

/-- One character in place of another. -/
def replaceChar (old new : Char) (text : Text) : Text :=
  text.map fun c => if c = old then new else c

/-! ### Trimming -/

def dropStart (drop : Char → Bool) (text : Text) : Text := text.dropWhile drop

def dropEnd (drop : Char → Bool) (text : Text) : Text := (text.reverse.dropWhile drop).reverse

def dropEnds (drop : Char → Bool) (text : Text) : Text := dropEnd drop (dropStart drop text)

def trimStart (text : Text) : Text := dropStart isBlank text

def trimEnd (text : Text) : Text := dropEnd isBlank text

def trim (text : Text) : Text := dropEnds isBlank text

/-! ### Line breaks -/

/-- Writes a carriage return that a line feed follows as the line feed alone. -/
def joinBreaks : Text → Text
  | [] => []
  | '\r' :: '\n' :: rest => '\n' :: joinBreaks rest
  | c :: rest => c :: joinBreaks rest

/-- Writes every line break as one line feed. -/
def normalizeBreaks (text : Text) : Text := replaceChar '\r' '\n' (joinBreaks text)

/-! ### Order -/

/-- Texts compare by code point. -/
def before : Text → Text → Bool
  | _, [] => false
  | [], _ :: _ => true
  | a :: left, b :: right => a.toNat < b.toNat || (a = b && before left right)

def atMost (left right : Text) : Bool := !before right left

end Text

end CampaignPress
