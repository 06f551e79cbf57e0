/-
This file reads HTML back by the classes of its elements: for every element that
has classes, the classes and the text that it begins with. An element ends with a
tag, so what is read of it does not depend on what comes after it.
-/
import CampaignPress.Html

namespace CampaignPress

namespace Html

/-! ### Elements -/

/-- The value of a class attribute, as it is written in the tag. -/
def Attribute.classes? : Attribute → Option Text
  | .escaped name value => if name = "class".toList then some (escape value) else none
  | .verbatim name value => if name = "class".toList then some value else none
  | .flag _ => none

/-- The value of the class attribute of an opening tag. -/
def Piece.classes? : Piece → Option Text
  | .opening _ attributes => attributes.findSome? Attribute.classes?
  | _ => none

/-- The text up to the first tag. -/
def leadingText : Html → Text
  | .text content :: rest => content ++ leadingText rest
  | _ => []

/-- The classes of each element that has some, and the text that it begins with. -/
def entries : Html → List (Text × Text)
  | [] => []
  | piece :: rest =>
    match piece.classes? with
    | some classes => (classes, leadingText rest) :: entries rest
    | none => entries rest

theorem leadingText_append {right : Html} (none' : leadingText right = []) (left : Html) :
    leadingText (left ++ right) = leadingText left := by
  induction left with
  | nil => exact none'
  | cons piece left inductionHypothesis =>
    cases piece with
    | text content => exact congrArg (content ++ ·) inductionHypothesis
    | opening | closing | verbatim => rfl

theorem entries_append {right : Html} (none' : leadingText right = []) (left : Html) :
    entries (left ++ right) = entries left ++ entries right := by
  induction left with
  | nil => rfl
  | cons piece left inductionHypothesis =>
    rw [List.cons_append, entries, entries, leadingText_append none', inductionHypothesis]
    cases piece.classes? <;> rfl

@[simp]
theorem leadingText_nil : leadingText [] = [] := rfl

@[simp]
theorem entries_nil : entries [] = [] := rfl

@[simp]
theorem leadingText_plainText (content : Text) : leadingText (plainText content) = content :=
  List.append_nil content

@[simp]
theorem leadingText_classed_append (name classes : Text) (content rest : Html) :
    leadingText (classed name classes content ++ rest) = [] := rfl

@[simp]
theorem entries_plainText (content : Text) : entries (plainText content) = [] := rfl

@[simp]
theorem entries_verbatim_cons (content : Text) (rest : Html) :
    entries (.verbatim content :: rest) = entries rest := rfl

theorem entries_opening_cons (name : Text) (attributes : List Attribute) (rest : Html) :
    entries (.opening name attributes :: rest) =
      (attributes.findSome? Attribute.classes?).toList.map (·, leadingText rest) ++ entries rest := by
  show (match attributes.findSome? Attribute.classes? with
    | some classes => (classes, leadingText rest) :: entries rest
    | none => entries rest) = _
  cases attributes.findSome? Attribute.classes? <;> rfl

/-- An element is read by itself. -/
theorem entries_element_append (name : Text) (attributes : List Attribute) (content rest : Html) :
    entries (element name attributes content ++ rest) =
      (attributes.findSome? Attribute.classes?).toList.map (·, leadingText content) ++
        (entries content ++ entries rest) := by
  have closed : leadingText (.closing name :: rest) = [] := rfl
  rw [element, List.append_assoc, List.cons_append, entries_opening_cons]
  rw [List.singleton_append, leadingText_append closed, entries_append closed]
  rfl

@[simp]
theorem entries_classed_append (name classes : Text) (content rest : Html) :
    entries (classed name classes content ++ rest) =
      (classes, leadingText content) :: (entries content ++ entries rest) :=
  entries_element_append name _ content rest

@[simp]
theorem entries_classed (name classes : Text) (content : Html) :
    entries (classed name classes content) = (classes, leadingText content) :: entries content := by
  have whole := entries_classed_append name classes content []
  rwa [List.append_nil, entries, List.append_nil] at whole

/-! ### Classes -/

/-- The text that each element of the given classes begins with. -/
def textsIn (classes : Text) (html : Html) : List Text :=
  ((entries html).filter (·.1 = classes)).map Prod.snd

/-- The other classes, where the first one is the given. -/
def beside? (root classes : Text) : Option (List Text) :=
  match Text.words classes with
  | first :: others => if first = root then some others else none
  | [] => none

/-- The other classes of each element whose first class is the given one. -/
def classesBeside (root : Text) (html : Html) : List (List Text) :=
  (entries html).filterMap fun entry => beside? root entry.1

end Html

end CampaignPress
