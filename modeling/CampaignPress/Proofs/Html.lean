/-
This file shows that writing HTML brings in no control characters: one that
stands in the written form stands in a text of the tags or between them.
-/
import CampaignPress.Html
import CampaignPress.Proofs.Text.Cut

namespace CampaignPress

namespace Html

/-! ### Characters -/

/-- Whether a text holds none of the first controls. -/
def isGraphic (text : Text) : Bool := text.all fun c => 32 ≤ c.toNat

theorem not_mem_of_isGraphic {text : Text} (graphic : isGraphic text) {d : Char}
    (control : d.toNat < 32) : d ∉ text := fun member =>
  Nat.not_le.2 control (of_decide_eq_true (List.all_eq_true.1 graphic d member))

/-! ### Escaping -/

/-- The characters that are escaped, and those that entities are written in. -/
def entityChars : List Char :=
  ['<', '>', '"', '&', ';', 'a', 'm', 'p', 'l', 't', 'g', 'q', 'u', 'o']

theorem not_mem_entityChars {d : Char} (control : d.toNat < 32) : d ∉ entityChars :=
  not_mem_of_isGraphic (by decide) control

section Escape

variable {d : Char} (other : d ∉ entityChars)

theorem escape_append (left right : Text) : escape (left ++ right) = escape left ++ escape right :=
  List.flatMap_append

theorem escape_eq_nil_iff {text : Text} : escape text = [] ↔ text = [] := by
  cases text with
  | nil => exact Iff.rfl
  | cons c text =>
    refine iff_of_false (fun empty => ?_) (List.cons_ne_nil _ _)
    have none' := (List.append_eq_nil_iff.1 (List.flatMap_cons.symm.trans empty)).1
    rw [escapeChar.eq_def] at none'
    split at none' <;> exact nomatch none'

theorem escape_cons (c : Char) (text : Text) : escape (c :: text) = escapeChar c ++ escape text :=
  List.flatMap_cons

include other

theorem eq_of_mem_escapeChar {c : Char} (member : d ∈ escapeChar c) : d = c := by
  have entity : ∀ mapped : Text, (mapped.all fun c => entityChars.contains c) → d ∉ mapped := by
    intro mapped known inside
    exact other (List.contains_iff_mem.1 (List.all_eq_true.1 known d inside))
  rw [escapeChar.eq_def] at member
  split at member
  · exact absurd member (entity _ (by decide))
  · exact absurd member (entity _ (by decide))
  · exact absurd member (entity _ (by decide))
  · exact absurd member (entity _ (by decide))
  · exact List.mem_singleton.1 member

/-- A character that has no part in escaping stands in an escaped text where it stood before. -/
theorem mem_of_mem_escape {text : Text} (member : d ∈ escape text) : d ∈ text := by
  obtain ⟨c, inText, here⟩ := List.mem_flatMap.1 member
  rwa [eq_of_mem_escapeChar other here]

theorem escapeChar_eq_self : escapeChar d = [d] := by
  rw [escapeChar.eq_def]
  split <;> first | rfl | exact absurd (by decide) other

theorem mem_escape_of_mem {text : Text} (member : d ∈ text) : d ∈ escape text :=
  List.mem_flatMap.2 ⟨d, member, escapeChar_eq_self other ▸ List.mem_singleton_self d⟩

/-- An escaped text is cut at the first place of a character that has no part in escaping where
the text is. -/
theorem exists_of_escape_eq_append {text before after : Text}
    (same : escape text = before ++ d :: after) (first : d ∉ before) :
    ∃ left right, text = left ++ d :: right ∧ escape left = before ∧ escape right = after := by
  induction text generalizing before with
  | nil => exact nomatch List.append_ne_nil_of_right_ne_nil before (List.cons_ne_nil d after) same.symm
  | cons c rest inductionHypothesis =>
    rw [escape_cons] at same
    by_cases here : c = d
    · rw [here, escapeChar_eq_self other] at same
      have cut := Text.append_cons_inj List.not_mem_nil first same
      exact ⟨[], rest, by rw [here]; rfl, cut.1, cut.2⟩
    · have apart : d ∉ escapeChar c := fun member => here (eq_of_mem_escapeChar other member).symm
      rcases List.append_eq_append_iff.1 same with ⟨middle, rfl, later⟩ | ⟨middle, whole, later⟩
      · obtain ⟨left, right, rfl, escaped, rfl⟩ :=
          inductionHypothesis later fun member => first (List.mem_append_right _ member)
        exact ⟨c :: left, right, rfl, by rw [escape_cons, escaped], rfl⟩
      · cases middle with
        | nil =>
          rw [List.append_nil] at whole
          rw [List.nil_append] at later
          have whole' : escape rest = [] ++ d :: after := later.symm
          obtain ⟨left, right, rfl, escaped, rfl⟩ := inductionHypothesis whole' List.not_mem_nil
          exact ⟨c :: left, right, rfl, by rw [escape_cons, escaped, whole, List.append_nil], rfl⟩
        | cons e middle =>
          obtain ⟨rfl, -⟩ := List.cons.inj later
          exact absurd (whole ▸ List.mem_append_right _ List.mem_cons_self) apart

theorem exists_of_escape_eq_cons {text after : Text} (same : escape text = d :: after) :
    ∃ rest, text = d :: rest ∧ escape rest = after := by
  have whole : escape text = [] ++ d :: after := same
  obtain ⟨left, rest, rfl, empty, later⟩ :=
    exists_of_escape_eq_append other whole List.not_mem_nil
  rw [escape_eq_nil_iff.1 empty]
  exact ⟨rest, rfl, later⟩

end Escape

/-! ### The texts of a fragment -/

def Attribute.texts : Attribute → List Text
  | .escaped name value => [name, value]
  | .verbatim name value => [name, value]
  | .flag name => [name]

def Piece.texts : Piece → List Text
  | .opening name attributes => name :: attributes.flatMap Attribute.texts
  | .closing name => [name]
  | .text content => [content]
  | .verbatim content => [content]

/-- The names, values and contents that a fragment is written with. -/
def texts (html : Html) : List Text := html.flatMap Piece.texts

section Texts

variable {d : Char} (control : d.toNat < 32)
include control

theorem ne_of_graphic {c : Char} (graphic : 32 ≤ c.toNat) : d ≠ c := by
  rintro rfl
  exact Nat.not_le.2 control graphic

theorem Attribute.exists_of_mem_write {piece : Attribute} (member : d ∈ piece.write) :
    ∃ text ∈ piece.texts, d ∈ text := by
  have blank : d ≠ ' ' := ne_of_graphic control (by decide)
  have equals : d ≠ '=' := ne_of_graphic control (by decide)
  have quote : d ≠ '"' := ne_of_graphic control (by decide)
  cases piece with
  | escaped name value =>
    have found : d ∈ name ∨ d ∈ escape value := by
      simpa [write, blank, equals, quote] using member
    rcases found with inName | inValue
    · exact ⟨name, List.mem_cons_self, inName⟩
    · exact ⟨value, List.mem_cons_of_mem _ List.mem_cons_self,
        mem_of_mem_escape (not_mem_entityChars control) inValue⟩
  | verbatim name value =>
    have found : d ∈ name ∨ d ∈ value := by
      simpa [write, blank, equals, quote] using member
    rcases found with inName | inValue
    · exact ⟨name, List.mem_cons_self, inName⟩
    · exact ⟨value, List.mem_cons_of_mem _ List.mem_cons_self, inValue⟩
  | flag name =>
    have found : d ∈ name := by simpa [write, blank] using member
    exact ⟨name, List.mem_cons_self, found⟩

theorem Piece.exists_of_mem_write {piece : Piece} (member : d ∈ piece.write) :
    ∃ text ∈ piece.texts, d ∈ text := by
  have left : d ≠ '<' := ne_of_graphic control (by decide)
  have slash : d ≠ '/' := ne_of_graphic control (by decide)
  have right : d ≠ '>' := ne_of_graphic control (by decide)
  cases piece with
  | opening name attributes =>
    have found : d ∈ name ∨ d ∈ attributes.flatMap Attribute.write := by
      simpa only [write, List.mem_append, List.mem_cons, List.cons_append, left, false_or,
        show d ∉ ">".toList from not_mem_of_isGraphic (by decide) control, or_false] using member
    rcases found with inName | inAttributes
    · exact ⟨name, List.mem_cons_self, inName⟩
    · obtain ⟨piece, inPieces, here⟩ := List.mem_flatMap.1 inAttributes
      obtain ⟨text, inPiece, inText⟩ := Attribute.exists_of_mem_write control here
      exact ⟨text, List.mem_cons_of_mem _ (List.mem_flatMap.2 ⟨piece, inPieces, inPiece⟩), inText⟩
  | closing name =>
    have found : d ∈ name := by simpa [write, left, slash, right] using member
    exact ⟨name, List.mem_cons_self, found⟩
  | text content =>
    exact ⟨content, List.mem_cons_self, mem_of_mem_escape (not_mem_entityChars control) member⟩
  | verbatim content => exact ⟨content, List.mem_cons_self, member⟩

/-- A control character in a written fragment is in one of its texts. -/
theorem exists_of_mem_write {html : Html} (member : d ∈ html.write) :
    ∃ text ∈ html.texts, d ∈ text := by
  obtain ⟨piece, inHtml, here⟩ := List.mem_flatMap.1 member
  obtain ⟨text, inPiece, inText⟩ := Piece.exists_of_mem_write control here
  exact ⟨text, List.mem_flatMap.2 ⟨piece, inHtml, inPiece⟩, inText⟩

end Texts

/-! ### Targets -/

def Attribute.target? : Attribute → Option Text
  | .escaped name value => if name = "href".toList then some value else none
  | .verbatim name value => if name = "href".toList then some value else none
  | .flag _ => none

def Piece.targets : Piece → List Text
  | .opening _ attributes => attributes.filterMap Attribute.target?
  | _ => []

/-- The addresses that a fragment links to, in order. -/
def targets (html : Html) : List Text := html.flatMap Piece.targets

@[simp]
theorem targets_nil : targets [] = [] := rfl

@[simp]
theorem targets_cons (piece : Piece) (html : Html) :
    targets (piece :: html) = piece.targets ++ targets html := List.flatMap_cons

@[simp]
theorem targets_append (left right : Html) : targets (left ++ right) = targets left ++ targets right :=
  List.flatMap_append

@[simp]
theorem targets_element (name : Text) (attributes : List Attribute) (content : Html) :
    targets (element name attributes content) =
      attributes.filterMap Attribute.target? ++ targets content := by
  rw [element, targets_append]
  exact List.append_nil _

@[simp]
theorem targets_classed (name classes : Text) (content : Html) :
    targets (classed name classes content) = targets content := by
  rw [classed, targets_element]
  rfl

@[simp]
theorem targets_plainText (content : Text) : targets (plainText content) = [] := rfl

end Html

end CampaignPress
