/-
This file tells the lines of the box that a callout becomes: first lines with a
tag each, then the body between blank lines, then the closing tags. None but the
lines of the body can open a fence.
-/
import CampaignPress.Proofs.Icon
import CampaignPress.Proofs.Prose.Split
import CampaignPress.Proofs.Text.Cut
import CampaignPress.Proofs.Text.Case
import CampaignPress.Prose.Callout

namespace CampaignPress

namespace Callout

open Html (Attribute Piece classed plainText)

/-! ### The frame -/

def attributes (callout : Callout) : List Attribute :=
  [.verbatim "data-callout-metadata" ""] ++
    (if callout.collapsible then [.verbatim "data-callout-fold" "-"] else []) ++
    [.escaped "data-callout" callout.kind, .verbatim "class"
      (if callout.collapsible then "callout is-collapsible is-collapsed" else "callout")]

/-- The lines of a box before its body. -/
def frame (icons : IconTable) (callout : Callout) : List Html :=
  [[.opening "div" callout.attributes],
    [.opening "div" [.verbatim "class" "callout-title", .verbatim "dir" "auto"]],
    classed "div" "callout-icon" [.verbatim (icons.callout callout.kind)],
    classed "div" "callout-title-inner" (plainText callout.title)] ++
  (if callout.collapsible then [classed "div" "callout-fold is-collapsed" [.verbatim icons.fold]]
    else []) ++
  [[.closing "div"],
    [.opening "div" (.verbatim "class" "callout-content" ::
      if callout.collapsible then [.verbatim "style" "display: none;"] else [])]]

def closingTag : Text := Html.write [.closing "div"]

theorem write_toHtml (icons : IconTable) (callout : Callout) :
    (callout.toHtml icons).write = Text.unlines ((callout.frame icons).map Html.write ++
      [[], Text.unlines callout.body, [], closingTag, closingTag]) := by
  obtain ⟨kind, title, collapsible, body⟩ := callout
  cases collapsible <;>
    simp [toHtml, titleBar, frame, attributes, closingTag, classed, Html.element, plainText,
      Html.write, Piece.write, breaks, Text.unlines, Text.join, List.intercalate]

/-- The texts of the frame that are not the same in every box. -/
def chosenTexts (icons : IconTable) (callout : Callout) : List Text :=
  [callout.kind, callout.title, icons.callout callout.kind, icons.fold]

theorem isGraphic_or_mem_of_mem_frame {icons : IconTable} {callout : Callout} {line : Html}
    (member : line ∈ callout.frame icons) :
    ∀ text ∈ line.texts, Html.isGraphic text ∨ text ∈ callout.chosenTexts icons := by
  obtain ⟨kind, title, collapsible, body⟩ := callout
  rw [frame] at member
  simp only [List.mem_append, List.mem_cons, List.not_mem_nil, or_false] at member
  rcases member with ((rfl | rfl | rfl | rfl) | fold) | rfl | rfl
  case inl.inr =>
    split at fold
    · rw [List.mem_singleton.1 fold]
      simp only [Html.texts, Piece.texts, Attribute.texts, classed, Html.element,
        List.flatMap_cons, List.flatMap_nil, List.cons_append, List.nil_append, List.append_nil,
        List.forall_mem_cons]
      and_intros
      all_goals
        first
        | exact .inl (isGraphic_toList _ (by decide))
        | exact .inr (by simp [chosenTexts])
        | exact fun _ none => absurd none List.not_mem_nil
    · exact absurd fold List.not_mem_nil
  all_goals
    cases collapsible <;>
      simp only [attributes, Html.texts, Piece.texts, Attribute.texts, classed, Html.element,
        plainText, List.flatMap_cons, List.flatMap_nil, List.cons_append, List.nil_append,
        List.append_nil, if_true, Bool.false_eq_true, if_false, List.forall_mem_cons] <;>
      and_intros
    all_goals
      first
      | exact .inl (isGraphic_toList _ (by decide))
      | exact .inr (by simp [chosenTexts])
      | exact fun _ none => absurd none List.not_mem_nil

theorem mem_chosenTexts {icons : IconTable} {callout : Callout} {line : Html}
    (member : line ∈ callout.frame icons) {d : Char} (control : d.toNat < 32)
    (inLine : d ∈ line.write) : ∃ text ∈ callout.chosenTexts icons, d ∈ text := by
  obtain ⟨text, inTexts, inText⟩ := Html.exists_of_mem_write control inLine
  rcases isGraphic_or_mem_of_mem_frame member text inTexts with graphic | chosen
  · exact absurd inText (Html.not_mem_of_isGraphic graphic control)
  · exact ⟨text, chosen, inText⟩

theorem head?_of_mem_frame {icons : IconTable} {callout : Callout} {line : Html}
    (member : line ∈ callout.frame icons) : line.write.head? = some '<' := by
  rw [frame] at member
  simp only [List.mem_append, List.mem_cons, List.not_mem_nil, or_false] at member
  rcases member with ((rfl | rfl | rfl | rfl) | fold) | rfl | rfl
  case inl.inr =>
    split at fold
    · rw [List.mem_singleton.1 fold]
      rfl
    · exact absurd fold List.not_mem_nil
  all_goals rfl

/-! ### Characters -/

/-- A callout in which a character does not stand. -/
structure Lacks (d : Char) (callout : Callout) : Prop where
  kind : d ∉ callout.kind
  title : d ∉ callout.title
  body : ∀ line ∈ callout.body, d ∉ line

end Callout

/-- Icons in which a character does not stand. -/
structure IconTable.Lacks (d : Char) (icons : IconTable) : Prop where
  callout : ∀ kind, d ∉ icons.callout kind
  fold : d ∉ icons.fold

theorem IconTable.lacks_standard {d : Char} (control : d.toNat < 32) : standard.Lacks d where
  callout kind := Html.not_mem_of_isGraphic (isGraphic_callout kind) control
  fold := Html.not_mem_of_isGraphic isGraphic_fold control

namespace Callout

theorem mem_of_mem_restOfLine? {rest title : Text} (found : restOfLine? rest = some title)
    {c : Char} (member : c ∈ title) : c ∈ rest := by
  rw [restOfLine?] at found
  split at found
  · obtain rfl := Option.some.inj found
    exact member
  · obtain rfl := Option.some.inj found
    exact (List.takeWhile_prefix _).subset member
  · exact nomatch found

section Reading

variable {d : Char} {line : Text} (other : d ∉ line)
include other

theorem lacks_of_ofHeader? (control : d.toNat < 32) {callout : Callout}
    (header : ofHeader? line = some callout) : callout.Lacks d := by
  rw [ofHeader?] at header
  obtain ⟨quoted, begun, header⟩ := Option.bind_eq_some_iff.1 header
  obtain ⟨inner, bracketed, header⟩ := Option.bind_eq_some_iff.1 header
  obtain ⟨-, -, header⟩ := Option.bind_eq_some_iff.1 header
  obtain ⟨signed, ended, header⟩ := Option.bind_eq_some_iff.1 header
  have notInner : d ∉ inner := fun inside => other <|
    Text.mem_of_mem_after? begun <| (List.dropWhile_suffix _).subset <|
      Text.mem_of_mem_after? bracketed inside
  have notSigned : d ∉ signed := fun inside => notInner <|
    (List.dropWhile_suffix _).subset <| Text.mem_of_mem_after? ended inside
  split at header
  rename_i collapsible rest sign
  have notRest : d ∉ rest := by
    split at sign <;> obtain ⟨-, rfl⟩ := Prod.mk.inj sign
    · exact fun inside => notSigned (List.mem_cons_of_mem _ inside)
    · exact fun inside => notSigned (List.mem_cons_of_mem _ inside)
    · exact notSigned
  obtain ⟨title, found, same⟩ := Option.bind_eq_some_iff.1 header
  obtain rfl := Option.some.inj same
  have notTitle : d ∉ Text.trim title := fun inside => notRest <|
    (List.dropWhile_suffix _).subset <|
      mem_of_mem_restOfLine? found (Text.mem_of_mem_trim inside)
  have notKind : d ∉ Text.lower (Text.trim (inner.takeWhile (· ≠ ']'))) := fun inside => notInner <|
    (List.takeWhile_prefix _).subset <| Text.mem_of_mem_trim (Text.mem_of_mem_lower control inside)
  refine ⟨notKind, ?_, fun line none => absurd none List.not_mem_nil⟩
  dsimp only
  split
  · exact fun inside => notKind (Text.mem_of_mem_upper control inside)
  · exact notTitle

theorem not_mem_unquote : d ∉ unquote line := by
  rw [unquote.eq_def]
  split
  · split
    · exact fun inside => other (by simp [inside])
    · exact fun inside => other (List.mem_cons_of_mem _ inside)
  · exact fun inside => other (List.mem_cons_of_mem _ inside)
  · exact other

theorem Lacks.add {callout : Callout} (lacks : callout.Lacks d) : (callout.add line).Lacks d where
  kind := lacks.kind
  title := lacks.title
  body := List.forall_mem_append.2 ⟨lacks.body, List.forall_mem_singleton.2 other⟩

end Reading

section Writing

variable {icons : IconTable} {d : Char} (control : d.toNat < 32) (icons_lack : icons.Lacks d)
  {callout : Callout} (lacks : callout.Lacks d)
include control icons_lack lacks

theorem not_mem_write_of_mem_frame {line : Html} (member : line ∈ callout.frame icons) :
    d ∉ line.write := by
  intro inLine
  obtain ⟨text, inTexts, inText⟩ := mem_chosenTexts member control inLine
  simp only [chosenTexts, List.mem_cons, List.not_mem_nil, or_false] at inTexts
  rcases inTexts with rfl | rfl | rfl | rfl
  · exact lacks.kind inText
  · exact lacks.title inText
  · exact icons_lack.callout _ inText
  · exact icons_lack.fold inText

theorem not_mem_write_toHtml (other : d ≠ '\n') : d ∉ (callout.toHtml icons).write := by
  rw [write_toHtml, Text.mem_unlines other]
  rintro ⟨part, inParts, inPart⟩
  rcases List.mem_append.1 inParts with inFrame | inRest
  · obtain ⟨line, member, rfl⟩ := List.mem_map.1 inFrame
    exact not_mem_write_of_mem_frame control icons_lack lacks member inPart
  · have closing : d ∉ closingTag := Html.not_mem_of_isGraphic (by decide) control
    simp only [List.mem_cons, List.not_mem_nil, or_false] at inRest
    rcases inRest with rfl | rfl | rfl | rfl | rfl
    · exact List.not_mem_nil inPart
    · obtain ⟨line, inBody, inLine⟩ := (Text.mem_unlines other).1 inPart
      exact lacks.body line inBody inLine
    · exact List.not_mem_nil inPart
    · exact closing inPart
    · exact closing inPart

end Writing

/-! ### Lines -/

/-- The lines of a body as they stand in its box. -/
def bodyLines (callout : Callout) : List Text := Text.lines (Text.unlines callout.body)

theorem bodyLines_eq {callout : Callout} (single : callout.Lacks '\n') :
    callout.bodyLines = if callout.body = [] then [[]] else callout.body := by
  rw [bodyLines]
  split
  · rename_i empty
    rw [empty]
    rfl
  · rename_i filled
    exact Text.lines_unlines single.body filled

section Lines

variable {icons : IconTable} (icons_single : icons.Lacks '\n') {callout : Callout}
  (single : callout.Lacks '\n')
include icons_single single

theorem lines_write_toHtml : Text.lines (callout.toHtml icons).write =
    (callout.frame icons).map Html.write ++
      [] :: (callout.bodyLines ++ [[], closingTag, closingTag]) := by
  have same : (callout.frame icons).flatMap (fun line => Text.lines line.write) =
      (callout.frame icons).map Html.write := by
    rw [List.map_eq_flatMap]
    exact List.flatMap_congr fun line member =>
      Text.lines_of_not_mem (not_mem_write_of_mem_frame (by decide) icons_single single member)
  rw [write_toHtml, Text.lines_unlines_eq_flatMap (by simp), List.flatMap_append,
    List.flatMap_map, same]
  simp only [List.flatMap_cons, List.flatMap_nil]
  rfl

/-- A callout whose body closes the fences that it opens. -/
def IsBalanced (callout : Callout) : Prop := Fence.AreBalanced callout.body

instance (callout : Callout) : Decidable callout.IsBalanced :=
  inferInstanceAs (Decidable (Fence.AreBalanced _))

/-- The lines around the body open no fence. -/
theorem IsBalanced.areBalanced_lines (balanced : callout.IsBalanced) :
    Fence.AreBalanced (Text.lines (callout.toHtml icons).write) := by
  have frame : Fence.AreBalanced ((callout.frame icons).map Html.write) := by
    refine Fence.areBalanced_of_plain fun line member => ?_
    obtain ⟨tags, inFrame, rfl⟩ := List.mem_map.1 member
    exact Fence.opened?_of_head? (head?_of_mem_frame inFrame) (by decide)
  have body : Fence.AreBalanced callout.bodyLines := by
    rw [bodyLines_eq single]
    split
    · rfl
    · exact balanced
  have blank : Fence.AreBalanced [[]] := rfl
  have closing : Fence.AreBalanced [[], closingTag, closingTag] := by decide
  rw [lines_write_toHtml icons_single single]
  exact frame.append (blank.append (body.append closing))

end Lines

end Callout

end CampaignPress
