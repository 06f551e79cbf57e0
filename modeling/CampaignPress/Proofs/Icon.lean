/-
This file shows that the icons that the library brings along hold no control
characters, so that each is written on one line, and that those of directives
close the tags that they open.
-/
import CampaignPress.Icon
import CampaignPress.Proofs.Html.Tag

namespace CampaignPress

open Html (isGraphic)

/-! ### Drawings -/

theorem isGraphic_append {left right : Text} (first : isGraphic left) (second : isGraphic right) :
    isGraphic (left ++ right) := by
  rw [isGraphic, List.all_append, Bool.and_eq_true]
  exact ⟨first, second⟩

/-- A literal is tested as the list of its characters, which need not be read from its bytes. -/
theorem isGraphic_toList (chars : List Char) (graphic : isGraphic chars) :
    isGraphic (String.ofList chars).toList := by
  rw [String.toList_ofList]
  exact graphic

theorem Icon.isGraphic_drawing {name shapes : Text} (graphicName : isGraphic name)
    (graphicShapes : isGraphic shapes) : isGraphic (drawing name shapes) := by
  unfold drawing
  repeat' first
    | with_reducible refine isGraphic_append ?_ ?_
    | with_reducible exact graphicName
    | with_reducible exact graphicShapes
    | exact isGraphic_toList _ (by decide)

namespace IconTable

/-! ### The standard table -/

theorem isGraphic_of_mem_callouts {entry : Text × Text} (member : entry ∈ standard.callouts) :
    isGraphic entry.2 := by
  obtain ⟨named, inList, rfl⟩ := List.mem_map.1 (List.mem_reverse.1 member)
  simp only [List.mem_cons, List.not_mem_nil, or_false] at inList
  rcases inList with rfl | rfl | rfl | rfl | rfl | rfl | rfl | rfl | rfl | rfl | rfl | rfl | rfl |
    rfl
  all_goals
    refine Icon.isGraphic_drawing ?_ ?_ <;>
    · repeat' first
        | with_reducible refine isGraphic_append ?_ ?_
        | exact isGraphic_toList _ (by decide)

theorem isGraphic_otherwise : isGraphic standard.otherwise := by
  refine Icon.isGraphic_drawing ?_ ?_ <;>
  · repeat' first
      | with_reducible refine isGraphic_append ?_ ?_
      | exact isGraphic_toList _ (by decide)

theorem isGraphic_fold : isGraphic standard.fold :=
  Icon.isGraphic_drawing (isGraphic_toList _ (by decide))
    (isGraphic_toList _ (by decide))

theorem isGraphic_callout (kind : Text) : isGraphic (standard.callout kind) := by
  rw [callout]
  cases found : standard.callouts.lookup (Text.lower kind) with
  | none => exact isGraphic_otherwise
  | some icon =>
    obtain ⟨before, after, same, -⟩ := List.lookup_eq_some_iff.1 found
    have member : (Text.lower kind, icon) ∈ standard.callouts := by
      rw [same]
      exact List.mem_append_right _ List.mem_cons_self
    exact isGraphic_of_mem_callouts member

/-! ### Markup -/

theorem append_congr {left right left' right' : Text} (first : left = left')
    (second : right = right') : left ++ right = left' ++ right' := by rw [first, second]

/-- An icon is read as the list of its characters, as literals are tested. -/
theorem isMarkup_of_exists {icon : Text}
    (written : ∃ chars, icon = chars ∧ Html.isMarkup chars) : Html.isMarkup icon := by
  obtain ⟨_, rfl, markup⟩ := written
  exact markup

theorem isMarkup_trackCreate : Html.isMarkup standard.trackCreate := by
  show Html.isMarkup Icon.squareStack = true
  refine isMarkup_of_exists ?_
  apply Exists.intro
  apply And.intro
  · unfold Icon.squareStack Icon.drawing
    repeat' first
      | with_reducible apply append_congr
      | exact String.toList_ofList
  · decide +kernel

theorem isMarkup_trackAdvance : Html.isMarkup standard.trackAdvance := by
  show Html.isMarkup Icon.copyCheck = true
  refine isMarkup_of_exists ?_
  apply Exists.intro
  apply And.intro
  · unfold Icon.copyCheck Icon.drawing
    repeat' first
      | with_reducible apply append_congr
      | exact String.toList_ofList
  · decide +kernel

theorem isMarkup_entityCreate : Html.isMarkup standard.entityCreate := by
  show Html.isMarkup Icon.filePlus = true
  refine isMarkup_of_exists ?_
  apply Exists.intro
  apply And.intro
  · unfold Icon.filePlus Icon.drawing
    repeat' first
      | with_reducible apply append_congr
      | exact String.toList_ofList
  · decide +kernel

end IconTable

end CampaignPress
