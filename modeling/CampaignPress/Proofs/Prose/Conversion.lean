/-
This file says which fences come through the conversion of callouts. Where no
body of a callout leaves a fence open, neither does any passage that is converted:
the fences of the text are fences of what comes out, and each line outside of
callouts is still prose or still fenced. Where a body does leave one open, the box
swallows a fence that comes after it, and a link in that is rewritten.
-/
import CampaignPress.Proofs.Prose.Body
import CampaignPress.Proofs.Prose.Passage
import CampaignPress.Proofs.Value.Text

namespace CampaignPress

namespace Prose

/-! ### Passes over fences -/

/-- A pass over prose hands every fence on as it is. -/
theorem sublist_of_mapM_mapSegment {pass : Text → Text × List Text} {segments : List Segment}
    {parts : List (Text × List Text)} (passed : segments.mapM (mapSegment pass) = .ok parts) :
    ((segments.filter (·.fenced)).map Segment.toText).Sublist (parts.map (·.1)) := by
  induction segments generalizing parts with
  | nil => exact List.nil_sublist _
  | cons segment segments inductionHypothesis =>
    rw [List.mapM_cons] at passed
    obtain ⟨part, first, passed⟩ := bind_eq_ok.1 passed
    obtain ⟨others, later, same⟩ := bind_eq_ok.1 passed
    obtain rfl := Except.ok.inj same
    rw [List.filter_cons, List.map_cons]
    cases fenced : segment.fenced with
    | true =>
      rw [mapSegment, if_pos fenced] at first
      obtain rfl := Except.ok.inj first
      exact (inductionHypothesis later).cons_cons _
    | false => exact (inductionHypothesis later).cons _

end Prose

namespace Callout

/-! ### Lines -/

section Lines

variable {icons : IconTable} {text : Text}

/-- The lines that come out for a segment. -/
def convertedLines (icons : IconTable) (segment : Segment) : List Text :=
  (convertSegment icons segment).flatMap Text.lines

theorem lines_convert (normal : '\r' ∉ text) :
    Text.lines (convert icons text) =
      ((Segment.ofText text).map (convertedLines icons)).flatten := by
  obtain ⟨segment, member⟩ : ∃ segment, segment ∈ Segment.ofText text := by
    refine List.exists_mem_of_ne_nil _ fun empty => Text.lines_ne_nil text ?_
    rw [← Segment.flatMap_lines_ofText, empty]
    rfl
  have filled : ((Segment.ofText text).map (convertSegment icons)).flatten ≠ [] := fun empty =>
    convertSegment_ne_nil member
      (List.flatten_eq_nil_iff.1 empty _ (List.mem_map_of_mem member))
  rw [convert_eq_flatten normal, Text.lines_unlines_eq_flatMap filled, List.flatMap_def,
    List.map_flatten, List.flatten_flatten, List.map_map, List.map_map]
  rfl

variable {segment : Segment} (member : segment ∈ Segment.ofText text)
include member

theorem convertedLines_of_fenced (fenced : segment.fenced) :
    convertedLines icons segment = segment.lines := by
  rw [convertedLines, convertSegment, if_pos fenced,
    ← Text.lines_unlines_eq_flatMap (Segment.lines_ne_nil_of_mem_ofText member)]
  exact Segment.lines_toText member

theorem convertedLines_of_prose (prose : segment.fenced = false) :
    convertedLines icons segment =
      ((passages segment.lines).map fun passage => Text.lines (passage.converted icons)).flatten := by
  have outside := convertFrom_eq_map_passagesFrom icons none
    (Segment.opened?_of_mem_ofText member prose)
  rw [State.ofCurrent] at outside
  rw [convertedLines, convertSegment, if_neg (Bool.eq_false_iff.1 prose), outside,
    List.flatMap_map, List.flatMap_def]
  rfl

omit member in
theorem mem_of_line_mem_passages {lines : List Text} {line : Text}
    (inPassages : .line line ∈ passages lines) : line ∈ lines := by
  rw [← flatMap_source_passages lines]
  exact List.mem_flatMap.2 ⟨_, inPassages, List.mem_singleton_self line⟩

/-- A line outside of callouts is prose as it was. -/
theorem ofText_line (prose : segment.fenced = false) {line : Text}
    (inPassages : .line line ∈ passages segment.lines) :
    Segment.ofText line = [⟨false, [line]⟩] := by
  have inLines := mem_of_line_mem_passages inPassages
  have single : '\n' ∉ line :=
    Text.break_not_mem_of_mem_lines (Segment.mem_lines_of_mem_ofText member inLines)
  rw [Segment.ofText, Text.lines_of_not_mem single, Segment.groupFrom_none_cons,
    Segment.opened?_of_mem_ofText member prose line inLines]
  rfl

end Lines

/-! ### Segments -/

section Balanced

variable {icons : IconTable} (icons_single : icons.Lacks '\n') {text : Text}
  (balanced : ∀ callout ∈ ofText text, callout.IsBalanced)
include icons_single balanced

theorem areBalanced_of_mem_passages {segment : Segment} (member : segment ∈ Segment.ofText text)
    (prose : segment.fenced = false) {passage : Passage}
    (inSegment : passage ∈ passages segment.lines) :
    Fence.AreBalanced (Text.lines (passage.converted icons)) := by
  have single : ∀ line ∈ segment.lines, '\n' ∉ line := fun line inLines =>
    Text.break_not_mem_of_mem_lines (Segment.mem_lines_of_mem_ofText member inLines)
  cases passage with
  | line line =>
    have inLines := mem_of_line_mem_passages inSegment
    rw [Passage.converted, Text.lines_of_not_mem (single line inLines)]
    exact Fence.areBalanced_of_plain
      (List.forall_mem_singleton.2 (Segment.opened?_of_mem_ofText member prose line inLines))
  | callout callout source =>
    have inText : callout ∈ ofText text := by
      refine List.mem_flatMap.2 ⟨segment, member, ?_⟩
      rw [prose]
      exact List.mem_filterMap.2 ⟨_, inSegment, rfl⟩
    exact (balanced callout inText).areBalanced_lines icons_single
      (lacks_of_mem_passages (by decide) single inSegment)

theorem areBalanced_convertedLines {segment : Segment}
    (member : segment ∈ (Segment.ofText text).dropLast) :
    Fence.AreBalanced (convertedLines icons segment) := by
  have inText := List.mem_of_mem_dropLast member
  cases fenced : segment.fenced with
  | true =>
    rw [convertedLines_of_fenced inText fenced]
    exact Segment.areBalanced_of_mem_dropLast_ofLines member
  | false =>
    rw [convertedLines_of_prose inText fenced]
    refine Fence.AreBalanced.flatten fun group inGroups => ?_
    obtain ⟨passage, inSegment, rfl⟩ := List.mem_map.1 inGroups
    exact areBalanced_of_mem_passages icons_single balanced inText fenced inSegment

/-- The segments of a converted text are those of its fences and of its converted passages. -/
theorem flatMap_ofText_convert {Item : Type} {view : Segment → List Item}
    (linewise : Segment.IsLinewise view) (normal : '\r' ∉ text) :
    (Segment.ofText (convert icons text)).flatMap view =
      (Segment.ofText text).flatMap fun segment =>
        if segment.fenced then view segment
        else (passages segment.lines).flatMap fun passage =>
          (Segment.ofText (passage.converted icons)).flatMap view := by
  have groups : ∀ group ∈ ((Segment.ofText text).map (convertedLines icons)).dropLast,
      Fence.AreBalanced group := by
    intro group inGroups
    rw [← List.map_dropLast] at inGroups
    obtain ⟨segment, member, rfl⟩ := List.mem_map.1 inGroups
    exact areBalanced_convertedLines icons_single balanced member
  rw [Segment.ofText_eq_ofLines, lines_convert normal,
    Segment.flatMap_ofLines_flatten linewise groups, List.flatMap_map]
  refine List.flatMap_congr fun segment member => ?_
  cases fenced : segment.fenced with
  | true =>
    rw [convertedLines_of_fenced member fenced, Segment.ofLines_of_mem_ofLines member, if_pos rfl]
    exact List.flatMap_singleton _ _
  | false =>
    have parts : ∀ group ∈ ((passages segment.lines).map fun passage =>
        Text.lines (passage.converted icons)).dropLast, Fence.AreBalanced group := by
      intro group inGroups
      obtain ⟨passage, inSegment, rfl⟩ := List.mem_map.1 (List.mem_of_mem_dropLast inGroups)
      exact areBalanced_of_mem_passages icons_single balanced member fenced inSegment
    rw [convertedLines_of_prose member fenced, Segment.flatMap_ofLines_flatten linewise parts,
      List.flatMap_map, if_neg Bool.false_ne_true]
    rfl

end Balanced

/-- The lines that come out for a passage, each with the word whether it is fenced. -/
def Passage.labelled (icons : IconTable) : Passage → List (Bool × Text)
  | .line content => [(false, content)]
  | .callout found _ => (Segment.ofText (found.toHtml icons).write).flatMap Segment.labelled

/-- If the body of every callout closes the fences that it opens, all fences of a prepared text
are fences of the converted text, in order and as they are, and a pass over its prose hands them
on. A line outside of callouts is fenced after the conversion exactly if it was before. -/
theorem convert_keeps_fences {icons : IconTable} (icons_single : icons.Lacks '\n')
    {content : Text} (balanced : ∀ callout ∈ ofText (Prose.prepare content), callout.IsBalanced) :
    let text := Prose.prepare content
    ((Segment.ofText text).filter (·.fenced)).Sublist
        ((Segment.ofText (convert icons text)).filter (·.fenced)) ∧
      (∀ pass output, Prose.map pass (convert icons text) = .ok output →
        ∃ parts, output.1 = Text.unlines parts ∧
          (((Segment.ofText text).filter (·.fenced)).map Segment.toText).Sublist parts) ∧
      (Segment.ofText (convert icons text)).flatMap Segment.labelled =
        (Segment.ofText text).flatMap fun segment =>
          if segment.fenced then segment.labelled
          else (passages segment.lines).flatMap (Passage.labelled icons) := by
  intro text
  have normal : '\r' ∉ text := Prose.return_not_mem_prepare content
  have kept : ((Segment.ofText text).filter (·.fenced)).Sublist
      ((Segment.ofText (convert icons text)).filter (·.fenced)) := by
    rw [← Segment.flatMap_fences, ← Segment.flatMap_fences,
      flatMap_ofText_convert icons_single balanced Segment.isLinewise_fences normal]
    refine List.Sublist.flatMap_right _ fun segment member => ?_
    cases fenced : segment.fenced with
    | true => exact List.Sublist.refl _
    | false =>
      rw [Segment.fences, fenced]
      exact List.nil_sublist _
  refine ⟨kept, fun pass output passed => ?_, ?_⟩
  · obtain ⟨parts, segments, same⟩ := bind_eq_ok.1 passed
    obtain rfl := Except.ok.inj same
    exact ⟨parts.map (·.1), rfl,
      (kept.map Segment.toText).trans (Prose.sublist_of_mapM_mapSegment segments)⟩
  · rw [flatMap_ofText_convert icons_single balanced Segment.isLinewise_labelled normal]
    refine List.flatMap_congr fun segment member => ?_
    cases fenced : segment.fenced with
    | true => rfl
    | false =>
      rw [if_neg Bool.false_ne_true, if_neg Bool.false_ne_true]
      refine List.flatMap_congr fun passage inSegment => ?_
      cases passage with
      | line line =>
        rw [Passage.converted, ofText_line member fenced inSegment]
        rfl
      | callout callout source => rfl

/-- A fence in the body of a callout is closed there, and the one below the callout stays. -/
theorem convert_keeps_fences_note :
    let content : Text := "> [!note]\n> ~~~\n> a\n> ~~~\n\n```\n[[x]]\n```"
    IconTable.standard.Lacks '\n' ∧
      (∀ callout ∈ ofText (Prose.prepare content), callout.IsBalanced) ∧
      ((Segment.ofText (Prose.prepare content)).filter (·.fenced)).Sublist
        ((Segment.ofText (convert .standard (Prose.prepare content))).filter (·.fenced)) := by
  intro content
  have single : IconTable.standard.Lacks '\n' := IconTable.lacks_standard (by decide)
  have balanced : ∀ callout ∈ ofText (Prose.prepare content), callout.IsBalanced := by
    decide +kernel
  exact ⟨single, balanced, (convert_keeps_fences single balanced).1⟩

/-- A body that leaves a fence open takes in the fence below the callout. -/
theorem exists_fence_lost :
    let text := Prose.prepare "> [!note]\n> ```\n\n```\n[[x]]\n```"
    ¬((Segment.ofText text).filter (·.fenced)).Sublist
      ((Segment.ofText (convert .standard text)).filter (·.fenced)) := by
  decide +kernel

end Callout

end CampaignPress
