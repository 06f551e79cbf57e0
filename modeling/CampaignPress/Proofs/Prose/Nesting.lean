/-
This file tells which headers are left after callouts are converted. The lines
around a body are never quoted, and quoted lines lose one mark. So if every body
closes the fences that it opens, the headers left are those in the bodies: one
conversion takes away one level of nesting. A text is left as it is exactly if
no header stands outside of its fences.
-/
import CampaignPress.Proofs.Prose.Conversion
import CampaignPress.Proofs.Prose.Division
import CampaignPress.Proofs.Prose.Rewrite

namespace CampaignPress

namespace Text

theorem ended_eq_unlines {lines : List Text} (filled : lines ≠ []) :
    ended lines = unlines lines ++ ['\n'] := by
  have last := unlines_append_eq filled (List.cons_ne_nil [] [])
  rw [unlines_append_singleton, List.append_nil] at last
  exact last

end Text

namespace Segment

/-! ### Headers -/

/-- The callouts that the lines of a segment open. What is fenced opens none. -/
def headers (segment : Segment) : List Callout :=
  if segment.fenced then [] else segment.lines.filterMap Callout.ofHeader?

theorem flatMap_headers_prose (lines : List Text) :
    (prose lines).flatMap headers = lines.filterMap Callout.ofHeader? := by
  rw [prose]
  split
  · rename_i empty
    rw [List.isEmpty_iff.1 empty]
    rfl
  · exact List.flatMap_singleton _ _

theorem isLinewise_headers : IsLinewise headers := by
  intro first second
  rw [flatMap_headers_prose, flatMap_headers_prose, flatMap_headers_prose, List.filterMap_append]

end Segment

namespace Callout

/-- The callouts that the lines of a text open outside of its fences. -/
def headers (text : Text) : List Callout := (Segment.ofText text).flatMap Segment.headers

/-! ### Headers in boxes -/

theorem ofHeader?_of_head? {line : Text} {c : Char} (first : line.head? = some c)
    (other : c ≠ '>') : ofHeader? line = none := by
  refine Option.eq_none_iff_forall_ne_some.2 fun opened opens => ?_
  obtain ⟨rest, quoted, -⟩ := Option.bind_eq_some_iff.1 opens
  rw [Text.after?_eq_some_iff.1 quoted] at first
  exact other (Option.some.inj first).symm

/-- Lines that neither open a fence nor are headers. -/
theorem flatMap_headers_of_plain {lines : List Text}
    (plain : ∀ line ∈ lines, Fence.opened? line = none ∧ ofHeader? line = none) :
    (Segment.ofLines lines).flatMap Segment.headers = [] := by
  rw [Segment.ofLines, Segment.groupFrom_none_of_plain (fun line member => (plain line member).1),
    Segment.flatMap_headers_prose, List.filterMap_eq_nil_iff]
  exact fun line member => (plain line member).2

/-- The headers in a box are those in the body of its callout. -/
theorem headers_toHtml {icons : IconTable} (icons_single : icons.Lacks '\n') {callout : Callout}
    (single : callout.Lacks '\n') (balanced : callout.IsBalanced) :
    headers (callout.toHtml icons).write = headers (Text.unlines callout.body) := by
  have frame : ∀ line ∈ (callout.frame icons).map Html.write ++ [[]],
      Fence.opened? line = none ∧ ofHeader? line = none := by
    refine List.forall_mem_append.2 ⟨fun line member => ?_, List.forall_mem_singleton.2 ⟨rfl, rfl⟩⟩
    obtain ⟨tags, inFrame, rfl⟩ := List.mem_map.1 member
    exact ⟨Fence.opened?_of_head? (head?_of_mem_frame inFrame) (by decide),
      ofHeader?_of_head? (head?_of_mem_frame inFrame) (by decide)⟩
  have closing : ∀ line ∈ [[], closingTag, closingTag],
      Fence.opened? line = none ∧ ofHeader? line = none := by decide
  have body : Fence.AreBalanced callout.bodyLines := by
    rw [bodyLines_eq single]
    split
    · rfl
    · exact balanced
  have groups : ∀ group ∈ [(callout.frame icons).map Html.write ++ [[]], callout.bodyLines,
      [[], closingTag, closingTag]].dropLast, Fence.AreBalanced group := by
    refine List.forall_mem_cons.2 ⟨?_, List.forall_mem_singleton.2 body⟩
    exact Fence.areBalanced_of_plain fun line member => (frame line member).1
  have split := Segment.flatMap_ofLines_flatten Segment.isLinewise_headers groups
  simp only [List.flatMap_cons, List.flatMap_nil, flatMap_headers_of_plain frame,
    flatMap_headers_of_plain closing, List.nil_append, List.append_nil] at split
  have whole : (callout.frame icons).map Html.write ++
      [] :: (callout.bodyLines ++ [[], closingTag, closingTag]) =
        [(callout.frame icons).map Html.write ++ [[]], callout.bodyLines,
          [[], closingTag, closingTag]].flatten := by
    simp
  rw [headers, Segment.ofText_eq_ofLines, lines_write_toHtml icons_single single, whole]
  exact split

/-! ### Headers in converted texts -/

theorem ofHeader?_of_line_mem {lines : List (Bool × Text)} {parts : List Passage}
    (divided : Divided lines parts) (prose : ∀ entry ∈ lines, entry.1 = false) {line : Text}
    (member : .line line ∈ parts) : ofHeader? line = none := by
  induction divided with
  | nil => exact absurd member List.not_mem_nil
  | fenced => exact nomatch prose _ List.mem_cons_self
  | line other _ inductionHypothesis =>
    rcases List.mem_cons.1 member with same | later
    · obtain rfl := Passage.line.inj same
      exact other
    · exact inductionHypothesis (List.forall_mem_cons.1 prose).2 later
  | callout _ _ _ inductionHypothesis =>
    rcases List.mem_cons.1 member with same | later
    · exact nomatch same
    · exact inductionHypothesis (fun entry inRest => (List.forall_mem_cons.1 prose).2 entry
        (List.mem_append_right _ inRest)) later

theorem ofHeader?_of_line_mem_passages {lines : List Text} {line : Text}
    (member : .line line ∈ passages lines) : ofHeader? line = none := by
  refine ofHeader?_of_line_mem (divided_prose lines) (fun entry inLines => ?_) member
  obtain ⟨_, -, rfl⟩ := List.mem_map.1 inLines
  rfl

/-- Every level of callouts whose bodies close their fences is converted by itself: the headers
left are those in the bodies. -/
theorem headers_convert {icons : IconTable} (icons_single : icons.Lacks '\n') {text : Text}
    (normal : '\r' ∉ text) (balanced : ∀ callout ∈ ofText text, callout.IsBalanced) :
    headers (convert icons text) =
      (ofText text).flatMap fun callout => headers (Text.unlines callout.body) := by
  rw [headers, flatMap_ofText_convert icons_single balanced Segment.isLinewise_headers normal,
    ofText, List.flatMap_assoc]
  refine List.flatMap_congr fun segment member => ?_
  cases fenced : segment.fenced with
  | true =>
    rw [if_pos rfl, if_pos rfl, Segment.headers, if_pos fenced]
    rfl
  | false =>
    rw [if_neg Bool.false_ne_true, if_neg Bool.false_ne_true, List.filterMap_eq_flatMap_toList,
      List.flatMap_assoc]
    refine List.flatMap_congr fun passage inSegment => ?_
    cases passage with
    | line line =>
      rw [Passage.converted, ofText_line member fenced inSegment, List.flatMap_singleton,
        Segment.headers, if_neg Bool.false_ne_true, List.filterMap_cons,
        ofHeader?_of_line_mem_passages inSegment]
      rfl
    | callout callout source =>
      have single : callout.Lacks '\n' := lacks_of_mem_passages (by decide) (fun line inLines =>
        Text.break_not_mem_of_mem_lines (Segment.mem_lines_of_mem_ofText member inLines)) inSegment
      have inText : callout ∈ ofText text := by
        refine List.mem_flatMap.2 ⟨segment, member, ?_⟩
        rw [fenced]
        exact List.mem_filterMap.2 ⟨_, inSegment, rfl⟩
      exact (headers_toHtml icons_single single (balanced callout inText)).trans
        (List.flatMap_singleton _ _).symm

/-! ### Texts that are left as they are -/

theorem headers_eq_nil_iff {text : Text} : headers text = [] ↔
    ∀ entry ∈ (Segment.ofText text).flatMap Segment.labelled,
      entry.1 = false → ofHeader? entry.2 = none := by
  rw [headers, List.flatMap_eq_nil_iff, List.forall_mem_flatMap]
  refine forall₂_congr fun segment _ => ?_
  rw [Segment.headers, Segment.labelled, List.forall_mem_map]
  cases segment.fenced with
  | true => simp
  | false => simp [List.filterMap_eq_nil_iff]

/-- Without headers every line stays. -/
theorem Divided.eq_map_line {lines : List (Bool × Text)} {parts : List Passage}
    (divided : Divided lines parts)
    (headless : ∀ entry ∈ lines, entry.1 = false → ofHeader? entry.2 = none) :
    parts = lines.map fun entry => .line entry.2 := by
  induction divided with
  | nil => rfl
  | fenced _ inductionHypothesis =>
    rw [List.map_cons, ← inductionHypothesis (List.forall_mem_cons.1 headless).2]
  | line _ _ inductionHypothesis =>
    rw [List.map_cons, ← inductionHypothesis (List.forall_mem_cons.1 headless).2]
  | callout opens =>
    exact nomatch opens.symm.trans ((List.forall_mem_cons.1 headless).1 rfl)

/-- A box begins with a tag, so it is not the callout that it is made of. -/
theorem Divided.headless {icons : IconTable} {lines : List (Bool × Text)} {parts : List Passage}
    (divided : Divided lines parts)
    (same : Text.ended (parts.map (Passage.converted icons)) =
      Text.ended (parts.flatMap Passage.source)) :
    ∀ entry ∈ lines, entry.1 = false → ofHeader? entry.2 = none := by
  induction divided with
  | nil => exact fun _ none => absurd none List.not_mem_nil
  | @fenced line rest parts _ inductionHypothesis =>
    refine List.forall_mem_cons.2 ⟨by simp, inductionHypothesis ?_⟩
    simpa [Passage.converted, Passage.source] using same
  | @line line rest parts other _ inductionHypothesis =>
    refine List.forall_mem_cons.2 ⟨fun _ => other, inductionHypothesis ?_⟩
    simpa [Passage.converted, Passage.source] using same
  | @callout header opened run rest parts opens _ _ _ =>
    obtain ⟨after, quoted, -⟩ := Option.bind_eq_some_iff.1 opens
    rw [Text.after?_eq_some_iff.1 quoted] at same
    exact absurd (Option.some.inj (congrArg List.head? same)) (by decide)

/-- Converting a text changes nothing exactly if no header stands outside of its fences. -/
theorem convert_eq_self_iff {icons : IconTable} {text : Text} (normal : '\r' ∉ text) :
    convert icons text = text ↔ headers text = [] := by
  have output : convert icons text =
      Text.unlines ((Passage.ofText text).map (Passage.converted icons)) := by
    rw [convert_eq_flatten normal, map_converted_ofText]
  have source : Text.unlines ((Passage.ofText text).flatMap Passage.source) = text := by
    rw [flatMap_source_ofText, Text.unlines_lines]
  rw [headers_eq_nil_iff]
  constructor
  · intro same
    have lines : (Passage.ofText text).flatMap Passage.source ≠ [] := by
      rw [flatMap_source_ofText]
      exact Text.lines_ne_nil text
    have parts : (Passage.ofText text).map (Passage.converted icons) ≠ [] := fun empty =>
      lines (by rw [List.map_eq_nil_iff.1 empty, List.flatMap_nil])
    have ended : Text.ended ((Passage.ofText text).map (Passage.converted icons)) =
        Text.ended ((Passage.ofText text).flatMap Passage.source) := by
      rw [Text.ended_eq_unlines parts, Text.ended_eq_unlines lines, ← output, source, same]
    exact (divided_ofText text).headless ended
  · intro headless
    have stays := (divided_ofText text).eq_map_line headless
    have same : (Passage.ofText text).map (Passage.converted icons) =
        (Passage.ofText text).flatMap Passage.source := by
      rw [stays, List.map_map, List.flatMap_map]
      exact List.map_eq_flatMap
    rw [output, same, source]

/-! ### Converting twice -/

theorem return_not_mem_normalizeBreaks (text : Text) : '\r' ∉ Text.normalizeBreaks text :=
  fun member => (Text.mem_normalizeBreaks member).elim (by decide) fun found => found.2 rfl

theorem convert_normalizeBreaks (icons : IconTable) (text : Text) :
    convert icons (Text.normalizeBreaks text) = convert icons text := by
  rw [convert, Text.normalizeBreaks_of_not_mem (return_not_mem_normalizeBreaks text)]
  rfl

/-- If the body of every callout closes the fences that it opens, the headers that one conversion
leaves outside of fences are those in the bodies. If there are none, and only then, converting
again changes nothing. -/
theorem convert_convert_iff {icons : IconTable} (single : icons.Lacks '\n')
    (breakless : icons.Lacks '\r') {text : Text}
    (balanced : ∀ callout ∈ ofText (Text.normalizeBreaks text), callout.IsBalanced) :
    let once := convert icons text
    headers once = ((ofText (Text.normalizeBreaks text)).flatMap fun callout =>
        headers (Text.unlines callout.body)) ∧
      (convert icons once = once ↔ ∀ callout ∈ ofText (Text.normalizeBreaks text),
        headers (Text.unlines callout.body) = []) := by
  intro once
  have normal := return_not_mem_normalizeBreaks text
  have left := headers_convert single normal balanced
  rw [convert_normalizeBreaks] at left
  have normalOnce : '\r' ∉ once := by
    have kept := not_mem_convert (by decide) (by decide) breakless normal normal
    rwa [convert_normalizeBreaks] at kept
  refine ⟨left, ?_⟩
  rw [convert_eq_self_iff normalOnce, left, List.flatMap_eq_nil_iff]

/-- A quoted fence hides the header in it from both conversions. -/
theorem convert_convert_iff_fence :
    let text : Text := "> [!note] T\n> ~~~\n> > [!tip] x\n> ~~~\n> a\r\n\r\n> b"
    let icons := IconTable.standard
    icons.Lacks '\n' ∧ icons.Lacks '\r' ∧
      (∀ callout ∈ ofText (Text.normalizeBreaks text), callout.IsBalanced) ∧
      convert icons (convert icons text) = convert icons text ∧
      headers (convert icons text) = [] := by
  intro text icons
  have single : icons.Lacks '\n' := IconTable.lacks_standard (by decide)
  have breakless : icons.Lacks '\r' := IconTable.lacks_standard (by decide)
  have balanced : ∀ callout ∈ ofText (Text.normalizeBreaks text), callout.IsBalanced := by
    decide +kernel
  have bodies : ∀ callout ∈ ofText (Text.normalizeBreaks text),
      headers (Text.unlines callout.body) = [] := by
    decide +kernel
  obtain ⟨left, same⟩ := convert_convert_iff single breakless balanced
  exact ⟨single, breakless, balanced, same.2 bodies, left.trans (List.flatMap_eq_nil_iff.2 bodies)⟩

/-- The header of a quoted callout comes out as a header. -/
theorem exists_header_left :
    let once := convert .standard "> [!note]\n> > [!tip] x"
    headers once ≠ [] ∧ convert .standard once ≠ once := by
  decide +kernel

end Callout

end CampaignPress
