/-
This file shows that the text of a note without null characters is rewritten
without a fault. The null character marks placeholders: none comes into a text
with the boxes of callouts, so every placeholder that is found was put there for
a code span, and the passes over the prose between leave it whole.
-/
import CampaignPress.Mechanics.Unit
import CampaignPress.Proofs.Prose.CodeSpan
import CampaignPress.Proofs.Prose.Embed
import CampaignPress.Proofs.Prose.Passage

namespace CampaignPress

/-! ### Segments -/

namespace Segment

variable {text : Text} {segment : Segment} (member : segment ∈ ofText text)
include member

/-- No segment is longer than its text. -/
theorem length_toText_le : segment.toText.length ≤ text.length := by
  obtain ⟨before, after, same⟩ := List.append_of_mem member
  have whole := flatMap_lines_ofText text
  rw [same, List.flatMap_append, List.flatMap_cons] at whole
  have filled := lines_ne_nil_of_mem_ofText member
  have part := Mechanics.length_unlines_succ filled
  have sum := congrArg Mechanics.weight whole
  rw [Mechanics.weight_append, Mechanics.weight_append,
    ← Mechanics.length_unlines_succ (Text.lines_ne_nil text), Text.unlines_lines] at sum
  rw [toText]
  omega

theorem not_mem_toText {d : Char} (other : d ≠ '\n') (absent : d ∉ text) : d ∉ segment.toText := by
  intro inSegment
  obtain ⟨line, inLines, inLine⟩ := (Text.mem_unlines other).1 inSegment
  exact absent (Text.mem_of_mem_lines (mem_lines_of_mem_ofText member inLines) inLine)

end Segment

/-! ### Conversion -/

/-- The boxes of callouts hold no control characters that neither the text nor the icons hold. -/
theorem Callout.not_mem_convert {d : Char} (control : d.toNat < 32) (other : d ≠ '\n')
    {icons : IconTable} (icons_lack : icons.Lacks d) {text : Text} (normal : '\r' ∉ text)
    (absent : d ∉ text) : d ∉ convert icons text := by
  rw [convert_eq_flatten normal, Text.mem_unlines other]
  rintro ⟨part, inParts, inPart⟩
  obtain ⟨parts, inSegments, inParts⟩ := List.mem_flatten.1 inParts
  obtain ⟨segment, member, rfl⟩ := List.mem_map.1 inSegments
  have lines : ∀ line ∈ segment.lines, d ∉ line := fun line inLines inLine =>
    absent (Text.mem_of_mem_lines (Segment.mem_lines_of_mem_ofText member inLines) inLine)
  rw [convertSegment] at inParts
  split at inParts
  · exact lines part inParts inPart
  · rename_i prose
    have passages := convertFrom_eq_map_passagesFrom icons none
      (Segment.opened?_of_mem_ofText member (Bool.eq_false_of_not_eq_true prose))
    rw [State.ofCurrent] at passages
    rw [passages] at inParts
    obtain ⟨passage, inPassages, rfl⟩ := List.mem_map.1 inParts
    cases passage with
    | line line =>
      refine lines line ?_ inPart
      rw [← flatMap_source_passages segment.lines]
      exact List.mem_flatMap.2 ⟨_, inPassages, List.mem_singleton_self line⟩
    | callout callout source =>
      exact not_mem_write_toHtml control icons_lack (lacks_of_mem_passages control lines inPassages)
        other inPart

/-! ### Sites -/

/-- A site of notes, a base, images and addresses that hold no mark of placeholders. -/
theorem Site.isUnmarked_ofNotes {notes : List Note} {base attachments : Text}
    (slugs : ∀ note ∈ notes, '\x00' ∉ note.slug) (unmarkedBase : '\x00' ∉ base)
    (unmarkedAttachments : '\x00' ∉ attachments) (icons : IconTable)
    (engine : Markdown.Engine := .standard) (stack : Stack := .standard) :
    (ofNotes notes base attachments icons engine stack).IsUnmarked where
  base member := unmarkedBase (Text.mem_of_mem_dropEnd member)
  attachments := not_mem_attachments (by decide) unmarkedAttachments notes base icons
  slugs name slug found := by
    obtain ⟨note, known, rfl⟩ := Index.exists_of_slug? found
    exact slugs note known

/-! ### Rewriting -/

namespace Prose

variable {site : Site} (unmarked : site.IsUnmarked)
include unmarked

theorem succeeds_mapSegment {segment : Segment} (absent : '\x00' ∉ segment.toText)
    (few : segment.toText.length ≤ 10 ^ digitLimit) :
    Succeeds (mapSegment (rewriteAll site) segment) := by
  rw [mapSegment]
  split
  · exact .ok _
  · have restored := CodeSpan.succeeds_restore_hide absent few fun _ _ sound =>
      sound_rewriteAll unmarked sound
    exact restored.bind fun _ => .ok _

/-- A text without null characters is rewritten. -/
theorem succeeds_rewrite (icons_lack : site.icons.Lacks '\x00') {text : Text}
    (absent : '\x00' ∉ text)
    (few : (Callout.convert site.icons (prepare text)).length ≤ 10 ^ digitLimit) :
    Succeeds (rewrite site text) := by
  have prepared : '\x00' ∉ prepare text := fun member =>
    (mem_prepare member).elim (by decide) fun found => absent found.1
  have converted := Callout.not_mem_convert (by decide) (by decide) icons_lack
    (return_not_mem_prepare text) prepared
  refine (succeeds_mapM fun segment member => ?_).bind fun _ => .ok _
  exact succeeds_mapSegment unmarked (Segment.not_mem_toText member (by decide) converted)
    ((Segment.length_toText_le member).trans few)

end Prose

end CampaignPress
