/-
This file shows that rewriting links keeps texts sound. The brackets, bars and
marks that a link is cut at are no part of a placeholder, so the parts of a link
are sound, and what is written for it puts sound parts between addresses, which
hold no marks.
-/
import CampaignPress.Proofs.Icon
import CampaignPress.Proofs.Index
import CampaignPress.Proofs.Link
import CampaignPress.Proofs.Path
import CampaignPress.Proofs.Prose.Scan
import CampaignPress.Proofs.Text.Case

namespace CampaignPress

open CodeSpan (Sound isInner)

/-! ### Links with sound parts -/

namespace WikiLink

variable {after : Text} {link : WikiLink}

/-- A link whose parts are sound. -/
structure IsSound (count : Nat) (link : WikiLink) : Prop where
  target : Sound count link.target
  shown : ∀ shown ∈ link.shown, Sound count shown

theorem isSound_of_toText {count : Nat} (sound : Sound count (link.toText ++ after)) :
    link.IsSound count ∧ Sound count after := by
  obtain ⟨target, shown⟩ := link
  have opened : Sound count (target ++ (shown.map ('|' :: ·)).getD [] ++ [']', ']'] ++ after) :=
    ((sound.of_cons rfl).of_cons rfl)
  cases shown with
  | none =>
    have parts : Sound count (target ++ ']' :: ']' :: after) := by simpa using opened
    obtain ⟨left, right⟩ := parts.of_append_cons rfl
    exact ⟨⟨left, by simp⟩, right.of_cons rfl⟩
  | some shown =>
    have parts : Sound count (target ++ '|' :: (shown ++ ']' :: ']' :: after)) := by
      simpa using opened
    obtain ⟨left, right⟩ := parts.of_append_cons rfl
    obtain ⟨middle, last⟩ := right.of_append_cons rfl
    exact ⟨⟨left, by simpa using middle⟩, last.of_cons rfl⟩

end WikiLink

namespace Prose

/-! ### Rewriting -/

section Rewriting

variable {cut? : Text → Option (WikiLink × Text)} (cuts : Cuts cut?)
include cuts

theorem Cuts.isSound {count : Nat} {text after : Text} {link : WikiLink}
    (sound : Sound count text) (found : cut? text = some (link, after)) :
    link.IsSound count ∧ Sound count after := by
  obtain ⟨-, before, mark, same⟩ := cuts.shape found
  rw [same] at sound
  rcases mark with rfl | rfl
  · exact WikiLink.isSound_of_toText sound
  · exact WikiLink.isSound_of_toText (sound.of_cons rfl)

/-- If a sound text is written for every link, what comes out is sound. -/
theorem Cuts.sound_rewriteLinks {count : Nat} {write : WikiLink → Text} {text : Text}
    (writes : ∀ link, link.IsSound count → (∃ text after, cut? text = some (link, after)) →
      Sound count (write link))
    (sound : Sound count text) : Sound count (rewriteLinks cut? write text) := by
  induction size : text.length using Nat.strongRecOn generalizing text with
  | ind length inductionHypothesis =>
    cases sound with
    | nil => exact .nil
    | @plain c rest other sound =>
      have whole : Sound count (c :: rest) := .plain other sound
      cases found : cut? (c :: rest) with
      | none =>
        rw [rewriteLinks_of_none found]
        exact .plain other (inductionHypothesis _ (by simp [← size]) sound rfl)
      | some cut =>
        obtain ⟨link, after⟩ := cut
        obtain ⟨parts, later⟩ := cuts.isSound whole found
        have shorter : after.length < length := size ▸ cuts.length_lt found
        rw [cuts.rewriteLinks_of_some found]
        exact (writes link parts ⟨_, _, found⟩).append (inductionHypothesis _ shorter later rfl)
    | @span position rest known sound =>
      have shorter : rest.length < length := by
        rw [← size, List.length_append]
        exact Nat.lt_add_of_pos_left (Nat.succ_pos _)
      rw [cuts.rewriteLinks_inner fun c => CodeSpan.isInner_of_mem_placeholder]
      exact .span known (inductionHypothesis _ shorter sound rfl)

end Rewriting

end Prose

/-! ### Addresses -/

theorem Site.not_mem_attachments {c : Char} (noSlash : c ≠ '/') {attachments : Text}
    (absent : c ∉ attachments) (notes : List Note) (base : Text) (icons : IconTable) :
    c ∉ (ofNotes notes base attachments icons).attachments := by
  intro member
  rcases List.mem_cons.1 member with same | inside
  · exact noSlash same
  · exact absent ((List.dropWhile_suffix _).subset (Text.mem_of_mem_dropEnd inside))

/-- A site whose addresses hold no mark of placeholders. -/
structure Site.IsUnmarked (site : Site) : Prop where
  base : '\x00' ∉ site.base
  attachments : '\x00' ∉ site.attachments
  slugs : ∀ name slug, site.index.slug? name = some slug → '\x00' ∉ slug

namespace Prose

theorem sound_literal {count : Nat} (chars : List Char) (graphic : Html.isGraphic chars) :
    Sound count (String.ofList chars).toList :=
  .of_not_mem (Html.not_mem_of_isGraphic (isGraphic_toList chars graphic) (by decide))

theorem unmarked_escape {text : Text} (unmarked : '\x00' ∉ text) : '\x00' ∉ Html.escape text :=
  fun member => unmarked (Html.mem_of_mem_escape (by decide) member)

/-- No character of a placeholder is escaped. -/
theorem escapeChar_of_isInner {c : Char} (inner : isInner c) : Html.escapeChar c = [c] := by
  rw [Html.escapeChar.eq_def]
  split <;> first | rfl | exact absurd inner (by decide)

theorem sound_escape {count : Nat} {text : Text} (sound : Sound count text) :
    Sound count (Html.escape text) := by
  refine sound.flatMap (fun c inner => escapeChar_of_isInner inner) fun c other member => ?_
  have kept : '\x00' ∈ Html.escape [c] := by
    rw [Html.escape, List.flatMap_singleton]
    exact member
  exact other (List.mem_singleton.1 (Html.mem_of_mem_escape (by decide) kept)).symm

/-! ### Images -/

theorem isLetter_of_isLetterAnyCase {letter c : Char}
    (small : 97 ≤ letter.toNat ∧ letter.toNat ≤ 122) (matching : Text.isLetterAnyCase letter c) :
    65 ≤ c.toNat ∧ Text.isBlank c = false := by
  simp only [Text.isLetterAnyCase, Bool.or_eq_true, Bool.and_eq_true, decide_eq_true_eq] at matching
  have blank : (65 ≤ c.toNat ∧ c.toNat ≤ 122) ∨ c.toNat = 8490 → Text.isBlank c = false := by
    intro range
    simp only [Text.isBlank, Bool.or_eq_false_iff, Bool.and_eq_false_imp, decide_eq_true_eq,
      decide_eq_false_iff_not]
    omega
  rcases matching with (((rfl | capital) | ⟨-, rfl⟩) | ⟨-, rfl | rfl⟩) | ⟨-, kelvin⟩
  · exact ⟨by omega, blank (.inl (by omega))⟩
  · exact ⟨by omega, blank (.inl (by omega))⟩
  · decide
  · decide
  · decide
  · exact ⟨by omega, blank (.inr kelvin)⟩

theorem isLetter_of_afterAnyCase? {known ending : Text}
    (small : ∀ letter ∈ known, 97 ≤ letter.toNat ∧ letter.toNat ≤ 122)
    (whole : Text.afterAnyCase? known ending = some []) :
    ∀ c ∈ ending, 65 ≤ c.toNat ∧ Text.isBlank c = false := by
  induction known generalizing ending with
  | nil =>
    obtain rfl := Option.some.inj whole
    exact fun c none => absurd none List.not_mem_nil
  | cons letter known inductionHypothesis =>
    rw [List.forall_mem_cons] at small
    cases ending with
    | nil => exact fun c none => absurd none List.not_mem_nil
    | cons c ending =>
      rw [Text.afterAnyCase?] at whole
      split at whole
      · rename_i matching
        exact List.forall_mem_cons.2
          ⟨isLetter_of_isLetterAnyCase small.1 matching, inductionHypothesis small.2 whole⟩
      · exact nomatch whole

/-- The name of an image ends in a dot and letters. -/
theorem exists_of_isImageName {target : Text} (image : isImageName target) :
    ∃ before ending, target = before ++ '.' :: ending ∧ '.' ∉ ending ∧ ending ≠ [] ∧
      ∀ c ∈ ending, 65 ≤ c.toNat ∧ Text.isBlank c = false := by
  rw [isImageName] at image
  split at image
  · rename_i before ending cut
    obtain ⟨same, last⟩ := Text.cutAtLast_eq_some_iff.1 cut
    rw [Bool.and_eq_true] at image
    obtain ⟨known, inEndings, whole⟩ := List.any_eq_true.1 image.2
    have endings : ∀ known ∈ imageEndings, known ≠ [] ∧
        known.all fun letter => decide (97 ≤ letter.toNat ∧ letter.toNat ≤ 122) := by
      decide
    obtain ⟨nonempty, small⟩ := endings known inEndings
    have letters := isLetter_of_afterAnyCase?
      (fun letter member => of_decide_eq_true (List.all_eq_true.1 small letter member))
      (of_decide_eq_true whole)
    refine ⟨before, ending, same, last, ?_, letters⟩
    rintro rfl
    cases known with
    | nil => exact nonempty rfl
    | cons letter known => exact nomatch of_decide_eq_true whole
  · exact nomatch image

/-- The ending of an image's path is one that images are known by, so it holds no mark. -/
theorem unmarked_ending {target : Text} (image : isImageName target) :
    '\x00' ∉ (Path.ofText (Text.trim target)).ending := by
  obtain ⟨before, ending, same, noDot, nonempty, letters⟩ := exists_of_isImageName image
  have trimmed : Text.trim target = before.dropWhile Text.isBlank ++ '.' :: ending := by
    rw [same]
    refine Text.trim_append_word before (List.cons_ne_nil _ _) (fun c found => ?_) fun c found => ?_
    · obtain rfl := Option.some.inj found
      decide
    · rw [List.getLast?_cons_of_ne_nil nonempty] at found
      exact (letters c (List.mem_of_getLast? found)).2
  have large : ∀ c, c.toNat < 65 → c ∉ ending := fun c small member =>
    absurd (letters c member).1 (Nat.not_le.2 small)
  rw [trimmed]
  rcases Path.ending_ofText (before.dropWhile Text.isBlank) (large '/' (by decide)) noDot nonempty
    with none | some
  · rw [none]
    exact List.not_mem_nil
  · rw [some, List.mem_cons, not_or]
    exact ⟨by decide, large '\x00' (by decide)⟩

theorem Target.not_mem_slug {site : Site} {c : Char} (other : Slug.isPlain c = false)
    (noSlash : c ≠ '/') (slugs : ∀ name slug, site.index.slug? name = some slug → c ∉ slug)
    (target : Target) : c ∉ target.slug site := by
  rw [Target.slug]
  split
  · exact List.not_mem_nil
  · cases found : site.index.slug? target.note with
    | none =>
      rw [Option.getD_none]
      exact Slug.not_mem_ofPath other noSlash target.note
    | some slug => exact slugs _ _ found

/-- The style of an image is written in digits and in the letters of its properties. -/
theorem not_mem_imageStyle {c : Char} (noDigit : Text.isDigit c = false)
    (other : c ∉ "width: px;display: block; margin: 0 auto;".toList) (options : List Text) :
    c ∉ imageStyle options := by
  have properties : c ∉ "width: ".toList ++ "px;".toList ++
      "display: block; margin: 0 auto;".toList := other
  rw [List.mem_append, List.mem_append, not_or, not_or] at properties
  have size : ∀ size, options.find? isSize = some size → c ∉ size := by
    intro size found member
    have digits := List.find?_some found
    rw [isSize, Bool.and_eq_true] at digits
    exact Bool.false_ne_true (noDigit.symm.trans (List.all_eq_true.1 digits.2 _ member))
  have aligned : ∀ width : Text, c ∉ width →
      c ∉ (if options.find? isAlignment = some "center".toList then
        width ++ "display: block; margin: 0 auto;".toList else width) := by
    intro width notWidth
    split
    · rw [List.mem_append, not_or]
      exact ⟨notWidth, properties.2⟩
    · exact notWidth
  refine aligned _ ?_
  cases found : options.find? isSize with
  | none => exact List.not_mem_nil
  | some width =>
    simp only [List.mem_append, not_or]
    exact ⟨⟨properties.1.1, size _ found⟩, properties.1.2⟩

theorem not_mem_imageAddress {site : Site} {c : Char} (other : Slug.isPlain c = false)
    (noSlash : c ≠ '/') (base : c ∉ site.base) (attachments : c ∉ site.attachments) {name : Text}
    (ending : c ∉ Text.lower (Path.ofText name).ending) : c ∉ imageAddress site name := by
  rw [imageAddress]
  simp only [List.mem_append, not_or]
  exact ⟨⟨⟨⟨base, attachments⟩, by simpa using noSlash⟩, Slug.not_mem_segment other _⟩, ending⟩

section Sound

variable {count : Nat} {site : Site} (unmarked : site.IsUnmarked)

theorem sound_stem {name : Text} (sound : Sound count name) :
    Sound count (Path.ofText name).stem := by
  have slashes : ∀ c, (c == '/') = true → isInner c = false := by
    intro c same
    rw [beq_iff_eq.1 same]
    rfl
  have last : Sound count (Path.ofText name).name := by
    rw [Path.name]
    cases found : (Path.ofText name).names.getLast? with
    | none => exact .nil
    | some last =>
      have member := (List.mem_filter.1 (List.mem_of_getLast? found)).1
      exact sound.of_mem_splitWhere slashes member
  rw [Path.stem, Path.cutEnding]
  split
  · rename_i before after cut
    rw [(Text.cutAtLast_eq_some_iff.1 cut).1] at last
    split
    · rw [← (Text.cutAtLast_eq_some_iff.1 cut).1] at last
      exact last
    · exact (last.of_append_cons rfl).1
  · exact last

include unmarked

theorem unmarked_imageAddress {target : Text} (image : isImageName target) :
    '\x00' ∉ imageAddress site (Text.trim target) :=
  not_mem_imageAddress (by decide) (by decide) unmarked.base unmarked.attachments fun member =>
    unmarked_ending image (Text.mem_of_mem_lower (by decide) member)

theorem sound_writeImage {link : WikiLink} (sound : link.IsSound count)
    (image : isImageName link.target) : Sound count (writeImage site link) := by
  have address := unmarked_imageAddress unmarked image
  have stem : Sound count (Path.ofText (Text.trim link.target)).stem := sound_stem sound.target.trim
  rw [writeImage]
  dsimp only
  split
  · refine .append (.append (.append (.append ?_ stem) ?_) (.of_not_mem address)) ?_ <;>
      exact sound_literal _ (by decide)
  · refine .append (.append (.append (.append (.append (.append ?_
      (.of_not_mem (unmarked_escape address))) ?_) (sound_escape stem)) ?_)
        (.of_not_mem (not_mem_imageStyle (by decide) (by decide) _))) ?_ <;>
      exact sound_literal _ (by decide)

theorem sound_rewriteImages {text : Text} (sound : Sound count text) :
    Sound count (rewriteImages site text) := by
  refine cuts_image.sound_rewriteLinks (fun link parts cut => ?_) sound
  obtain ⟨_, _, found⟩ := cut
  exact sound_writeImage unmarked parts (isImageName_of_cutImage? found).2

/-! ### Notes -/

omit unmarked in
theorem sound_ofLink {link : WikiLink} (sound : link.IsSound count) :
    Sound count (Target.ofLink link).note ∧ Sound count (Target.ofLink link).heading := by
  have whole := sound.target.trim
  rw [Target.ofLink]
  split
  · rename_i note name cut
    rw [(Text.cutAt_eq_some_iff.1 cut).1] at whole
    obtain ⟨left, right⟩ := whole.of_append_cons rfl
    exact ⟨left.trim, right⟩
  · exact ⟨whole, .nil⟩

theorem sound_writeEmbed {link : WikiLink} (sound : link.IsSound count) :
    Sound count (writeEmbed site link) := by
  have address := Link.not_mem_address (by decide) unmarked.base
    (Target.not_mem_slug (by decide) (by decide) unmarked.slugs (Target.ofLink link))
  have shown : Sound count (link.shown.getD (Text.trim link.target)) := by
    cases option : link.shown with
    | none => exact sound.target.trim
    | some shown => exact sound.shown shown option
  unfold writeEmbed
  dsimp only
  refine .append (.append (.append (.append ?_ (.of_not_mem (unmarked_escape address))) ?_)
      (sound_escape shown)) ?_ <;>
    exact sound_literal _ (by decide)

theorem sound_writeLink {link : WikiLink} (sound : link.IsSound count) :
    Sound count (writeLink site link) := by
  have address := Link.not_mem_address (by decide) unmarked.base
    (Target.not_mem_slug (by decide) (by decide) unmarked.slugs (Target.ofLink link))
  obtain ⟨note, heading⟩ := sound_ofLink sound
  have shown {otherwise : Text} (sound' : Sound count otherwise) :
      Sound count (link.shown.getD otherwise) := by
    cases option : link.shown with
    | none => exact sound'
    | some shown => exact sound.shown shown option
  have segment : Sound count (Slug.segment (Target.ofLink link).heading) :=
    .of_not_mem (Slug.not_mem_segment (by decide) _)
  have anchor : Sound count (if (Target.ofLink link).heading.isEmpty then []
      else '#' :: Slug.segment (Target.ofLink link).heading) := by
    split
    · exact .nil
    · exact .plain (by decide) segment
  rw [writeLink]
  split
  · refine .append (.append (.append (.append ?_ (shown heading)) ?_) segment) ?_ <;>
      exact sound_literal _ (by decide)
  · refine .append (.append (.append (.append (.append ?_ (shown note)) ?_)
      (.of_not_mem address)) anchor) ?_ <;>
      exact sound_literal _ (by decide)

/-- Rewriting every link of a sound text leaves a sound text. -/
theorem sound_rewriteAll {text : Text} (sound : Sound count text) :
    Sound count (rewriteAll site text).1 :=
  cuts_link.sound_rewriteLinks (fun _ parts _ => sound_writeLink unmarked parts)
    (cuts_embed.sound_rewriteLinks (fun _ parts _ => sound_writeEmbed unmarked parts)
      (sound_rewriteImages unmarked sound))

end Sound

end Prose

end CampaignPress
