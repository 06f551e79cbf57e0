/-
This file shows where code comes through the rewriting of links. A pass sees
placeholders for code and writes them wherever it writes the text of a link, but
it makes addresses of targets, and of images it keeps no more than the name. So
code between links and in the text that a link shows comes through, each span
once and in order, and leaves no trace elsewhere, while code in a target is lost
to the address.
-/
import CampaignPress.Proofs.Prose.Uniform

namespace CampaignPress

open CodeSpan

/-! ### Carrying places -/

namespace CodeSpan

theorem Sound.not_mem {text : Text} (sound : Sound 0 text) : '\x00' ∉ text := by
  induction sound with
  | nil => exact List.not_mem_nil
  | plain other _ inductionHypothesis =>
    rw [List.mem_cons, not_or]
    exact ⟨Ne.symm other, inductionHypothesis⟩
  | span known => exact absurd known (Nat.not_lt_zero _)

/-- What is written for each filling has certain places in order, and the same characters around
them whatever stands in the places. -/
def Carries (positions : List Nat) (written : (Nat → Text) → Text) : Prop :=
  ∃ template : Template, Slot.char '\x00' ∉ template ∧ template.positions = positions ∧
    ∀ item, IsOpaque item → written item = template.fill item

namespace Carries

variable {positions others : List Nat} {written following : (Nat → Text) → Text}

theorem text {text : Text} (unmarked : '\x00' ∉ text) : Carries [] fun _ => text :=
  ⟨.ofText text, by rwa [Template.char_mem_ofText], Template.positions_ofText text,
    fun item _ => (Template.fill_ofText item text).symm⟩

theorem template (template : Template) (unmarked : Slot.char '\x00' ∉ template) :
    Carries template.positions fun item => template.fill item :=
  ⟨template, unmarked, rfl, fun _ _ => rfl⟩

theorem congr (same : ∀ item, IsOpaque item → written item = following item)
    (carries : Carries positions following) : Carries positions written := by
  obtain ⟨template, unmarked, places, fills⟩ := carries
  exact ⟨template, unmarked, places, fun item isOpaque =>
    (same item isOpaque).trans (fills item isOpaque)⟩

theorem append (left : Carries positions written) (right : Carries others following) :
    Carries (positions ++ others) fun item => written item ++ following item := by
  obtain ⟨first, unmarked, rfl, fills⟩ := left
  obtain ⟨second, unmarked', rfl, fills'⟩ := right
  refine ⟨first ++ second, ?_, Template.positions_append first second, fun item isOpaque => ?_⟩
  · rw [List.mem_append, not_or]
    exact ⟨unmarked, unmarked'⟩
  · show written item ++ following item = _
    rw [fills item isOpaque, fills' item isOpaque, Template.fill_append]

/-- A text between two that have no places. -/
theorem enclose {before after : Text} (unmarkedBefore : '\x00' ∉ before)
    (unmarkedAfter : '\x00' ∉ after) (carries : Carries positions written) :
    Carries positions fun item => before ++ written item ++ after := by
  have whole := ((text unmarkedBefore).append carries).append (text unmarkedAfter)
  rwa [List.nil_append, List.append_nil] at whole

/-- Code in an escaped text stays as it is. -/
theorem escape {template : Template} (unmarked : Slot.char '\x00' ∉ template) :
    Carries template.positions fun item => Html.escape (template.fill item) := by
  induction template with
  | nil => exact text List.not_mem_nil
  | cons slot rest inductionHypothesis =>
    rw [List.mem_cons, not_or] at unmarked
    have later := inductionHypothesis unmarked.2
    cases slot with
    | char c =>
      have first : '\x00' ∉ Html.escape [c] := Prose.unmarked_escape fun member =>
        unmarked.1 (congrArg Slot.char (List.mem_singleton.1 member))
      exact ((text first).append later).congr fun item _ => Html.escape_append [c] _
    | span position =>
      refine ((Carries.template [.span position] (by simp)).append later).congr
        fun item isOpaque => ?_
      have kept : Html.escape (item position) = item position :=
        (List.flatMap_congr fun c member =>
          Prose.escapeChar_of_isInner (isOpaque.inner position c member)).trans
            (List.flatMap_singleton' _)
      rw [Template.fill_span, Html.escape_append, kept]
      simp

end Carries

end CodeSpan

namespace Prose

/-! ### Writing links -/

/-- A link shows its text in brackets, and what follows depends on the target alone. -/
theorem exists_writeLink (site : Site) (target : Text) : ∃ address, ∀ shown,
    writeLink site ⟨target, some shown⟩ = ['['] ++ shown ++ address := by
  let parts := Target.ofLink ⟨target, none⟩
  cases empty : parts.note.isEmpty with
  | true =>
    refine ⟨"](#".toList ++ Slug.segment parts.heading ++ ")".toList, fun shown => ?_⟩
    refine (if_pos empty).trans ?_
    change ['['] ++ shown ++ "](#".toList ++ Slug.segment parts.heading ++ ")".toList = _
    simp only [List.append_assoc]
  | false =>
    let anchor := if parts.heading.isEmpty then [] else '#' :: Slug.segment parts.heading
    let address := Link.address site.base (parts.slug site)
    refine ⟨"](".toList ++ address ++ anchor ++ ")".toList, fun shown => ?_⟩
    refine (if_neg (Bool.eq_false_iff.1 empty)).trans ?_
    change ['['] ++ shown ++ "](".toList ++ address ++ anchor ++ ")".toList = _
    simp only [List.append_assoc]

section Write

variable {site : Site} (unmarkedSite : site.IsUnmarked) {target : Text} (unmarked : '\x00' ∉ target)
include unmarked

theorem isSound_zero {option : Option Text} (unmarkedOption : ∀ shown ∈ option, '\x00' ∉ shown) :
    WikiLink.IsSound 0 ⟨target, option⟩ :=
  ⟨.of_not_mem unmarked, fun shown member => .of_not_mem (unmarkedOption shown member)⟩

include unmarkedSite

theorem not_mem_writeImage {option : Option Text} (unmarkedOption : ∀ shown ∈ option, '\x00' ∉ shown)
    (image : isImageName target) : '\x00' ∉ writeImage site ⟨target, option⟩ :=
  (sound_writeImage unmarkedSite (isSound_zero unmarked unmarkedOption) image).not_mem

/-- The box of an embed shows the code in the text of the embed. -/
theorem carries_writeEmbed {option : Option Template}
    (unmarkedOption : ∀ shown ∈ option, Slot.char '\x00' ∉ shown) :
    Carries (option.getD []).positions
      fun item => writeEmbed site ⟨target, option.map (Template.fill item)⟩ := by
  cases option with
  | none => exact .text (sound_writeEmbed unmarkedSite (isSound_zero unmarked (by simp))).not_mem
  | some shown =>
    let address := Link.address site.base ((Target.ofLink ⟨target, none⟩).slug site)
    have unmarkedAddress : '\x00' ∉ address := Link.not_mem_address (by decide) unmarkedSite.base
      (Target.not_mem_slug (by decide) (by decide) unmarkedSite.slugs _)
    have before : '\x00' ∉ "<div class=\"embed-link\"><a href=\"".toList ++ Html.escape address ++
        "\">".toList := by
      simp only [List.mem_append, not_or]
      exact ⟨⟨by decide, unmarked_escape unmarkedAddress⟩, by decide⟩
    have after : '\x00' ∉ "</a></div>".toList := by decide
    exact (Carries.escape (unmarkedOption shown rfl)).enclose before after

/-- A link shows the code in its text. -/
theorem carries_writeLink {option : Option Template}
    (unmarkedOption : ∀ shown ∈ option, Slot.char '\x00' ∉ shown) :
    Carries (option.getD []).positions
      fun item => writeLink site ⟨target, option.map (Template.fill item)⟩ := by
  cases option with
  | none => exact .text (sound_writeLink unmarkedSite (isSound_zero unmarked (by simp))).not_mem
  | some shown =>
    obtain ⟨address, written⟩ := exists_writeLink site target
    -- Written with no text to show, the link has its address and no other place for a mark.
    have empty : '\x00' ∉ ['['] ++ [] ++ address := written [] ▸
      (sound_writeLink unmarkedSite (isSound_zero unmarked (by simp))).not_mem
    have carries := Carries.template shown (unmarkedOption shown rfl)
    refine .congr (fun item _ => written (shown.fill item)) (carries.enclose (by decide) ?_)
    exact fun member => empty (List.mem_append_right _ member)

end Write

/-! ### Rewriting -/

section Uniform

variable {opening : Text} {cut? : Text → Option (WikiLink × Text)} (uniform : Uniform opening cut?)
  {item : Nat → Text} (isOpaque : IsOpaque item)
include uniform isOpaque

/-- If what is written for every link carries its places, so does the rewritten text. -/
theorem Uniform.carries_rewriteLinks {write : WikiLink → Text} {template : Template}
    (unmarked : Slot.char '\x00' ∉ template)
    (writes : ∀ link : LinkTemplate, Slot.char '\x00' ∉ link.toTemplate →
      link.fill item ∈ linksOf cut? (template.fill item) →
        Carries link.toTemplate.positions fun item => write (link.fill item)) :
    Carries template.positions fun item => rewriteLinks cut? write (template.fill item) := by
  induction template using uniform.induction with
  | nil => exact .text List.not_mem_nil
  | plain slot rest none inductionHypothesis =>
    rw [List.mem_cons, not_or] at unmarked
    have later := inductionHypothesis unmarked.2 fun link clean member =>
      writes link clean (uniform.linksOf_fill_cons isOpaque (none item isOpaque) ▸ member)
    have first := Carries.template [slot] fun member => unmarked.1 (List.mem_singleton.1 member)
    have whole := first.append later
    rw [← Template.positions_append] at whole
    refine whole.congr fun item isOpaque => ?_
    rw [uniform.rewriteLinks_fill_cons isOpaque (none item isOpaque), Template.fill_singleton]
  | link link rest cut inductionHypothesis =>
    simp only [List.mem_append, not_or] at unmarked
    have found := uniform.linksOf_of_some (cut item isOpaque)
    have here := writes link unmarked.1.2 (found ▸ List.mem_cons_self)
    have later := inductionHypothesis unmarked.2 fun link clean member =>
      writes link clean (found ▸ List.mem_cons_of_mem _ member)
    have whole := here.append later
    rw [Template.positions_append, Template.positions_append, Template.positions_ofText,
      List.nil_append]
    exact whole.congr fun item isOpaque => uniform.rewriteLinks_of_some (cut item isOpaque)

/-- Links with clean targets carry the code that they show if they are written with it. -/
theorem Uniform.carries_of_clean (write : WikiLink → Text) {template : Template}
    (unmarked : Slot.char '\x00' ∉ template)
    (clean : ∀ link ∈ linksOf cut? (template.fill item), '\x00' ∉ link.target)
    (writes : ∀ {target : Text} {option : Option Template}, '\x00' ∉ target →
      (∀ shown ∈ option, Slot.char '\x00' ∉ shown) → Carries (option.getD []).positions
        fun item => write ⟨target, option.map (Template.fill item)⟩) :
    Carries template.positions fun item => rewriteLinks cut? write (template.fill item) := by
  refine uniform.carries_rewriteLinks isOpaque unmarked fun link unmarkedLink member => ?_
  have cleanTarget := clean _ member
  have unmarkedShown : ∀ shown ∈ link.shown, Slot.char '\x00' ∉ shown := by
    intro shown option inShown
    refine unmarkedLink ?_
    simp [LinkTemplate.toTemplate, Option.mem_def.1 option, inShown]
  rw [LinkTemplate.positions_toTemplate, Template.positions_eq_nil isOpaque cleanTarget,
    List.nil_append]
  refine (writes cleanTarget unmarkedShown).congr fun item' _ => ?_
  rw [LinkTemplate.fill, Template.fill_eq_of_unmarked isOpaque cleanTarget item']
  rfl

/-- Targets without code are the same however a template is filled. -/
theorem Uniform.map_target_linksOf {template : Template}
    (clean : ∀ link ∈ linksOf cut? (template.fill item), '\x00' ∉ link.target)
    {item' : Nat → Text} (isOpaque' : IsOpaque item') :
    (linksOf cut? (template.fill item')).map WikiLink.target =
      (linksOf cut? (template.fill item)).map WikiLink.target := by
  induction template using uniform.induction with
  | nil => rfl
  | plain slot rest none inductionHypothesis =>
    rw [uniform.linksOf_fill_cons isOpaque (none item isOpaque)] at clean ⊢
    rw [uniform.linksOf_fill_cons isOpaque' (none item' isOpaque'), inductionHypothesis clean]
  | link link rest cut inductionHypothesis =>
    rw [uniform.linksOf_of_some (cut item isOpaque)] at clean ⊢
    rw [uniform.linksOf_of_some (cut item' isOpaque')]
    obtain ⟨here, later⟩ := List.forall_mem_cons.1 clean
    have same : (link.fill item').target = (link.fill item).target :=
      Template.fill_eq_of_unmarked isOpaque here item'
    rw [List.map_cons, List.map_cons, same, inductionHypothesis later]

end Uniform

/-- Where the passes over links may meet code: not in what is read as a target, and not in an
image. Each pass reads what the one before it wrote. -/
structure ShowsCode (site : Site) (hidden : Text) : Prop where
  images : ∀ link ∈ linksOf cutImage? hidden,
    '\x00' ∉ link.target ∧ ∀ shown ∈ link.shown, '\x00' ∉ shown
  embeds : ∀ link ∈ linksOf cutEmbed? (rewriteImages site hidden), '\x00' ∉ link.target
  links : ∀ link ∈ linksOf WikiLink.cut?
    (rewriteLinks cutEmbed? (writeEmbed site) (rewriteImages site hidden)), '\x00' ∉ link.target

theorem missingOf_eq (site : Site) (links : List WikiLink) : missingOf site links =
    (links.map WikiLink.target).filterMap
      fun target => (Target.ofLink ⟨target, none⟩).missing? site := by
  rw [List.filterMap_map]
  rfl

theorem not_mem_missingOf {site : Site} {links : List WikiLink}
    (clean : ∀ link ∈ links, '\x00' ∉ link.target) : ∀ target ∈ missingOf site links,
      '\x00' ∉ target := by
  intro target member
  rw [missingOf_eq] at member
  obtain ⟨source, inTargets, missing⟩ := List.mem_filterMap.1 member
  obtain ⟨link, inLinks, rfl⟩ := List.mem_map.1 inTargets
  rw [Target.missing?] at missing
  split at missing
  · exact nomatch missing
  · obtain rfl := Option.some.inj missing
    exact (sound_ofLink (isSound_zero (clean link inLinks) (by simp))).1.not_mem

section RewriteAll

variable {site : Site} (unmarkedSite : site.IsUnmarked) {template : Template}
  (unmarked : Slot.char '\x00' ∉ template) {item : Nat → Text} (isOpaque : IsOpaque item)
include unmarkedSite unmarked isOpaque

theorem carries_rewriteImages
    (clean : ∀ link ∈ linksOf cutImage? (template.fill item),
      '\x00' ∉ link.target ∧ ∀ shown ∈ link.shown, '\x00' ∉ shown) :
    Carries template.positions fun item => rewriteImages site (template.fill item) := by
  refine uniform_image.carries_rewriteLinks isOpaque unmarked fun link _ member => ?_
  obtain ⟨_, _, found⟩ := uniform_image.exists_of_mem_linksOf member
  obtain ⟨cleanTarget, cleanShown⟩ := clean _ member
  have written := not_mem_writeImage unmarkedSite cleanTarget cleanShown
    (isImageName_of_cutImage? found).2
  have fixed := LinkTemplate.eq_of_unmarked isOpaque cleanTarget cleanShown
  have places : link.toTemplate.positions = [] := by
    rw [fixed, LinkTemplate.positions_toTemplate]
    cases (link.fill item).shown <;> simp
  rw [places]
  refine (Carries.text written).congr fun item' _ => ?_
  rw [fixed]
  cases (link.fill item).shown <;> simp [LinkTemplate.fill]

/-- Code in the text that links show comes through the rewriting: the code of a template comes out
once and in order, and no address and no missing target depends on what it is. -/
theorem exists_rewriteAll (shows : ShowsCode site (template.fill item)) :
    ∃ (written : Template) (missing : List Text), Slot.char '\x00' ∉ written ∧
      written.positions = template.positions ∧ (∀ target ∈ missing, '\x00' ∉ target) ∧
      ∀ item, IsOpaque item → rewriteAll site (template.fill item) = (written.fill item, missing) := by
  obtain ⟨first, unmarkedFirst, places, images⟩ :=
    carries_rewriteImages unmarkedSite unmarked isOpaque shows.images
  dsimp only at images
  -- Each pass reads what the one before it wrote for placeholders, which its template gives.
  have cleanEmbeds := shows.embeds
  have cleanLinks := shows.links
  rw [images item isOpaque] at cleanEmbeds cleanLinks
  obtain ⟨second, unmarkedSecond, places', embeds⟩ :=
    uniform_embed.carries_of_clean isOpaque (writeEmbed site) unmarkedFirst cleanEmbeds
      fun clean => carries_writeEmbed unmarkedSite clean
  dsimp only at embeds
  rw [embeds item isOpaque] at cleanLinks
  obtain ⟨written, unmarkedWritten, places'', links⟩ :=
    uniform_link.carries_of_clean isOpaque (writeLink site) unmarkedSecond cleanLinks
      fun clean => carries_writeLink unmarkedSite clean
  dsimp only at links
  refine ⟨written, missingOf site (linksOf cutEmbed? (first.fill item)) ++
    missingOf site (linksOf WikiLink.cut? (second.fill item)), unmarkedWritten,
    (places''.trans places').trans places, ?_, fun item' isOpaque' => ?_⟩
  · exact List.forall_mem_append.2 ⟨not_mem_missingOf cleanEmbeds, not_mem_missingOf cleanLinks⟩
  · rw [rewriteAll, images item' isOpaque', rewriteNotes, embeds item' isOpaque',
      links item' isOpaque', missingOf_eq, missingOf_eq,
      uniform_embed.map_target_linksOf isOpaque cleanEmbeds isOpaque',
      uniform_link.map_target_linksOf isOpaque cleanLinks isOpaque', ← missingOf_eq, ← missingOf_eq]

end RewriteAll

/-- Code comes through the rewriting of a text without fences if no link has it in its target and no
image holds it. Then every span of the text comes out once, verbatim and in order, and what is
written around the spans, addresses and missing targets included, would be the same with anything
else in the place of the placeholders. -/
theorem map_rewriteAll_of_showsCode {site : Site} (unmarkedSite : site.IsUnmarked) {text : Text}
    (absent : '\x00' ∉ text) (few : text.length ≤ 10 ^ digitLimit)
    (plain : ∀ line ∈ Text.lines text, Fence.opened? line = none)
    (shows : ShowsCode site (hide text).1) :
    ∃ (source written : Template) (missing : List Text),
      source.IsWhole (hide text).2.length ∧ source.fill placeholder = (hide text).1 ∧
      source.fill (spanAt (hide text).2) = text ∧ written.IsWhole (hide text).2.length ∧
      map (rewriteAll site) text = .ok (written.fill (spanAt (hide text).2), missing) ∧
      (∀ target ∈ missing, '\x00' ∉ target) ∧
      ∀ item, IsOpaque item → rewriteAll site (source.fill item) = (written.fill item, missing) := by
  obtain ⟨source, whole, hidden, same⟩ := exists_template absent
  rw [← hidden] at shows
  obtain ⟨written, missing, unmarked, places, clean, rewritten⟩ :=
    exists_rewriteAll unmarkedSite whole.unmarked isOpaque_placeholder shows
  have wholeWritten : written.IsWhole (hide text).2.length := ⟨unmarked, places.trans whole.positions⟩
  have given := rewritten placeholder isOpaque_placeholder
  rw [hidden] at given
  have output := map_of_plain absent few plain wholeWritten (congrArg Prod.fst given)
  rw [given] at output
  exact ⟨source, written, missing, whole, hidden, same, wholeWritten, output, clean, rewritten⟩

/-- Code in the text of a link, beside it and before a link that leads nowhere. -/
theorem map_rewriteAll_of_showsCode_kira :
    let kira : Note := ⟨"Kira.md".toList, "kira".toList, "Kira".toList, [], none⟩
    let site := Site.ofNotes [kira] "/log".toList "/media".toList .standard
    let text : Text := "[[Kira|`a`]]`b` [[Rook]]".toList
    site.IsUnmarked ∧ '\x00' ∉ text ∧ text.length ≤ 10 ^ digitLimit ∧
      (∀ line ∈ Text.lines text, Fence.opened? line = none) ∧ ShowsCode site (hide text).1 ∧
      map (rewriteAll site) text =
        .ok ("[`a`](/log/kira)`b` [Rook](/log/rook)".toList, ["Rook".toList]) ∧
      ∃ written : Template, written.IsWhole 2 ∧ written.fill (spanAt ["`a`".toList, "`b`".toList]) =
        "[`a`](/log/kira)`b` [Rook](/log/rook)".toList := by
  intro kira site text
  have unmarked : site.IsUnmarked := Site.isUnmarked_ofNotes (by decide) (by decide) (by decide) _
  have absent : '\x00' ∉ text := by decide
  have few : text.length ≤ 10 ^ digitLimit := Numeral.le_pow_digitLimit (by decide +kernel)
  have plain : ∀ line ∈ Text.lines text, Fence.opened? line = none := by decide +kernel
  have shows : ShowsCode site (hide text).1 :=
    ⟨by decide +kernel, by decide +kernel, by decide +kernel⟩
  have output : map (rewriteAll site) text =
      .ok ("[`a`](/log/kira)`b` [Rook](/log/rook)".toList, ["Rook".toList]) := by
    decide +kernel
  have spans : (hide text).2 = ["`a`".toList, "`b`".toList] := by decide +kernel
  obtain ⟨-, written, missing, -, -, -, whole, same, -, -⟩ :=
    map_rewriteAll_of_showsCode unmarked absent few plain shows
  rw [output, spans] at same
  rw [spans] at whole
  exact ⟨unmarked, absent, few, plain, shows, output, written, whole,
    (congrArg Prod.fst (Except.ok.inj same)).symm⟩

/-- Code in the target of a link is lost, and its placeholder becomes part of an address and of a
missing target. -/
theorem exists_code_lost :
    let text : Text := "[[`a`|x]]".toList
    (hide text).2 = ["`a`".toList] ∧ map (rewriteAll (.ofNotes [] [] [] .standard)) text =
      .ok ("[x](/code0)".toList, ["\x00CODE0\x00".toList]) := by
  decide +kernel

end Prose

end CampaignPress
