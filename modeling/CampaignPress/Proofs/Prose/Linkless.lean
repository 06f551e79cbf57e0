/-
This file shows that rewriting links leaves no link behind. A rewritten link is
bracketed: its text ends at a single closing bracket, and no bracket opens in the
address after it. Two closing brackets in a row are therefore old ones, with old
text before them up to the last bracket that closed, so a link that is found in
the rewritten text was there to be rewritten.
-/
import CampaignPress.Proofs.Prose.Embed

namespace CampaignPress

namespace Prose

/-- A text in brackets, with an address after it in which no bracket opens. -/
def IsBracketed (written : Text) : Prop :=
  ∃ shown address, written = '[' :: (shown ++ ']' :: '(' :: address) ∧
    ']' ∉ shown ∧ '[' ∉ address

/-! ### Links between texts -/

/-- No link begins in a text in which no bracket opens. -/
theorem Linkless.append_left {before after : Text} (closed : '[' ∉ before)
    (linkless : Linkless WikiLink.cut? after) : Linkless WikiLink.cut? (before ++ after) := by
  induction before with
  | nil => exact linkless
  | cons c before inductionHypothesis =>
    rw [List.mem_cons, not_or] at closed
    refine linkless_cons ?_ (inductionHypothesis closed.2)
    rw [WikiLink.cut?.eq_def]
    split
    · rename_i same
      exact absurd (List.cons.inj same).1.symm closed.1
    · rfl

theorem linkless_of_not_mem {text : Text} (closed : '[' ∉ text) : Linkless WikiLink.cut? text := by
  have whole : Linkless WikiLink.cut? (text ++ []) :=
    .append_left closed fun _ suffix => List.suffix_nil.1 suffix ▸ rfl
  rwa [List.append_nil] at whole

/-- No link begins before a closing bracket that stands alone and is the first one. -/
theorem Linkless.append_closing {before after : Text} (first : ']' ∉ before)
    (alone : ∀ rest, after ≠ ']' :: rest) (linkless : Linkless WikiLink.cut? after) :
    Linkless WikiLink.cut? (before ++ ']' :: after) := by
  induction before with
  | nil => exact linkless_cons rfl linkless
  | cons c before inductionHypothesis =>
    have none' := WikiLink.cut?_eq_none_of_closing first alone
    rw [List.mem_cons, not_or] at first
    exact linkless_cons none' (inductionHypothesis first.2)

/-- No link ends in a text without brackets. -/
theorem Linkless.append_right {before after : Text} (linkless : Linkless WikiLink.cut? before)
    (notOpened : '[' ∉ after) (notClosed : ']' ∉ after) :
    Linkless WikiLink.cut? (before ++ after) := by
  induction before with
  | nil => simpa using Linkless.append_left notOpened linkless
  | cons c before inductionHypothesis =>
    refine linkless_cons (Option.eq_none_iff_forall_ne_some.2 fun ⟨link, later⟩ found => ?_)
      (inductionHypothesis linkless.of_cons)
    obtain ⟨writable, same⟩ := WikiLink.isWritable_of_cut? found
    change (c :: before) ++ after = link.toText ++ later at same
    rcases List.append_eq_append_iff.1 same with ⟨middle, written, rfl⟩ | ⟨middle, whole, -⟩
    · cases last : middle.getLast? with
      | none =>
        rw [List.getLast?_eq_none_iff.1 last, List.append_nil] at written
        have cut := writable.cut?_toText []
        rw [List.append_nil, written, linkless _ (List.suffix_refl _)] at cut
        exact nomatch cut
      | some d =>
        have closing := link.getLast?_toText
        rw [written, List.getLast?_append, last, Option.some_or] at closing
        rw [Option.some.inj closing] at last
        exact notClosed (List.mem_append_left _ (List.mem_of_getLast? last))
    · have cut := writable.cut?_toText middle
      rw [← whole, linkless _ (List.suffix_refl _)] at cut
      exact nomatch cut

/-- The beginning of a text without links holds none. -/
theorem Linkless.of_isPrefix {before text : Text} (linkless : Linkless WikiLink.cut? text)
    (begins : before <+: text) : Linkless WikiLink.cut? before := by
  obtain ⟨after, rfl⟩ := begins
  rintro rest ⟨earlier, rfl⟩
  refine Option.eq_none_iff_forall_ne_some.2 fun ⟨link, later⟩ found => ?_
  obtain ⟨writable, rfl⟩ := WikiLink.isWritable_of_cut? found
  have cut := writable.cut?_toText (later ++ after)
  rw [← List.append_assoc, linkless _ ⟨earlier, by simp⟩] at cut
  exact nomatch cut

/-- A link at the beginning of an escaped text is one of the text, escaped. -/
theorem exists_of_escape_eq_toText {text after : Text} {link : WikiLink}
    (writable : link.IsWritable) (same : Html.escape text = link.toText ++ after) :
    ∃ (old : WikiLink) (rest : Text), old.IsWritable ∧ text = old.toText ++ rest := by
  obtain ⟨target, shown⟩ := link
  obtain ⟨nonempty, plain, option⟩ := writable
  have targetClosed : ']' ∉ target := fun member => (plain _ member).1 rfl
  have targetWhole : '|' ∉ target := fun member => (plain _ member).2 rfl
  have opened {old : Text} (escaped : Html.escape old = target) :
      old ≠ [] ∧ ∀ c ∈ old, c ≠ ']' ∧ c ≠ '|' := by
    refine ⟨fun empty => nonempty (escaped ▸ Html.escape_eq_nil_iff.2 empty), ?_⟩
    rintro c member
    constructor
    · rintro rfl
      exact targetClosed (escaped ▸ Html.mem_escape_of_mem (by decide) member)
    · rintro rfl
      exact targetWhole (escaped ▸ Html.mem_escape_of_mem (by decide) member)
  cases shown with
  | none =>
    have whole : Html.escape text = '[' :: '[' :: (target ++ ']' :: ']' :: after) := by
      simpa [WikiLink.toText] using same
    obtain ⟨text, rfl, second⟩ := Html.exists_of_escape_eq_cons (by decide) whole
    obtain ⟨text, rfl, third⟩ := Html.exists_of_escape_eq_cons (by decide) second
    obtain ⟨old, text, rfl, escaped, fourth⟩ :=
      Html.exists_of_escape_eq_append (by decide) third targetClosed
    obtain ⟨rest, rfl, -⟩ := Html.exists_of_escape_eq_cons (by decide) fourth
    obtain ⟨someOld, plainOld⟩ := opened escaped
    exact ⟨⟨old, none⟩, rest, ⟨someOld, plainOld, by simp⟩,
      by simp [WikiLink.toText]⟩
  | some shown =>
    obtain ⟨someShown, single⟩ := option shown rfl
    have whole : Html.escape text =
        '[' :: '[' :: (target ++ '|' :: (shown ++ ']' :: ']' :: after)) := by
      simpa [WikiLink.toText] using same
    obtain ⟨text, rfl, second⟩ := Html.exists_of_escape_eq_cons (by decide) whole
    obtain ⟨text, rfl, third⟩ := Html.exists_of_escape_eq_cons (by decide) second
    obtain ⟨old, text, rfl, escaped, fourth⟩ :=
      Html.exists_of_escape_eq_append (by decide) third targetWhole
    obtain ⟨oldShown, text, rfl, escapedShown, fifth⟩ :=
      Html.exists_of_escape_eq_append (by decide) fourth single
    obtain ⟨rest, rfl, -⟩ := Html.exists_of_escape_eq_cons (by decide) fifth
    obtain ⟨someOld, plainOld⟩ := opened escaped
    refine ⟨⟨old, some oldShown⟩, rest, ⟨someOld, plainOld, ?_⟩, by simp [WikiLink.toText]⟩
    intro _ given
    obtain rfl := Option.some.inj given
    exact ⟨fun empty => someShown (escapedShown ▸ Html.escape_eq_nil_iff.2 empty),
      fun member => single (escapedShown ▸ Html.mem_escape_of_mem (by decide) member)⟩

/-- Escaping brings in no links. -/
theorem Linkless.escape {text : Text} (linkless : Linkless WikiLink.cut? text) :
    Linkless WikiLink.cut? (Html.escape text) := by
  induction text with
  | nil => exact linkless
  | cons c rest inductionHypothesis =>
    have later := inductionHypothesis linkless.of_cons
    by_cases opening : c = '['
    · rw [opening] at linkless ⊢
      refine linkless_cons (Option.eq_none_iff_forall_ne_some.2 fun ⟨link, after⟩ found => ?_) later
      obtain ⟨writable, same⟩ := WikiLink.isWritable_of_cut? found
      have whole : Html.escape ('[' :: rest) = link.toText ++ after := same
      obtain ⟨old, rest', oldWritable, written⟩ := exists_of_escape_eq_toText writable whole
      have cut := oldWritable.cut?_toText rest'
      rw [← written, linkless _ (List.suffix_refl _)] at cut
      exact nomatch cut
    · rw [Html.escape_cons]
      exact .append_left (fun member => opening (Html.eq_of_mem_escapeChar (by decide) member).symm)
        later

theorem IsBracketed.linkless_append {written after : Text} (bracketed : IsBracketed written)
    (linkless : Linkless WikiLink.cut? after) : Linkless WikiLink.cut? (written ++ after) := by
  obtain ⟨shown, address, rfl, single, closed⟩ := bracketed
  have later : Linkless WikiLink.cut? ('(' :: address ++ after) :=
    .append_left (by simpa using closed) linkless
  have whole : Linkless WikiLink.cut? ('[' :: shown ++ ']' :: ('(' :: address ++ after)) :=
    .append_closing (by simpa using single) (fun rest same => nomatch (List.cons.inj same).1) later
  simpa using whole

/-! ### Closing brackets of a rewritten text -/

section Bracketed

variable {write : WikiLink → Text} (writes : ∀ link, link.IsWritable → IsBracketed (write link))
include writes

/-- The first closing bracket of a rewritten text is that of the text, with the same before it,
or the one before the address of a link. -/
theorem closing_of_rewriteLinks {text before after : Text} (first : ']' ∉ before)
    (same : rewriteLinks WikiLink.cut? write text = before ++ ']' :: after) :
    (∃ rest, text = before ++ ']' :: rest ∧ rewriteLinks WikiLink.cut? write rest = after) ∨
      before ≠ [] ∧ ∃ address, after = '(' :: address := by
  induction text using cuts_link.induction generalizing before with
  | nil => simp [rewriteLinks_nil] at same
  | plain c rest none' inductionHypothesis =>
    rw [rewriteLinks_of_none none'] at same
    cases before with
    | nil =>
      obtain ⟨rfl, later⟩ := List.cons.inj same
      exact .inl ⟨rest, rfl, later⟩
    | cons d before =>
      obtain ⟨rfl, later⟩ := List.cons.inj same
      rw [List.mem_cons, not_or] at first
      rcases inductionHypothesis first.2 later with ⟨rest, rfl, last⟩ | ⟨-, address⟩
      · exact .inl ⟨rest, rfl, last⟩
      · exact .inr ⟨List.cons_ne_nil _ _, address⟩
  | link text link after' found inductionHypothesis =>
    obtain ⟨writable, -⟩ := WikiLink.isWritable_of_cut? found
    obtain ⟨shown, address, written, single, -⟩ := writes link writable
    rw [cuts_link.rewriteLinks_of_some found, written] at same
    -- The text of the rewritten link reaches up to the first closing bracket.
    have whole : ('[' :: shown) ++ ']' :: ('(' :: (address ++ rewriteLinks WikiLink.cut? write after')) =
        before ++ ']' :: after := by
      simpa using same
    obtain ⟨rfl, rfl⟩ := Text.append_cons_inj (by simpa using single) first whole
    exact .inr ⟨List.cons_ne_nil _ _, _, rfl⟩

/-- No link is left in a rewritten text. -/
theorem linkless_rewriteLinks (text : Text) :
    Linkless WikiLink.cut? (rewriteLinks WikiLink.cut? write text) := by
  induction text using cuts_link.induction with
  | nil =>
    intro rest suffix
    rw [rewriteLinks_nil, List.suffix_nil] at suffix
    rw [suffix]
    exact cuts_link.nil
  | plain c rest none' inductionHypothesis =>
    rw [rewriteLinks_of_none none']
    refine linkless_cons (Option.eq_none_iff_forall_ne_some.2 fun ⟨link, after⟩ found => ?_)
      inductionHypothesis
    -- A link at the beginning would close with two old brackets, so it would be an old link.
    obtain ⟨writable, same⟩ := WikiLink.isWritable_of_cut? found
    obtain ⟨opened, single, written⟩ := writable.exists_toText
    rw [written, List.append_assoc, List.cons_append] at same
    obtain ⟨rfl, later⟩ := List.cons.inj same
    rcases closing_of_rewriteLinks writes single later with ⟨middle, rfl, last⟩ | ⟨-, address, same⟩
    · rcases closing_of_rewriteLinks writes List.not_mem_nil last with
        ⟨middle, rfl, -⟩ | ⟨nonempty, -⟩
      · have old := writable.cut?_toText middle
        rw [written, List.append_assoc, List.cons_append] at old
        exact nomatch none'.symm.trans old
      · exact absurd rfl nonempty
    · exact nomatch (List.cons.inj same).1
  | link text link after found inductionHypothesis =>
    obtain ⟨writable, -⟩ := WikiLink.isWritable_of_cut? found
    rw [cuts_link.rewriteLinks_of_some found]
    exact (writes link writable).linkless_append inductionHypothesis

end Bracketed

/-! ### Markdown links -/

/-- A link is written in brackets if no bracket opens in the addresses of the site. -/
theorem isBracketed_writeLink {site : Site} (base : '[' ∉ site.base)
    (slugs : ∀ name slug, site.index.slug? name = some slug → '[' ∉ slug) {link : WikiLink}
    (writable : link.IsWritable) : IsBracketed (writeLink site link) := by
  have trimmed : ']' ∉ Text.trim link.target := fun member =>
    (writable.target _ (Text.mem_of_mem_trim member)).1 rfl
  have parts : ']' ∉ (Target.ofLink link).note ∧ ']' ∉ (Target.ofLink link).heading := by
    rw [Target.ofLink]
    split
    · rename_i note name cut
      rw [(Text.cutAt_eq_some_iff.1 cut).1, List.mem_append, List.mem_cons, not_or, not_or] at trimmed
      exact ⟨fun member => trimmed.1 (Text.mem_of_mem_trim member), trimmed.2.2⟩
    · exact ⟨trimmed, List.not_mem_nil⟩
  have shown {otherwise : Text} (notOtherwise : ']' ∉ otherwise) :
      ']' ∉ link.shown.getD otherwise := by
    cases option : link.shown with
    | none => exact notOtherwise
    | some shown => exact (writable.shown shown option).2
  have segment (name : Text) : '[' ∉ Slug.segment name := Slug.not_mem_segment (by decide) name
  have address := Link.not_mem_address (c := '[') (by decide) base
    (Target.not_mem_slug (by decide) (by decide) slugs (Target.ofLink link))
  have anchor : '[' ∉ (if (Target.ofLink link).heading.isEmpty then []
      else '#' :: Slug.segment (Target.ofLink link).heading) := by
    split
    · exact List.not_mem_nil
    · simpa using segment _
  rw [writeLink]
  split
  · refine ⟨link.shown.getD (Target.ofLink link).heading,
      '#' :: (Slug.segment (Target.ofLink link).heading ++ [')']), by simp, shown parts.2, ?_⟩
    simpa using segment _
  · refine ⟨link.shown.getD (Target.ofLink link).note, Link.address site.base
      ((Target.ofLink link).slug site) ++ (if (Target.ofLink link).heading.isEmpty then []
        else '#' :: Slug.segment (Target.ofLink link).heading) ++ [')'], by simp, shown parts.1, ?_⟩
    simp only [List.mem_append, List.mem_singleton, not_or]
    exact ⟨⟨address, anchor⟩, by decide⟩

/-- Rewriting the links of a text leaves no image, embed or link in it, so rewriting them again
changes nothing and misses no note. -/
theorem linkless_rewriteAll {notes : List Note} {base : Text}
    (slugs : ∀ note ∈ notes, ∃ path, note.slug = Slug.ofPath path) (unbracketed : '[' ∉ base)
    (attachments : Text) (icons : IconTable) (text : Text) :
    let site := Site.ofNotes notes base attachments icons
    let result := (rewriteAll site text).1
    Linkless cutImage? result ∧ Linkless cutEmbed? result ∧ Linkless WikiLink.cut? result ∧
      rewriteAll site result = (result, []) := by
  intro site result
  have siteBase : '[' ∉ site.base := fun member => unbracketed (Text.mem_of_mem_dropEnd member)
  have siteSlugs : ∀ name slug, site.index.slug? name = some slug → '[' ∉ slug := by
    intro name slug found
    obtain ⟨note, known, rfl⟩ := Index.exists_of_slug? found
    obtain ⟨path, same⟩ := slugs note known
    rw [same]
    exact Slug.not_mem_ofPath (by decide) (by decide) path
  have linkless : Linkless WikiLink.cut? result :=
    linkless_rewriteLinks (fun _ writable => isBracketed_writeLink siteBase siteSlugs writable) _
  refine ⟨linkless.embed.image, linkless.embed, linkless, ?_⟩
  rw [rewriteAll, rewriteImages, rewriteLinks_of_linkless linkless.embed.image, rewriteNotes,
    rewriteLinks_of_linkless linkless.embed, rewriteLinks_of_linkless linkless,
    linksOf_of_linkless linkless.embed, linksOf_of_linkless linkless]
  rfl

/-- The text of an embed opens a link that the bracket after the embed closes. -/
theorem linkless_rewriteAll_nested :
    let kira : Note := ⟨"Kira.md".toList, "kira".toList, "Kira".toList, [], none⟩
    let base : Text := "/log".toList
    let site := Site.ofNotes [kira] base "/media".toList .standard
    let result := (rewriteAll site "![[a|[[Kira]]]]".toList).1
    kira.slug = Slug.ofPath kira.path ∧ '[' ∉ base ∧
      Linkless cutImage? result ∧ Linkless cutEmbed? result ∧ Linkless WikiLink.cut? result ∧
      rewriteAll site result = (result, []) := by
  intro kira base site result
  have slug : kira.slug = Slug.ofPath kira.path := by decide +kernel
  have unbracketed : '[' ∉ base := by decide
  have known : ∀ note ∈ [kira], ∃ path, note.slug = Slug.ofPath path :=
    List.forall_mem_singleton.2 ⟨kira.path, slug⟩
  exact ⟨slug, unbracketed, linkless_rewriteAll known unbracketed "/media".toList .standard
    "![[a|[[Kira]]]]".toList⟩

end Prose

end CampaignPress
