/-
This file shows that every way to link to a note leads to its page. Prose looks
the note up by its title, mechanics by the name of its file, and queries have it
at hand, but all of them write the address of one slug under one base. Anchors
lead nowhere where there is no slug, and prose leads to the base itself.
-/
import CampaignPress.Mechanics.Block
import CampaignPress.Proofs.Mechanics.Inline
import CampaignPress.Proofs.Prose.Linkless
import CampaignPress.Query.Table

namespace CampaignPress

/-! ### Prose -/

namespace Prose

/-- The box of an embed that leads to an address. -/
def embedHtml (address shown : Text) : Html :=
  Html.classed "div" "embed-link" (Html.element "a" [.escaped "href" address] [.text shown])

theorem writeEmbed_eq (site : Site) (link : WikiLink) : writeEmbed site link =
    (embedHtml (Link.address site.base ((Target.ofLink link).slug site))
      (link.shown.getD (Text.trim link.target))).write := by
  unfold writeEmbed
  dsimp only
  simp [embedHtml, Html.classed, Html.element, Html.write, Html.Piece.write, Html.Attribute.write]

section Title

variable {title : Text} (nonempty : title ≠ []) (trimmed : Text.trim title = title)
  (plain : ∀ c ∈ title, c ≠ '[' ∧ c ≠ ']' ∧ c ≠ '|' ∧ c ≠ '#')
include nonempty plain

theorem isWritable_title : (WikiLink.mk title none).IsWritable where
  target_ne_nil := nonempty
  target c member := ⟨(plain c member).2.1, (plain c member).2.2.1⟩
  shown _ given := nomatch given

theorem cut?_title : WikiLink.cut? (WikiLink.toText ⟨title, none⟩) = some (⟨title, none⟩, []) := by
  have cut := (isWritable_title nonempty plain).cut?_toText []
  rwa [List.append_nil] at cut

/-- No embed begins in a link to a title. -/
theorem linkless_title : Linkless cutEmbed? (WikiLink.toText ⟨title, none⟩) := by
  have written : WikiLink.toText ⟨title, none⟩ = '[' :: '[' :: (title ++ [']', ']']) := by
    simp [WikiLink.toText]
  have rest : Linkless WikiLink.cut? (title ++ [']', ']']) := by
    refine .append_left (fun member => (plain _ member).1 rfl) ?_
    exact linkless_cons rfl (linkless_cons rfl fun _ suffix => List.suffix_nil.1 suffix ▸ rfl)
  have opened : WikiLink.cut? ('[' :: (title ++ [']', ']'])) = none := by
    obtain ⟨c, title, rfl⟩ := List.exists_cons_of_ne_nil nonempty
    rw [WikiLink.cut?.eq_def]
    split
    · rename_i same
      exact absurd (List.cons.inj (List.cons.inj same).2).1 (plain c List.mem_cons_self).1
    · rfl
  rw [written]
  exact linkless_cons rfl (linkless_cons opened rest).embed

include trimmed

omit nonempty in
theorem ofLink_title : Target.ofLink ⟨title, none⟩ = ⟨title, none⟩ := by
  rw [Target.ofLink]
  dsimp only
  rw [trimmed]
  split
  · rename_i cut
    have here := (Text.cutAt_eq_some_iff.1 cut).1
    exact absurd rfl (plain '#' (here ▸ List.mem_append_right _ List.mem_cons_self)).2.2.2
  · rfl

variable {site : Site} {note : Note} (found : site.index.find? title = some note)
include found

theorem slug_title : (Target.ofLink ⟨title, none⟩).slug site = note.slug := by
  rw [ofLink_title trimmed plain, Target.slug, if_neg (by simpa using nonempty), Index.slug?,
    found]
  rfl

omit nonempty in
theorem missing?_title : (Target.ofLink ⟨title, none⟩).missing? site = none := by
  rw [ofLink_title trimmed plain, Target.missing?, Index.slug?, found]
  simp

/-- A link to a title leads to the page of the note that is found. -/
theorem rewriteAll_link : rewriteAll site (WikiLink.toText ⟨title, none⟩) =
    (Link.markdown site.base title note.slug, []) := by
  have embedless := linkless_title nonempty plain
  have cut := cut?_title nonempty plain
  have written : writeLink site ⟨title, none⟩ = Link.markdown site.base title note.slug := by
    rw [writeLink]
    dsimp only
    rw [slug_title nonempty trimmed plain found, ofLink_title trimmed plain,
      if_neg (by simpa using nonempty)]
    simp [Target.heading, Link.markdown]
  rw [rewriteAll, rewriteImages, rewriteLinks_of_linkless embedless.image, rewriteNotes,
    rewriteLinks_of_linkless embedless, linksOf_of_linkless embedless,
    cuts_link.rewriteLinks_of_some cut, cuts_link.linksOf_of_some cut, written]
  have none' := missing?_title trimmed plain found
  simp [rewriteLinks, linksOf, scan, scanFrom, missingOf, none']

omit nonempty trimmed found in
/-- The box of an embed holds no link if its address and text hold none. -/
theorem linkless_embedHtml {base slug : Text} (linkless : Linkless WikiLink.cut? base)
    (slugOpened : '[' ∉ slug) (slugClosed : ']' ∉ slug) :
    Linkless WikiLink.cut? (embedHtml (Link.address base slug) title).write := by
  have notEscaped {c : Char} (other : c ∉ Html.entityChars) {text : Text} (none' : c ∉ text) :
      c ∉ Html.escape text := fun member => none' (Html.mem_of_mem_escape other member)
  have opened : '[' ∉ Html.escape title := notEscaped (by decide) fun member =>
    (plain _ member).1 rfl
  have closed : ']' ∉ Html.escape title := notEscaped (by decide) fun member =>
    (plain _ member).2.1 rfl
  have written : (embedHtml (Link.address base slug) title).write =
      "<div class=\"embed-link\"><a href=\"".toList ++
        (Html.escape (Text.dropEnd (· == '/') base) ++
          (Html.escape ('/' :: slug) ++ "\">".toList ++ Html.escape title ++
            "</a></div>".toList)) := by
    simp [embedHtml, Html.classed, Html.element, Html.write, Html.Piece.write, Html.Attribute.write,
      Link.address, Html.escape_append]
  rw [written]
  refine .append_left (by decide) (.append_right (linkless.of_isPrefix ?_).escape ?_ ?_)
  · exact Text.isPrefix_dropEnd _ base
  · simp only [List.mem_append, not_or]
    exact ⟨⟨⟨notEscaped (by decide) (by simpa using slugOpened), by decide⟩, opened⟩, by decide⟩
  · simp only [List.mem_append, not_or]
    exact ⟨⟨⟨notEscaped (by decide) (by simpa using slugClosed), by decide⟩, closed⟩, by decide⟩

/-- The embed of a title leads to the page of the note that is found, if the base holds no link. -/
theorem rewriteAll_embed (image : isImageName title = false)
    (linkless : Linkless WikiLink.cut? site.base) (slug : note.slug = Slug.ofPath note.path) :
    rewriteAll site ('!' :: WikiLink.toText ⟨title, none⟩) =
      ((embedHtml (Link.address site.base note.slug) title).write, []) := by
  have embedless := linkless_title nonempty plain
  have cut : cutEmbed? ('!' :: WikiLink.toText ⟨title, none⟩) = some (⟨title, none⟩, []) :=
    cut?_title nonempty plain
  have noImage : cutImage? ('!' :: WikiLink.toText ⟨title, none⟩) = none := by
    rw [cutImage?, cut]
    exact if_neg (by simp [image])
  have written : writeEmbed site ⟨title, none⟩ =
      (embedHtml (Link.address site.base note.slug) title).write := by
    rw [writeEmbed_eq, slug_title nonempty trimmed plain found]
    dsimp only [Option.getD_none]
    rw [trimmed]
  have boxless : Linkless WikiLink.cut? (embedHtml (Link.address site.base note.slug) title).write :=
    linkless_embedHtml plain linkless (slug ▸ Slug.not_mem_ofPath (by decide) (by decide) _)
      (slug ▸ Slug.not_mem_ofPath (by decide) (by decide) _)
  rw [rewriteAll, rewriteImages, rewriteLinks_of_linkless (linkless_cons noImage embedless.image),
    rewriteNotes, cuts_embed.rewriteLinks_of_some cut, cuts_embed.linksOf_of_some cut, written,
    rewriteLinks_nil, List.append_nil, rewriteLinks_of_linkless boxless,
    linksOf_of_linkless boxless]
  have none' := missing?_title trimmed plain found
  simp [linksOf, scan, scanFrom, missingOf, none']

end Title

end Prose

/-! ### Mechanics -/

namespace Mechanics

/-- The path of a track is that of the wiki link which names it. -/
theorem trackPath_toText {path : Text} {shown : Option Text}
    (plain : ∀ c ∈ path, c ≠ ']' ∧ c ≠ '|') (some' : ∀ text ∈ shown, text ≠ [] ∧ ']' ∉ text) :
    trackPath (WikiLink.toText ⟨path, shown⟩) = path := by
  have trimmed : Text.trim (WikiLink.toText ⟨path, shown⟩) = WikiLink.toText ⟨path, shown⟩ := by
    refine Text.trim_eq_self (fun c first => ?_) fun c last => ?_
    · obtain rfl := Option.some.inj first
      decide
    · rw [WikiLink.getLast?_toText] at last
      obtain rfl := Option.some.inj last
      decide
  rw [trackPath, trimmed, WikiLink.ofWhole?]
  by_cases empty : path = []
  · have none' : WikiLink.cut? (WikiLink.toText ⟨path, shown⟩) = none := by
      rw [empty]
      cases shown <;> rfl
    rw [none', empty]
  · have writable : (WikiLink.mk path shown).IsWritable := ⟨empty, plain, some'⟩
    have cut := writable.cut?_toText []
    rw [List.append_nil] at cut
    rw [cut]

section Track

variable (base : Text) (index : Index) {node : Node} (track : kindOf node.keyword = .track)
include track

theorem nodeHtml_track : nodeHtml base index node = .ok (trackHtml base index node) := by
  obtain ⟨keyword, args, properties, source, children⟩ := node
  rw [nodeHtml]
  dsimp only at track ⊢
  rw [track]

theorem blockHtml_track {source : Text} (read : Node.ofBlock source = [node]) :
    blockHtml base index source =
      .ok (Html.classed "div" language (trackHtml base index node)) := by
  rw [blockHtml, read, nodesHtml, nodeHtml_track base index track]
  rw [nodesHtml]
  show Except.ok (Html.classed "div" language (trackHtml base index node ++ [])) = _
  rw [List.append_nil]

end Track

theorem targets_trackHtml (base : Text) (index : Index) (node : Node) :
    (trackHtml base index node).targets =
      [Link.target base (index.slugOfPath (trackPath (propertyName node)))] := by
  simp [trackHtml, gap, label, entry, Html.Piece.targets, Html.Attribute.target?]

end Mechanics

namespace Directive

/-- The path that a directive links to, if its kind has one. -/
def linked? : Directive → Option Text
  | .trackCreate record => some record.path
  | .trackAdvance record => some record.path
  | .entityCreate record => some record.path
  | _ => none

theorem targets_toHtml {site : Site} {directive : Directive} {path : Text}
    (linked : directive.linked? = some path) {html : Html}
    (shown : directive.toHtml site = .ok html) :
    html.targets = [Link.target site.base (site.index.slugOfPath path)] := by
  cases directive <;> simp only [linked?, Option.some.injEq, reduceCtorEq] at linked <;> subst linked
  case trackCreate record =>
    obtain rfl := Except.ok.inj shown
    simp [TrackCreate.toHtml, span, trackMark, link, Html.Piece.targets]
  case entityCreate record =>
    obtain rfl := Except.ok.inj shown
    simp [EntityCreate.toHtml, span, link, Html.Piece.targets]
  case trackAdvance record =>
    obtain ⟨steps, stepsShown, shown⟩ := bind_eq_ok.1 shown
    obtain ⟨boxes, boxesShown, shown⟩ := bind_eq_ok.1 shown
    obtain ⟨_, -, rfl⟩ := Html.exists_of_number stepsShown
    obtain ⟨_, -, rfl⟩ := Html.exists_of_number boxesShown
    obtain rfl := Except.ok.inj shown
    simp [span, trackMark, link, Html.Piece.targets]

end Directive

/-! ### Agreement -/

/-- The ways to link to a note of a site: prose leads to `page`, mechanics and queries to
`anchor`. -/
structure Note.LeadsTo (note : Note) (site : Site) (page anchor : Text) : Prop where
  link : Prose.rewriteAll site (WikiLink.toText ⟨note.title, none⟩) =
    ("[" ++ note.title ++ "](" ++ page ++ ")", [])
  embed : Prose.rewriteAll site ('!' :: WikiLink.toText ⟨note.title, none⟩) =
    ((Prose.embedHtml page note.title).write, [])
  node : ∀ (node : Node) (shown : Option Text), Mechanics.kindOf node.keyword = .track →
    (∀ text ∈ shown, text ≠ [] ∧ ']' ∉ text) →
    Mechanics.propertyName node = WikiLink.toText ⟨note.path, shown⟩ →
    ∃ html : Html, Mechanics.nodeHtml site.base site.index node = .ok html ∧ html.targets = [anchor]
  block : ∀ (source : Text) (node : Node) (shown : Option Text), Node.ofBlock source = [node] →
    Mechanics.kindOf node.keyword = .track → (∀ text ∈ shown, text ≠ [] ∧ ']' ∉ text) →
    Mechanics.propertyName node = WikiLink.toText ⟨note.path, shown⟩ →
    ∃ html : Html, Mechanics.blockHtml site.base site.index source = .ok html ∧
      html.targets = [anchor]
  directive : ∀ (code : Text) (directive : Directive),
    Directive.read? code = some (.ok directive) → directive.linked? = some note.path →
    ∃ html : Html, Directive.renderCode? site code = some (.ok html) ∧ html.targets = [anchor]
  cell : ∀ label : Text, ∃ html : Html,
    Query.cell site.base note ⟨"file.link".toList, label⟩ = .ok html ∧ html.targets = [anchor]

/-- A note that is built from its path, and found by its title and by the name of its file. -/
structure Note.IsFound (note : Note) (site : Site) : Prop where
  built : ∃ frontmatter title source, Note.ofPath note.path frontmatter title source = .ok note
  byTitle : site.index.find? note.title = some note
  byStem : site.index.find? (Slug.stem note.path) = some note

/-- A note whose title and path can be written between double brackets, and whose title is not
taken for an image. -/
structure Note.IsPlain (note : Note) : Prop where
  trimmed : Text.trim note.title = note.title
  title : ∀ c ∈ note.title, c ≠ '[' ∧ c ≠ ']' ∧ c ≠ '|' ∧ c ≠ '#'
  path : ∀ c ∈ note.path, c ≠ ']' ∧ c ≠ '|'
  image : Prose.isImageName note.title = false

/-- Every way to link to a note leads to the address of its slug, but for anchors to a note
without a slug, which lead nowhere. -/
theorem leadsTo_page {notes : List Note} {base attachments : Text} {icons : IconTable} {note : Note}
    (found : note.IsFound (Site.ofNotes notes base attachments icons)) (plain : note.IsPlain)
    (titled : note.title ≠ []) (linkless : Prose.Linkless WikiLink.cut? base) :
    note.LeadsTo (Site.ofNotes notes base attachments icons) (Link.address base note.slug)
      (if note.slug = [] then ['#'] else Link.address base note.slug) := by
  obtain ⟨⟨_, _, _, built⟩, byTitle, byStem⟩ := found
  obtain ⟨trimmed, plainTitle, plainPath, image⟩ := plain
  have slug : note.slug = Slug.ofPath note.path := by
    obtain ⟨_, -, same⟩ := bind_eq_ok.1 built
    rw [← Except.ok.inj same]
  have siteLinkless : Prose.Linkless WikiLink.cut? (Site.ofNotes notes base attachments icons).base :=
    linkless.of_isPrefix (Text.isPrefix_dropEnd _ base)
  have path : (Site.ofNotes notes base attachments icons).index.slugOfPath note.path = note.slug :=
    Index.slugOfPath_eq slug byStem
  have address : Link.address (Site.ofNotes notes base attachments icons).base note.slug =
    Link.address base note.slug := Link.address_dropEnd base note.slug
  have anchor : Link.target (Site.ofNotes notes base attachments icons).base note.slug =
      if note.slug = [] then ['#'] else Link.address base note.slug := by
    rw [Link.target, address]
    simp only [List.isEmpty_iff]
  rw [← anchor, ← address]
  constructor
  case link => exact Prose.rewriteAll_link titled trimmed plainTitle byTitle
  case embed => exact Prose.rewriteAll_embed titled trimmed plainTitle byTitle image siteLinkless slug
  case node =>
    intro node shown track some' named
    refine ⟨_, Mechanics.nodeHtml_track _ _ track, ?_⟩
    rw [Mechanics.targets_trackHtml, named, Mechanics.trackPath_toText plainPath some', path]
  case block =>
    intro source node shown read track some' named
    refine ⟨_, Mechanics.blockHtml_track _ _ track read, ?_⟩
    rw [Html.targets_classed, Mechanics.targets_trackHtml, named,
      Mechanics.trackPath_toText plainPath some', path]
  case directive =>
    intro code directive read linked
    have notMove : ∀ move, directive = .move move → Numeral.IsSmall move.roll.score := by
      rintro move rfl
      cases linked
    obtain ⟨html, shown⟩ := Directive.succeeds_toHtml (Site.ofNotes notes base attachments icons)
      (Directive.isSmall_of_read? read) notMove
    refine ⟨html, (Directive.renderCode?_of_read? _ read).trans (congrArg some shown), ?_⟩
    rw [Directive.targets_toHtml linked shown, path]
  case cell =>
    intro label
    exact ⟨_, if_pos rfl, Link.targets_anchor _ _ _ _⟩

/-! ### Single notes -/

/-- The note at a path that has neither head nor source. -/
def bareNote (path : Text) : Note := ⟨path, Slug.ofPath path, Slug.stem path, [], none⟩

/-- The site of a single note. -/
def loneSite (base path : Text) : Site := .ofNotes [bareNote path] base "/attachments" .standard

theorem isFound_bareNote {base path : Text} (trimmed : Text.trim (Slug.stem path) = Slug.stem path) :
    (bareNote path).IsFound (loneSite base path) := by
  have found : (loneSite base path).index.find? (Slug.stem path) = some (bareNote path) := by
    show List.lookup (Text.lower (Text.trim (Slug.stem path)))
      [(Text.lower (Slug.stem path), bareNote path), _] = _
    rw [trimmed, List.lookup_cons, beq_self_eq_true]
  exact ⟨⟨[], [], none, rfl⟩, found, found⟩

theorem isPlain_bareNote {path : Text} (trimmed : Text.trim (Slug.stem path) = Slug.stem path)
    (title : (Slug.stem path).all fun c => c ≠ '[' && c ≠ ']' && c ≠ '|' && c ≠ '#')
    (inPath : path.all fun c => c ≠ ']' && c ≠ '|')
    (image : Prose.isImageName (Slug.stem path) = false) : (bareNote path).IsPlain where
  trimmed := trimmed
  title c member := by simpa [and_assoc] using List.all_eq_true.1 title c member
  path c member := by simpa using List.all_eq_true.1 inPath c member
  image := image

/-- A note in a folder, under a base that ends in a slash. -/
theorem leadsTo_page_kira :
    let path : Text := "Characters/Kira Vale.md"
    let code : Text := "iv-entity-create:Character|Kira|Characters/Kira Vale.md"
    let page : Text := "/log/characters/kira-vale"
    (bareNote path).IsFound (loneSite "/log/" path) ∧ (bareNote path).IsPlain ∧
      (bareNote path).title ≠ [] ∧ Prose.Linkless WikiLink.cut? "/log/".toList ∧
      (bareNote path).LeadsTo (loneSite "/log/" path) page page ∧
      ∃ html : Html, Directive.renderCode? (loneSite "/log/" path) code = some (.ok html) ∧
        html.targets = [page] := by
  intro path code page
  have trimmed : Text.trim (Slug.stem path) = Slug.stem path := by decide +kernel
  have plain : (bareNote path).IsPlain :=
    isPlain_bareNote trimmed (by decide +kernel) (by decide +kernel) (by decide +kernel)
  have titled : (bareNote path).title ≠ [] := by decide +kernel
  have linkless : Prose.Linkless WikiLink.cut? "/log/".toList :=
    Prose.linkless_of_not_mem (by decide)
  have found : (bareNote path).IsFound (loneSite "/log/" path) := isFound_bareNote trimmed
  have leads := leadsTo_page found plain titled linkless
  have address : Link.address "/log/" (bareNote path).slug = page := by decide +kernel
  have someSlug : (bareNote path).slug ≠ [] := by decide +kernel
  rw [if_neg someSlug, address] at leads
  have read : Directive.read? code = some (.ok (.entityCreate ⟨"Character", "Kira", path⟩)) := by
    decide +kernel
  exact ⟨found, plain, titled, linkless, leads, leads.directive code _ read rfl⟩

/-- A note whose name holds no letter has no slug, one without a name has no link by its title, and
a base that holds a link takes the embed apart. -/
theorem exists_other_page :
    ((bareNote "!!!.md").IsFound (loneSite "" "!!!.md") ∧ (bareNote "!!!.md").IsPlain ∧
      ¬(bareNote "!!!.md").LeadsTo (loneSite "" "!!!.md") "/" "/") ∧
    ((bareNote "x/.md").IsFound (loneSite "" "x/.md") ∧ (bareNote "x/.md").IsPlain ∧
      ¬(bareNote "x/.md").LeadsTo (loneSite "" "x/.md") "/x" "/x") ∧
    ((bareNote "a.md").IsFound (loneSite "[[b]]" "a.md") ∧ (bareNote "a.md").IsPlain ∧
      ¬(bareNote "a.md").LeadsTo (loneSite "[[b]]" "a.md") "[[b]]/a" "[[b]]/a") := by
  refine ⟨⟨isFound_bareNote (by decide +kernel), ?_, fun leads => ?_⟩,
    ⟨isFound_bareNote (by decide +kernel), ?_, fun leads => ?_⟩,
    ⟨isFound_bareNote (by decide +kernel), ?_, fun leads => ?_⟩⟩
  · exact isPlain_bareNote (by decide +kernel) (by decide +kernel) (by decide +kernel)
      (by decide +kernel)
  · obtain ⟨html, shown, same⟩ := leads.cell []
    obtain rfl := Except.ok.inj shown
    revert same
    decide +kernel
  · exact isPlain_bareNote (by decide +kernel) (by decide +kernel) (by decide +kernel)
      (by decide +kernel)
  · have same := leads.link
    revert same
    decide +kernel
  · exact isPlain_bareNote (by decide +kernel) (by decide +kernel) (by decide +kernel)
      (by decide +kernel)
  · have same := leads.embed
    revert same
    decide +kernel

end CampaignPress
