/-
This file shows that links are rewritten where they stand. A text that is plain
text with images, embeds and links between is read by each of the three passes
part by part: a pass finds the items of its own kind, reads the items of the later
kinds as plain characters, and what an earlier pass has written opens nothing that
it could find. So every item becomes what it becomes alone, and the plain text
between stays.
-/
import CampaignPress.Proofs.Index
import CampaignPress.Proofs.Prose.Linkless

namespace CampaignPress

namespace Prose

variable {cut? : Text → Option (WikiLink × Text)} {text : Text} {pieces : List Piece}

/-! ### Reading part by part -/

/-- A text that a cutter reads as some pieces, whatever follows it. -/
def Reads (cut? : Text → Option (WikiLink × Text)) (text : Text) (pieces : List Piece) : Prop :=
  ∀ after, scan cut? (text ++ after) = pieces ++ scan cut? after

theorem reads_nil : Reads cut? [] [] := fun _ => rfl

theorem Reads.append {text' : Text} {pieces' : List Piece} (left : Reads cut? text pieces)
    (right : Reads cut? text' pieces') : Reads cut? (text ++ text') (pieces ++ pieces') := by
  intro after
  rw [List.append_assoc, left, right, List.append_assoc]

theorem reads_flatMap {Part : Type} {parts : List Part} {form : Part → Text}
    {piecesOf : Part → List Piece} (each : ∀ part ∈ parts, Reads cut? (form part) (piecesOf part)) :
    Reads cut? (parts.flatMap form) (parts.flatMap piecesOf) := by
  induction parts with
  | nil => exact reads_nil
  | cons part parts inductionHypothesis =>
    rw [List.forall_mem_cons] at each
    rw [List.flatMap_cons, List.flatMap_cons]
    exact each.1.append (inductionHypothesis each.2)

theorem Reads.cons {c : Char} (none' : ∀ after, cut? (c :: (text ++ after)) = none)
    (reads : Reads cut? text pieces) : Reads cut? (c :: text) (.plain c :: pieces) := by
  intro after
  rw [List.cons_append, scan_of_none (none' after), reads, List.cons_append]

section Cuts

variable (cuts : Cuts cut?)
include cuts

theorem Cuts.reads_link {link : WikiLink}
    (found : ∀ after, cut? (text ++ after) = some (link, after)) :
    Reads cut? text [.link link] :=
  fun after => cuts.scan_of_some (found after)

/-- A link begins with two brackets, or with an exclamation mark and two brackets. -/
theorem Cuts.eq_none {c : Char} {rest : Text} (single : ¬['[', '['] <+: c :: rest)
    (apart : c = '!' → ¬['[', '['] <+: rest) : cut? (c :: rest) = none := by
  refine Option.eq_none_iff_forall_ne_some.2 fun ⟨link, after⟩ found => ?_
  obtain ⟨-, before, mark, same⟩ := cuts.shape found
  have opened : ['[', '['] <+: link.toText ++ after := ⟨_, rfl⟩
  rcases mark with rfl | rfl
  · rw [List.nil_append] at same
    exact single (same ▸ opened)
  · obtain ⟨rfl, rfl⟩ := List.cons.inj same
    exact apart rfl opened

/-- Text in which no bracket opens is read as it is, if no exclamation mark at its end comes
before a bracket. -/
theorem Cuts.reads_append {before : Text} (closed : '[' ∉ before)
    (apart : before.getLast? = some '!' → ∃ d ∈ text.head?, d ≠ '[')
    (reads : Reads cut? text pieces) :
    Reads cut? (before ++ text) (before.map .plain ++ pieces) := by
  induction before with
  | nil => exact reads
  | cons c before inductionHypothesis =>
    rw [List.mem_cons, not_or] at closed
    have later : before.getLast? = some '!' → ∃ d ∈ text.head?, d ≠ '[' := fun last =>
      apart (by rw [List.getLast?_cons, last]; rfl)
    refine Reads.cons (fun after => cuts.eq_none ?_ ?_) (inductionHypothesis closed.2 later)
    · simp [closed.1]
    · rintro rfl
      cases before with
      | nil =>
        obtain ⟨d, first, other⟩ := apart rfl
        obtain ⟨rest, rfl⟩ := List.head?_eq_some_iff.1 first
        simp [other.symm]
      | cons d before =>
        have first : '[' ≠ d := List.ne_of_not_mem_cons closed.2
        simp [first]

theorem Cuts.reads_plain {plain : Text} (closed : '[' ∉ plain)
    (apart : plain.getLast? ≠ some '!') : Reads cut? plain (plain.map .plain) := by
  have reads := cuts.reads_append closed (fun last => absurd last apart) reads_nil
  rwa [List.append_nil, List.append_nil] at reads

end Cuts

/-! ### What is written -/

/-- A text that opens a single bracket, after an exclamation mark at its beginning, or none. -/
def IsSealed (text : Text) : Prop :=
  ∃ start body, text = start ++ body ∧ (start = [] ∨ start = ['!', '[']) ∧ body ≠ [] ∧
    '[' ∉ body ∧ body.getLast? ≠ some '!'

theorem IsSealed.exists_head? (isSealed : IsSealed text) : ∃ d ∈ text.head?, d ≠ '[' := by
  obtain ⟨start, body, rfl, opening, nonempty, closed, -⟩ := isSealed
  rcases opening with rfl | rfl
  · obtain ⟨d, body, rfl⟩ := List.exists_cons_of_ne_nil nonempty
    exact ⟨d, rfl, (List.ne_of_not_mem_cons closed).symm⟩
  · exact ⟨'!', rfl, by decide⟩

/-- A sealed text is read as it is. -/
theorem Cuts.reads_of_isSealed (cuts : Cuts cut?) (isSealed : IsSealed text) :
    Reads cut? text (text.map .plain) := by
  obtain ⟨start, body, rfl, opening, nonempty, closed, last⟩ := isSealed
  have reads := cuts.reads_plain closed last
  rcases opening with rfl | rfl
  · exact reads
  · obtain ⟨d, body, rfl⟩ := List.exists_cons_of_ne_nil nonempty
    have single : '[' ≠ d := List.ne_of_not_mem_cons closed
    refine .cons (fun after => cuts.eq_none ?_ ?_) (.cons (fun after => cuts.eq_none ?_ ?_) reads)
    · simp
    · simp [single]
    · simp [single]
    · exact fun mark => absurd mark (by decide)

theorem isSealed_append {body ending : Text} (closed : '[' ∉ body ++ ending) {d : Char}
    (last : ending.getLast? = some d) (other : d ≠ '!') : IsSealed (body ++ ending) := by
  have whole : (body ++ ending).getLast? = some d := by rw [List.getLast?_append, last]; rfl
  refine ⟨[], body ++ ending, rfl, .inl rfl, ?_, closed, ?_⟩
  · intro empty
    rw [empty] at whole
    exact nomatch whole
  · rw [whole]
    exact fun same => other (Option.some.inj same)

/-- The text of an image opens its bracket after an exclamation mark. -/
theorem IsSealed.opening {body : Text} (isSealed : IsSealed body) (closed : '[' ∉ body) :
    IsSealed ('!' :: '[' :: body) := by
  obtain ⟨start, inner, rfl, opening, nonempty, -, last⟩ := isSealed
  rcases opening with rfl | rfl
  · exact ⟨['!', '['], inner, rfl, .inr rfl, nonempty, closed, last⟩
  · exact absurd (by simp) closed

theorem unopened_escape {text : Text} (closed : '[' ∉ text) : '[' ∉ Html.escape text :=
  fun member => closed (Html.mem_of_mem_escape (by decide) member)

section Written

variable {site : Site} {link : WikiLink} (base : '[' ∉ site.base) (target : '[' ∉ link.target)
include base target

theorem isSealed_writeImage (attachments : '[' ∉ site.attachments) :
    IsSealed (writeImage site link) := by
  have name : '[' ∉ (Path.ofText (Text.trim link.target)).name := fun member =>
    target (Text.mem_of_mem_trim (Path.mem_of_mem_name member))
  rw [← Path.stem_append_ending, List.mem_append, not_or] at name
  obtain ⟨stem, ending⟩ := name
  have address : '[' ∉ imageAddress site (Text.trim link.target) :=
    not_mem_imageAddress (by decide) (by decide) base attachments fun member =>
      ending (Text.opening_mem_of_mem_lower member)
  rw [writeImage]
  dsimp only
  split
  · have closed : '[' ∉ (Path.ofText (Text.trim link.target)).stem ++ "](".toList ++
        imageAddress site (Text.trim link.target) ++ ")".toList := by
      simp only [List.mem_append, not_or]
      exact ⟨⟨⟨stem, by decide⟩, address⟩, by decide⟩
    have written := (isSealed_append closed (d := ')') rfl (by decide)).opening closed
    simpa using written
  · refine isSealed_append ?_ (d := '>') rfl (by decide)
    simp only [List.mem_append, not_or]
    exact ⟨⟨⟨⟨⟨⟨by decide, unopened_escape address⟩, by decide⟩, unopened_escape stem⟩, by decide⟩,
      not_mem_imageStyle (by decide) (by decide) _⟩, by decide⟩

theorem isSealed_writeEmbed (shown : ∀ shown ∈ link.shown, '[' ∉ shown)
    (slugs : ∀ name slug, site.index.slug? name = some slug → '[' ∉ slug) :
    IsSealed (writeEmbed site link) := by
  have address := Link.not_mem_address (by decide) base
    (Target.not_mem_slug (by decide) (by decide) slugs (Target.ofLink link))
  have text : '[' ∉ link.shown.getD (Text.trim link.target) := by
    cases option : link.shown with
    | none => exact fun member => target (Text.mem_of_mem_trim member)
    | some text => exact shown text option
  unfold writeEmbed
  dsimp only
  refine isSealed_append ?_ (d := '>') rfl (by decide)
  simp only [List.mem_append, not_or]
  exact ⟨⟨⟨⟨by decide, unopened_escape address⟩, by decide⟩, unopened_escape text⟩, by decide⟩

end Written

/-! ### Items -/

/-- A wiki link in a text, embedded or not. -/
inductive Item where
  | embedded (link : WikiLink)
  | linked (link : WikiLink)

namespace Item

def wikiLink : Item → WikiLink
  | embedded link | linked link => link

def toText : Item → Text
  | embedded link => '!' :: link.toText
  | linked link => link.toText

/-- The link of an item that is embedded as an image. -/
def image? : Item → Option WikiLink
  | embedded link => if isImageName link.target then some link else none
  | linked _ => none

/-- The link of an item that is embedded as a note. -/
def embed? : Item → Option WikiLink
  | embedded link => if isImageName link.target then none else some link
  | linked _ => none

/-- The link of an item that is not embedded. -/
def link? : Item → Option WikiLink
  | embedded _ => none
  | linked link => some link

/-- What is written for an item. -/
def written (site : Site) : Item → Text
  | embedded link => if isImageName link.target then writeImage site link else writeEmbed site link
  | linked link => writeLink site link

/-- An item that is cut as it is written, and whose parts open no bracket. -/
@[mk_iff]
structure IsClosed (item : Item) : Prop where
  link : item.wikiLink.IsWritable
  target : '[' ∉ item.wikiLink.target
  shown : ∀ shown ∈ item.wikiLink.shown, '[' ∉ shown

end Item

instance : DecidablePred Item.IsClosed := fun item => decidable_of_iff _ (item.isClosed_iff).symm

/-- An item with the plain text before it. -/
structure Part where
  before : Text
  item : Item

/-- A part whose text opens no bracket, and does not turn a link into an embed. -/
@[mk_iff]
structure Part.IsClosed (part : Part) : Prop where
  before : '[' ∉ part.before
  apart : part.item.link?.isSome → part.before.getLast? ≠ some '!'
  item : part.item.IsClosed

instance : DecidablePred Part.IsClosed := fun part => decidable_of_iff _ (part.isClosed_iff).symm

/-- The text of some parts, with each item in a form, and of what follows the last of them. -/
def joined (form : Item → Text) (parts : List Part) (last : Text) : Text :=
  parts.flatMap (fun part => part.before ++ form part.item) ++ last

/-! ### A single pass -/

/-- How a pass reads an item: as the link that it finds there, or as plain text. -/
def piecesOf (form : Item → Text) (found? : Item → Option WikiLink) (item : Item) : List Piece :=
  match found? item with
  | some link => [.link link]
  | none => (form item).map .plain

/-- The form of an item after a pass. -/
def afterPass (form : Item → Text) (found? : Item → Option WikiLink) (write : WikiLink → Text)
    (item : Item) : Text :=
  match found? item with
  | some link => write link
  | none => form item

/-- A pass that reads an item whatever follows it. In the form that the pass comes upon, only a link
begins with a bracket, so an exclamation mark before any other item stays plain. -/
structure Passes (cut? : Text → Option (WikiLink × Text)) (form : Item → Text)
    (found? : Item → Option WikiLink) (item : Item) : Prop where
  reads : Reads cut? (form item) (piecesOf form found? item)
  apart : item.link?.isSome ∨ ∃ d ∈ (form item).head?, d ≠ '['

section Pass

variable {form : Item → Text} {found? : Item → Option WikiLink} {parts : List Part} {last : Text}
  (cuts : Cuts cut?) (closed : ∀ part ∈ parts, part.IsClosed)
  (passes : ∀ part ∈ parts, Passes cut? form found? part.item) (closedLast : '[' ∉ last)
include cuts closed passes closedLast

theorem Cuts.scan_joined : scan cut? (joined form parts last) =
    parts.flatMap (fun part => part.before.map .plain ++ piecesOf form found? part.item) ++
      last.map .plain := by
  have each : ∀ part ∈ parts, Reads cut? (part.before ++ form part.item)
      (part.before.map .plain ++ piecesOf form found? part.item) := by
    intro part member
    refine cuts.reads_append (closed part member).before (fun mark => ?_) (passes part member).reads
    rcases (passes part member).apart with some | first
    · exact absurd mark ((closed part member).apart some)
    · exact first
  have linkless : Linkless cut? last := by
    intro rest suffix
    refine Option.eq_none_iff_forall_ne_some.2 fun ⟨link, after⟩ found => ?_
    obtain ⟨-, before, -, rfl⟩ := cuts.shape found
    exact closedLast (suffix.subset (by simp [WikiLink.toText]))
  rw [joined, reads_flatMap each, scan_of_linkless linkless]

theorem Cuts.rewriteLinks_joined (write : WikiLink → Text) :
    rewriteLinks cut? write (joined form parts last) =
      joined (afterPass form found? write) parts last := by
  rw [rewriteLinks, cuts.scan_joined closed passes closedLast, List.flatMap_append,
    List.flatMap_map, List.flatMap_assoc, joined]
  refine congrArg₂ (· ++ ·) (List.flatMap_congr fun part _ => ?_) (List.flatMap_singleton' last)
  rw [List.flatMap_append, List.flatMap_map, piecesOf, afterPass]
  refine congrArg₂ (· ++ ·) (List.flatMap_singleton' part.before) ?_
  cases found? part.item with
  | none =>
    rw [List.flatMap_map]
    exact List.flatMap_singleton' (form part.item)
  | some link => exact List.flatMap_singleton _ _

theorem Cuts.linksOf_joined :
    linksOf cut? (joined form parts last) = parts.filterMap fun part => found? part.item := by
  have plain (text : Text) : text.filterMap (fun _ => (none : Option WikiLink)) = [] :=
    List.filterMap_eq_nil_iff.2 fun _ _ => rfl
  rw [linksOf, cuts.scan_joined closed passes closedLast, List.filterMap_append,
    List.filterMap_map, List.filterMap_flatMap,
    List.filterMap_eq_flatMap_toList _ parts]
  refine (congrArg₂ (· ++ ·) (List.flatMap_congr fun part _ => ?_) (plain last)).trans
    (List.append_nil _)
  rw [List.filterMap_append, List.filterMap_map, piecesOf]
  refine (congrArg (· ++ _) (plain part.before)).trans ?_
  cases found? part.item with
  | none =>
    rw [List.filterMap_map]
    exact plain (form part.item)
  | some link => rfl

end Pass

/-! ### The three passes -/

section Passes

variable {form : Item → Text} {found? : Item → Option WikiLink} {write : WikiLink → Text}
  {item : Item} {link : WikiLink}

theorem afterPass_of_some (found : found? item = some link) :
    afterPass form found? write item = write link := by
  rw [afterPass, found]

theorem afterPass_of_none (none' : found? item = none) :
    afterPass form found? write item = form item := by
  rw [afterPass, none']

theorem Cuts.passes_of_some (cuts : Cuts cut?) (found : found? item = some link)
    (cut : ∀ after, cut? (form item ++ after) = some (link, after))
    (apart : item.link?.isSome ∨ ∃ d ∈ (form item).head?, d ≠ '[') :
    Passes cut? form found? item := by
  refine ⟨?_, apart⟩
  rw [piecesOf, found]
  exact cuts.reads_link cut

theorem passes_of_none (none' : found? item = none)
    (reads : Reads cut? (form item) ((form item).map .plain))
    (apart : item.link?.isSome ∨ ∃ d ∈ (form item).head?, d ≠ '[') :
    Passes cut? form found? item := by
  refine ⟨?_, apart⟩
  rwa [piecesOf, none']

theorem Cuts.passes_of_isSealed (cuts : Cuts cut?) (none' : found? item = none)
    (isSealed : IsSealed (form item)) : Passes cut? form found? item :=
  passes_of_none none' (cuts.reads_of_isSealed isSealed) (.inr isSealed.exists_head?)

/-- A link without an exclamation mark before it is read as plain text by a cutter of embeds. -/
theorem Item.IsClosed.reads_toText (closed : item.IsClosed) (cuts : Cuts cut?)
    (bracket : ∀ rest, cut? ('[' :: rest) = none) :
    Reads cut? item.wikiLink.toText (item.wikiLink.toText.map .plain) := by
  have shown : '[' ∉ (item.wikiLink.shown.map ('|' :: ·)).getD [] := by
    cases option : item.wikiLink.shown with
    | none => exact List.not_mem_nil
    | some shown => simpa using closed.shown shown option
  refine .cons (fun _ => bracket _) (.cons (fun _ => bracket _) (cuts.reads_plain ?_ (by simp)))
  simp [closed.target, shown]

/-- The text after the pass over images. -/
def afterImages (site : Site) : Item → Text :=
  afterPass Item.toText Item.image? (writeImage site)

/-- The text after the passes over images and embeds. -/
def afterEmbeds (site : Site) : Item → Text :=
  afterPass (afterImages site) Item.embed? (writeEmbed site)

theorem afterPass_links (site : Site) :
    afterPass (afterEmbeds site) Item.link? (writeLink site) = Item.written site := by
  funext item
  cases item with
  | embedded link =>
    rw [afterPass_of_none rfl, Item.written]
    split
    · rename_i image
      rw [afterEmbeds, afterPass_of_none (if_pos image), afterImages,
        afterPass_of_some (if_pos image)]
    · rename_i noImage
      rw [afterEmbeds, afterPass_of_some (if_neg noImage)]
  | linked link => rfl

variable (closed : item.IsClosed)
include closed

theorem passes_images : Passes cutImage? Item.toText Item.image? item := by
  cases item with
  | embedded link =>
    have apart : ∃ d ∈ (Item.embedded link).toText.head?, d ≠ '[' := ⟨'!', rfl, by decide⟩
    have embed (after : Text) : cutEmbed? ((Item.embedded link).toText ++ after) =
        some (link, after) := closed.link.cut?_toText after
    by_cases image : isImageName link.target
    · refine cuts_image.passes_of_some (if_pos image) (fun after => ?_) (.inr apart)
      rw [cutImage?, embed]
      exact if_pos image
    -- The pass finds the embed of a note, too, and leaves it for its name.
    · refine passes_of_none (if_neg image) (.cons (fun after => ?_)
        (closed.reads_toText cuts_image fun _ => rfl)) (.inr apart)
      have cut : cutEmbed? ('!' :: (link.toText ++ after)) = some (link, after) := embed after
      rw [cutImage?, cut]
      exact if_neg image
  | linked link => exact passes_of_none rfl (closed.reads_toText cuts_image fun _ => rfl) (.inl rfl)

variable {site : Site} (base : '[' ∉ site.base)
include base

theorem passes_embeds (attachments : '[' ∉ site.attachments) :
    Passes cutEmbed? (afterImages site) Item.embed? item := by
  cases item with
  | embedded link =>
    by_cases image : isImageName link.target
    · refine cuts_embed.passes_of_isSealed (if_pos image) ?_
      rw [afterImages, afterPass_of_some (if_pos image)]
      exact isSealed_writeImage base closed.target attachments
    · have form : afterImages site (.embedded link) = '!' :: link.toText :=
        afterPass_of_none (if_neg image)
      refine cuts_embed.passes_of_some (if_neg image) (fun after => ?_) (.inr ⟨'!', ?_, by decide⟩)
      · rw [form]
        exact closed.link.cut?_toText after
      · rw [form]
        rfl
  | linked link => exact passes_of_none rfl (closed.reads_toText cuts_embed fun _ => rfl) (.inl rfl)

theorem passes_links (attachments : '[' ∉ site.attachments)
    (slugs : ∀ name slug, site.index.slug? name = some slug → '[' ∉ slug) :
    Passes WikiLink.cut? (afterEmbeds site) Item.link? item := by
  cases item with
  | embedded link =>
    refine cuts_link.passes_of_isSealed rfl ?_
    by_cases image : isImageName link.target
    · rw [afterEmbeds, afterPass_of_none (if_pos image), afterImages,
        afterPass_of_some (if_pos image)]
      exact isSealed_writeImage base closed.target attachments
    · rw [afterEmbeds, afterPass_of_some (if_neg image)]
      exact isSealed_writeEmbed base closed.target closed.shown slugs
  | linked link => exact cuts_link.passes_of_some rfl closed.link.cut?_toText (.inl rfl)

end Passes

/-! ### The whole text -/

/-- The name of the note that a link leads to: its target without the section, trimmed. -/
def noteName (link : WikiLink) : Text := Text.trim (link.target.takeWhile (· ≠ '#'))

theorem note_ofLink (link : WikiLink) : (Target.ofLink link).note = noteName link := by
  obtain ⟨before, after, same, blankBefore, blankAfter⟩ := Text.exists_trim link.target
  have noSign {blanks : Text} (blank : ∀ c ∈ blanks, Text.isBlank c) : '#' ∉ blanks := fun member =>
    absurd (blank _ member) (by decide)
  have inside {name : Text} (single : '#' ∉ name) : ∀ c ∈ name, decide (c ≠ '#') = true :=
    fun c member => decide_eq_true fun sign => single (sign ▸ member)
  rw [Target.ofLink, noteName]
  split
  · rename_i note heading cut
    obtain ⟨whole, first⟩ := Text.cutAt_eq_some_iff.1 cut
    rw [whole, List.append_assoc, List.append_assoc, List.cons_append, ← List.append_assoc] at same
    rw [same, Text.takeWhile_append_cons (inside (by simp [noSign blankBefore, first])) (by decide),
      Text.trim_append_left blankBefore]
  · rename_i cut
    have single : '#' ∉ link.target := by
      rw [same]
      simp [noSign blankBefore, noSign blankAfter, Text.cutAt_eq_none_iff.1 cut]
    rw [List.takeWhile_eq_self_iff.2 (inside single)]

/-- The names that are missed are those that no note answers to. -/
theorem missingOf_eq_filter (site : Site) (links : List WikiLink) :
    missingOf site links = (links.map noteName).filter fun name =>
      !name.isEmpty && (site.index.find? name).isNone := by
  induction links with
  | nil => rfl
  | cons link links inductionHypothesis =>
    rw [missingOf] at inductionHypothesis ⊢
    rw [List.filterMap_cons, inductionHypothesis, List.map_cons, List.filter_cons, Target.missing?,
      note_ofLink, Index.slug?, Option.isSome_map]
    cases (noteName link).isEmpty <;> cases (site.index.find? (noteName link)) <;> rfl

section Whole

variable {site : Site} (base : '[' ∉ site.base) (attachments : '[' ∉ site.attachments)
  (slugs : ∀ name slug, site.index.slug? name = some slug → '[' ∉ slug)
include base attachments slugs

theorem rewriteAll_eq_joined {parts : List Part} {last : Text}
    (closed : ∀ part ∈ parts, part.IsClosed) (closedLast : '[' ∉ last) :
    rewriteAll site (joined Item.toText parts last) = (joined (Item.written site) parts last,
      missingOf site (parts.filterMap (·.item.embed?)) ++
        missingOf site (parts.filterMap (·.item.link?))) := by
  have images : rewriteImages site (joined Item.toText parts last) =
      joined (afterImages site) parts last :=
    cuts_image.rewriteLinks_joined closed
      (fun part member => passes_images (closed part member).item) closedLast _
  have passesEmbeds : ∀ part ∈ parts, Passes cutEmbed? (afterImages site) Item.embed? part.item :=
    fun part member => passes_embeds (closed part member).item base attachments
  have embeds : rewriteLinks cutEmbed? (writeEmbed site) (joined (afterImages site) parts last) =
      joined (afterEmbeds site) parts last :=
    cuts_embed.rewriteLinks_joined closed passesEmbeds closedLast _
  have passesLinks : ∀ part ∈ parts, Passes WikiLink.cut? (afterEmbeds site) Item.link? part.item :=
    fun part member => passes_links (closed part member).item base attachments slugs
  rw [rewriteAll, images, rewriteNotes, embeds, cuts_link.rewriteLinks_joined closed passesLinks
    closedLast, afterPass_links, cuts_embed.linksOf_joined closed passesEmbeds closedLast,
    cuts_link.linksOf_joined closed passesLinks closedLast]

theorem rewriteAll_item {item : Item} (closed : item.IsClosed) :
    (rewriteAll site item.toText).1 = item.written site := by
  have single : ∀ part ∈ [Part.mk [] item], part.IsClosed :=
    List.forall_mem_singleton.2 ⟨List.not_mem_nil, fun _ => nofun, closed⟩
  have alone (form : Item → Text) : joined form [⟨[], item⟩] [] = form item := by
    simp [joined]
  rw [← alone Item.toText, rewriteAll_eq_joined base attachments slugs single List.not_mem_nil,
    alone]

end Whole

/-- Links are rewritten where they stand: in plain text with items between, every item becomes what
it becomes alone, and the names that no note answers to are missed, those of embeds first. -/
theorem rewriteAll_joined {notes : List Note} {base attachments : Text}
    (slugs : ∀ note ∈ notes, ∃ path, note.slug = Slug.ofPath path) (unbracketed : '[' ∉ base)
    (unbracketedFolder : '[' ∉ attachments) (icons : IconTable) {parts : List Part} {last : Text}
    (closed : ∀ part ∈ parts, part.IsClosed) (closedLast : '[' ∉ last) :
    let site := Site.ofNotes notes base attachments icons
    rewriteAll site (joined Item.toText parts last) =
        (joined (fun item => (rewriteAll site item.toText).1) parts last,
          ((parts.filterMap (·.item.embed?) ++ parts.filterMap (·.item.link?)).map noteName).filter
            fun name => !name.isEmpty && (site.index.find? name).isNone) ∧
      ∀ part ∈ parts, (rewriteAll site part.item.toText).1 = part.item.written site := by
  intro site
  have siteBase : '[' ∉ site.base := fun member => unbracketed (Text.mem_of_mem_dropEnd member)
  have siteFolder : '[' ∉ site.attachments :=
    Site.not_mem_attachments (by decide) unbracketedFolder notes base icons
  have siteSlugs : ∀ name slug, site.index.slug? name = some slug → '[' ∉ slug :=
    fun _ _ => Index.not_mem_of_slug? slugs (by decide) (by decide)
  have each : ∀ part ∈ parts, (rewriteAll site part.item.toText).1 = part.item.written site :=
    fun part member => rewriteAll_item siteBase siteFolder siteSlugs (closed part member).item
  refine ⟨?_, each⟩
  rw [rewriteAll_eq_joined siteBase siteFolder siteSlugs closed closedLast, missingOf_eq_filter,
    missingOf_eq_filter, List.map_append, List.filter_append]
  have same : joined (Item.written site) parts last =
      joined (fun item => (rewriteAll site item.toText).1) parts last :=
    congrArg (· ++ last) (List.flatMap_congr fun part member =>
      congrArg (part.before ++ ·) (each part member).symm)
  rw [same]

/-- Four items stand next to each other, after an exclamation mark. -/
theorem rewriteAll_joined_adjacent :
    let kira : Note := ⟨"Kira.md".toList, "kira".toList, "Kira".toList, [], none⟩
    let site := Site.ofNotes [kira] "/log".toList "media".toList .standard
    let parts : List Part := [
      ⟨"Hi!".toList, .embedded ⟨"a b.PNG".toList, some "40".toList⟩⟩,
      ⟨[], .embedded ⟨"Nobody#x".toList, none⟩⟩,
      ⟨[], .linked ⟨"Kira".toList, none⟩⟩,
      ⟨[], .linked ⟨"Nowhere".toList, some "there".toList⟩⟩]
    let last : Text := "!".toList
    kira.slug = Slug.ofPath kira.path ∧ (∀ part ∈ parts, part.IsClosed) ∧ '[' ∉ last ∧
      joined Item.toText parts last =
        "Hi!![[a b.PNG|40]]![[Nobody#x]][[Kira]][[Nowhere|there]]!".toList ∧
      rewriteAll site (joined Item.toText parts last) =
        (joined (fun item => (rewriteAll site item.toText).1) parts last,
          ["Nobody".toList, "Nowhere".toList]) := by
  intro kira site parts last
  have slug : kira.slug = Slug.ofPath kira.path := by decide
  have known : ∀ note ∈ [kira], ∃ path, note.slug = Slug.ofPath path :=
    List.forall_mem_singleton.2 ⟨kira.path, slug⟩
  have closed : ∀ part ∈ parts, part.IsClosed := by decide
  have closedLast : '[' ∉ last := by decide
  have unbracketed : '[' ∉ "/log".toList ∧ '[' ∉ "media".toList := by decide
  have whole :=
    (rewriteAll_joined known unbracketed.1 unbracketed.2 .standard closed closedLast).1
  exact ⟨slug, closed, closedLast, rfl, whole.trans (congrArg (Prod.mk _) (by decide))⟩

end Prose

end CampaignPress
