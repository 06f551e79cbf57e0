/-
This file shows that links are found alike whatever stands in the places of a
template. Nothing that a placeholder is made of opens, closes or divides a link
or ends the name of an image, so filling a template with other placeholders moves
no link, and what is written for links can be followed on the template.
-/
import CampaignPress.Proofs.Prose.Embed
import CampaignPress.Proofs.Prose.Template

namespace CampaignPress

namespace CodeSpan

/-! ### Items -/

/-- Items that hold a mark and nothing but characters of placeholders. -/
structure IsOpaque (item : Nat → Text) : Prop where
  marked : ∀ position, '\x00' ∈ item position
  inner : ∀ position, ∀ c ∈ item position, isInner c

theorem isOpaque_placeholder : IsOpaque placeholder where
  marked _ := List.mem_append_right _ (List.mem_singleton_self _)
  inner _ _ := isInner_of_mem_placeholder

namespace Template

/-- A text as a template without places. -/
def ofText (text : Text) : Template := text.map .char

variable {item : Nat → Text} {template : Template}

@[simp]
theorem fill_ofText (item : Nat → Text) (text : Text) : fill item (ofText text) = text := by
  rw [fill, ofText, List.flatMap_map]
  exact List.flatMap_singleton' text

@[simp]
theorem positions_ofText (text : Text) : positions (ofText text) = [] := by
  rw [positions, ofText, List.filterMap_map]
  exact List.filterMap_eq_nil_iff.2 fun _ _ => rfl

theorem char_mem_ofText {text : Text} {c : Char} : .char c ∈ ofText text ↔ c ∈ text := by
  simp [ofText]

section Opaque

variable (isOpaque : IsOpaque item)
include isOpaque

theorem fill_eq_nil_iff : fill item template = [] ↔ template = [] := by
  constructor
  · intro empty
    cases template with
    | nil => rfl
    | cons slot rest =>
      cases slot with
      | char c => exact nomatch empty
      | span position =>
        have first := (List.append_eq_nil_iff.1 empty).1
        exact absurd (isOpaque.marked position) (List.eq_nil_iff_forall_not_mem.1 first _)
  · rintro rfl
    rfl

theorem mem_fill_of_outer {c : Char} (outer : isInner c = false) :
    c ∈ fill item template ↔ .char c ∈ template := by
  rw [fill, List.mem_flatMap]
  constructor
  · rintro ⟨slot, member, inSlot⟩
    cases slot with
    | char d => rwa [List.mem_singleton.1 inSlot]
    | span position =>
      exact absurd (isOpaque.inner position c inSlot) (Bool.eq_false_iff.1 outer)
  · exact fun member => ⟨_, member, List.mem_singleton_self c⟩

/-- A filled template is cut apart at a character that no item holds. -/
theorem exists_of_fill_eq_append_cons {before after : Text} {c : Char} (outer : isInner c = false)
    (same : fill item template = before ++ c :: after) :
    ∃ left right, template = left ++ .char c :: right ∧ fill item left = before ∧
      fill item right = after := by
  induction template generalizing before with
  | nil => exact absurd same (by simp)
  | cons slot rest inductionHypothesis =>
    cases slot with
    | char d =>
      cases before with
      | nil =>
        obtain ⟨rfl, rfl⟩ := List.cons.inj same
        exact ⟨[], rest, rfl, rfl, rfl⟩
      | cons b before =>
        obtain ⟨rfl, deeper⟩ := List.cons.inj same
        obtain ⟨left, right, rfl, first, second⟩ := inductionHypothesis deeper
        exact ⟨.char d :: left, right, rfl, congrArg (d :: ·) first, second⟩
    | span position =>
      rw [fill_span] at same
      rcases List.append_eq_append_iff.1 same with ⟨middle, split, deeper⟩ | ⟨middle, split, deeper⟩
      · obtain ⟨left, right, rfl, first, second⟩ := inductionHypothesis deeper
        exact ⟨.span position :: left, right, rfl, by rw [split, fill_span, first], second⟩
      · cases middle with
        | nil =>
          rw [List.append_nil] at split
          have start : fill item rest = [] ++ c :: after := deeper.symm
          obtain ⟨left, right, rfl, first, second⟩ := inductionHypothesis start
          refine ⟨.span position :: left, right, rfl, ?_, second⟩
          rw [fill_span, first, List.append_nil, split]
        | cons d middle =>
          obtain ⟨rfl, -⟩ := List.cons.inj deeper
          have inside : c ∈ item position := by simp [split]
          exact absurd (isOpaque.inner position c inside) (Bool.eq_false_iff.1 outer)

theorem exists_of_fill_eq_cons {after : Text} {c : Char} (outer : isInner c = false)
    (same : fill item template = c :: after) :
    ∃ right, template = .char c :: right ∧ fill item right = after := by
  have start : fill item template = [] ++ c :: after := same
  obtain ⟨left, right, rfl, first, second⟩ := exists_of_fill_eq_append_cons isOpaque outer start
  rw [fill_eq_nil_iff isOpaque] at first
  exact ⟨right, by rw [first, List.nil_append], second⟩

/-- A filled template without a mark has no places. -/
theorem eq_ofText (unmarked : '\x00' ∉ fill item template) :
    template = ofText (fill item template) := by
  induction template with
  | nil => rfl
  | cons slot rest inductionHypothesis =>
    cases slot with
    | char c =>
      rw [fill_char, List.mem_cons, not_or] at unmarked
      exact congrArg (.char c :: ·) (inductionHypothesis unmarked.2)
    | span position =>
      rw [fill_span, List.mem_append, not_or] at unmarked
      exact absurd (isOpaque.marked position) unmarked.1

theorem fill_eq_of_unmarked (unmarked : '\x00' ∉ fill item template) (item' : Nat → Text) :
    fill item' template = fill item template :=
  (congrArg (fill item') (eq_ofText isOpaque unmarked)).trans (fill_ofText item' _)

theorem positions_eq_nil (unmarked : '\x00' ∉ fill item template) : positions template = [] :=
  (congrArg positions (eq_ofText isOpaque unmarked)).trans (positions_ofText _)

end Opaque

end Template

end CodeSpan

open CodeSpan

/-! ### Links in templates -/

/-- A link whose parts have places. -/
@[ext]
structure LinkTemplate where
  target : Template
  shown : Option Template

namespace LinkTemplate

def fill (item : Nat → Text) (link : LinkTemplate) : WikiLink :=
  ⟨link.target.fill item, link.shown.map (Template.fill item)⟩

/-- The link as it stands in a template. -/
def toTemplate (link : LinkTemplate) : Template :=
  .char '[' :: .char '[' ::
    (link.target ++ (link.shown.map (.char '|' :: ·)).getD [] ++ [.char ']', .char ']'])

variable {item item' : Nat → Text} {link : LinkTemplate}

theorem fill_toTemplate (item : Nat → Text) (link : LinkTemplate) :
    link.toTemplate.fill item = (link.fill item).toText := by
  obtain ⟨target, shown⟩ := link
  cases shown <;> simp [toTemplate, fill, WikiLink.toText]

theorem positions_toTemplate (link : LinkTemplate) :
    link.toTemplate.positions = link.target.positions ++ (link.shown.getD []).positions := by
  obtain ⟨target, shown⟩ := link
  cases shown <;> simp [toTemplate]

/-- A link in a filled template is a filled link. -/
theorem exists_of_fill_eq_toText (isOpaque : IsOpaque item) {template : Template}
    {written : WikiLink} {after : Text} (same : template.fill item = written.toText ++ after) :
    ∃ link rest, template = toTemplate link ++ rest ∧ link.fill item = written ∧
      Template.fill item rest = after := by
  obtain ⟨target, shown⟩ := written
  obtain ⟨_, rfl, bracket⟩ := Template.exists_of_fill_eq_cons isOpaque rfl same
  obtain ⟨opened, rfl, inside⟩ := Template.exists_of_fill_eq_cons isOpaque rfl bracket
  cases shown with
  | none =>
    have parts : Template.fill item opened = target ++ ']' :: ']' :: after := by
      simpa using inside
    obtain ⟨left, closing, rfl, rfl, closed⟩ :=
      Template.exists_of_fill_eq_append_cons isOpaque rfl parts
    obtain ⟨rest, rfl, rfl⟩ := Template.exists_of_fill_eq_cons isOpaque rfl closed
    exact ⟨⟨left, none⟩, rest, by simp [toTemplate], rfl, rfl⟩
  | some shown =>
    have parts : Template.fill item opened = target ++ '|' :: (shown ++ ']' :: ']' :: after) := by
      simpa using inside
    obtain ⟨left, right, rfl, rfl, option⟩ :=
      Template.exists_of_fill_eq_append_cons isOpaque rfl parts
    obtain ⟨middle, closing, rfl, rfl, closed⟩ :=
      Template.exists_of_fill_eq_append_cons isOpaque rfl option
    obtain ⟨rest, rfl, rfl⟩ := Template.exists_of_fill_eq_cons isOpaque rfl closed
    exact ⟨⟨left, some middle⟩, rest, by simp [toTemplate], rfl, rfl⟩

/-- Whether a filled link is writable does not depend on what it is filled with. -/
theorem isWritable_fill (isOpaque : IsOpaque item) (isOpaque' : IsOpaque item')
    (writable : (link.fill item).IsWritable) : (link.fill item').IsWritable where
  target_ne_nil empty := writable.target_ne_nil <|
    (Template.fill_eq_nil_iff isOpaque).2 ((Template.fill_eq_nil_iff isOpaque').1 empty)
  target := by
    have absent : ∀ d, isInner d = false → d ∉ (link.fill item).target → ∀ c ∈ (link.fill item').target,
        c ≠ d := by
      rintro d outer absent c member rfl
      exact absent ((Template.mem_fill_of_outer isOpaque outer).2
        ((Template.mem_fill_of_outer isOpaque' outer).1 member))
    intro c member
    exact ⟨absent ']' rfl (fun inside => (writable.target _ inside).1 rfl) c member,
      absent '|' rfl (fun inside => (writable.target _ inside).2 rfl) c member⟩
  shown := by
    intro filled option
    obtain ⟨shown, found, rfl⟩ := Option.map_eq_some_iff.1 option
    obtain ⟨nonempty, single⟩ :=
      writable.shown (shown.fill item) (Option.map_eq_some_iff.2 ⟨shown, found, rfl⟩)
    constructor
    · exact fun empty => nonempty <|
        (Template.fill_eq_nil_iff isOpaque).2 ((Template.fill_eq_nil_iff isOpaque').1 empty)
    · exact fun member => single ((Template.mem_fill_of_outer isOpaque rfl).2
        ((Template.mem_fill_of_outer isOpaque' rfl).1 member))

/-- A link without marks has no places. -/
theorem eq_of_unmarked (isOpaque : IsOpaque item) (target : '\x00' ∉ (link.fill item).target)
    (shown : ∀ shown ∈ (link.fill item).shown, '\x00' ∉ shown) :
    link = ⟨.ofText (link.fill item).target, (link.fill item).shown.map .ofText⟩ := by
  refine LinkTemplate.ext (Template.eq_ofText isOpaque target) ?_
  obtain ⟨_, option⟩ := link
  cases option with
  | none => rfl
  | some template => exact congrArg some (Template.eq_ofText isOpaque (shown _ rfl))

end LinkTemplate

/-! ### The cutters -/

namespace Prose

/-- A cutter that takes a link, and an opening before it, off a filled template whatever the
template is filled with. -/
structure Uniform (opening : Text) (cut? : Text → Option (WikiLink × Text)) : Prop
    extends Cuts cut? where
  fills : ∀ {item template written after}, IsOpaque item →
    cut? (Template.fill item template) = some (written, after) →
      ∃ (link : LinkTemplate) (rest : Template),
        template = Template.ofText opening ++ link.toTemplate ++ rest ∧
          link.fill item = written ∧ ∀ item', IsOpaque item' →
            cut? (Template.fill item' template) = some (link.fill item', Template.fill item' rest)

theorem uniform_link : Uniform [] WikiLink.cut? where
  toCuts := cuts_link
  fills {item template written after} isOpaque found := by
    obtain ⟨writable, same⟩ := WikiLink.isWritable_of_cut? found
    obtain ⟨link, rest, rfl, rfl, -⟩ := LinkTemplate.exists_of_fill_eq_toText isOpaque same
    refine ⟨link, rest, rfl, rfl, fun item' isOpaque' => ?_⟩
    rw [Template.fill_append, LinkTemplate.fill_toTemplate]
    exact (LinkTemplate.isWritable_fill isOpaque isOpaque' writable).cut?_toText _

theorem uniform_embed : Uniform ['!'] cutEmbed? where
  toCuts := cuts_embed
  fills {item template written after} isOpaque found := by
    obtain ⟨rest, same, cut⟩ : ∃ rest, template.fill item = '!' :: rest ∧
        WikiLink.cut? rest = some (written, after) := by
      rw [cutEmbed?.eq_def] at found
      split at found
      · exact ⟨_, ‹_›, found⟩
      · cases found
    obtain ⟨right, rfl, rfl⟩ := Template.exists_of_fill_eq_cons isOpaque rfl same
    obtain ⟨link, rest, rfl, written, later⟩ := uniform_link.fills isOpaque cut
    exact ⟨link, rest, rfl, written, later⟩

theorem isImageName_append {before ending : Text} (last : '.' ∉ ending) :
    isImageName (before ++ '.' :: ending) = (!before.isEmpty &&
      imageEndings.any fun known => Text.afterAnyCase? known ending = some []) := by
  rw [isImageName, Text.cutAtLast_eq_some_iff.2 ⟨rfl, last⟩]

/-- An image is known by an ending of letters, so no place stands in it. -/
theorem isImageName_fill {item item' : Nat → Text} (isOpaque : IsOpaque item)
    (isOpaque' : IsOpaque item') {template : Template}
    (image : isImageName (template.fill item)) : isImageName (template.fill item') := by
  obtain ⟨before, ending, same, last, -, letters⟩ := exists_of_isImageName image
  obtain ⟨left, right, rfl, rfl, rfl⟩ :=
    Template.exists_of_fill_eq_append_cons isOpaque rfl same
  have unmarked : '\x00' ∉ Template.fill item right := fun member =>
    absurd (letters _ member).1 (by decide)
  rw [Template.eq_ofText isOpaque unmarked] at image ⊢
  rw [Template.fill_append, Template.fill_char, Template.fill_ofText, isImageName_append last,
    Bool.and_eq_true] at image ⊢
  refine ⟨?_, image.2⟩
  have nonempty := image.1
  rw [Bool.not_eq_true', List.isEmpty_eq_false_iff, Ne, Template.fill_eq_nil_iff isOpaque] at nonempty
  rwa [Bool.not_eq_true', List.isEmpty_eq_false_iff, Ne, Template.fill_eq_nil_iff isOpaque']

theorem uniform_image : Uniform ['!'] cutImage? where
  toCuts := cuts_image
  fills {item template written after} isOpaque found := by
    obtain ⟨embed, image⟩ := isImageName_of_cutImage? found
    obtain ⟨link, rest, rfl, rfl, cut⟩ := uniform_embed.fills isOpaque embed
    refine ⟨link, rest, rfl, rfl, fun item' isOpaque' => ?_⟩
    rw [cutImage?, cut item' isOpaque']
    exact if_pos (isImageName_fill isOpaque isOpaque' image)

/-! ### Scanning -/

section Uniform

variable {opening : Text} {cut? : Text → Option (WikiLink × Text)} (uniform : Uniform opening cut?)
include uniform

/-- A template is empty, or begins with a slot where no link is found whatever stands in the
places, or with a link that is always found. -/
theorem Uniform.induction {motive : Template → Prop} (nil : motive [])
    (plain : ∀ slot rest,
      (∀ item, IsOpaque item → cut? (Template.fill item (slot :: rest)) = none) →
        motive rest → motive (slot :: rest))
    (link : ∀ (link : LinkTemplate) (rest : Template),
      (∀ item, IsOpaque item →
        cut? (Template.fill item (Template.ofText opening ++ link.toTemplate ++ rest)) =
          some (link.fill item, Template.fill item rest)) →
        motive rest → motive (Template.ofText opening ++ link.toTemplate ++ rest))
    (template : Template) : motive template := by
  induction size : template.length using Nat.strongRecOn generalizing template with
  | ind length inductionHypothesis =>
    cases template with
    | nil => exact nil
    | cons slot rest =>
      -- A link that is found for one filling is found for all, so it is enough to ask for one.
      by_cases found : ∃ item cut, IsOpaque item ∧
          cut? (Template.fill item (slot :: rest)) = some cut
      · obtain ⟨item, ⟨written, after⟩, isOpaque, cut⟩ := found
        obtain ⟨inside, later, same, -, always⟩ := uniform.fills isOpaque cut
        rw [same] at always size ⊢
        refine link inside later always (inductionHypothesis _ ?_ later rfl)
        rw [← size, LinkTemplate.toTemplate]
        simp only [List.length_append, List.length_cons]
        omega
      · refine plain slot rest (fun item isOpaque => ?_)
          (inductionHypothesis _ (by simp [← size]) rest rfl)
        exact Option.eq_none_iff_forall_ne_some.2 fun cut here =>
          found ⟨item, cut, isOpaque, here⟩

theorem Uniform.rewriteLinks_fill_cons {write : WikiLink → Text} {slot : Slot} {rest : Template}
    {item : Nat → Text} (isOpaque : IsOpaque item)
    (none' : cut? (Template.fill item (slot :: rest)) = none) :
    rewriteLinks cut? write (Template.fill item (slot :: rest)) =
      slot.fill item ++ rewriteLinks cut? write (Template.fill item rest) := by
  cases slot with
  | char c => exact rewriteLinks_of_none none'
  | span position => exact uniform.rewriteLinks_inner (isOpaque.inner position) _

theorem Uniform.linksOf_fill_cons {slot : Slot} {rest : Template}
    {item : Nat → Text} (isOpaque : IsOpaque item)
    (none' : cut? (Template.fill item (slot :: rest)) = none) :
    linksOf cut? (Template.fill item (slot :: rest)) = linksOf cut? (Template.fill item rest) := by
  cases slot with
  | char c => exact linksOf_of_none none'
  | span position => exact uniform.linksOf_inner (isOpaque.inner position) _

end Uniform

end Prose

end CampaignPress
