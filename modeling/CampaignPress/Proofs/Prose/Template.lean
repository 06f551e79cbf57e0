/-
This file shows that code spans come through a pass over prose. A template is a
text with numbered places for spans: with placeholders in the places it is what
the pass sees, with the spans in them it is the text itself. So a pass that gives
a template with the same places gives, after restoring, that template with the
spans in it, and a pass that changes nothing leaves the text as it was.
-/
import CampaignPress.Proofs.Prose.Rewrite
import CampaignPress.Proofs.Value.Text

namespace CampaignPress

namespace CodeSpan

/-! ### Templates -/

/-- A character, or the place of a span. -/
inductive Slot where
  | char (c : Char)
  | span (position : Nat)
  deriving DecidableEq, Repr

/-- A text with places for spans. -/
abbrev Template := List Slot

def Slot.fill (item : Nat → Text) : Slot → Text
  | .char c => [c]
  | .span position => item position

def Slot.position? : Slot → Option Nat
  | .char _ => none
  | .span position => some position

def Slot.shift : Slot → Slot
  | .char c => .char c
  | .span position => .span (position + 1)

namespace Template

/-- The text with an item in each place. -/
def fill (item : Nat → Text) (template : Template) : Text := template.flatMap (Slot.fill item)

/-- The numbers of the places, in order. -/
def positions (template : Template) : List Nat := template.filterMap Slot.position?

/-- The template with every place counted one higher. -/
def shift (template : Template) : Template := template.map Slot.shift

/-- A template without marks of its own, in which every place up to a count comes once and in
order. -/
structure IsWhole (count : Nat) (template : Template) : Prop where
  unmarked : Slot.char '\x00' ∉ template
  positions : template.positions = List.range count

variable {template : Template}

@[simp]
theorem fill_nil (item : Nat → Text) : fill item [] = [] := rfl

@[simp]
theorem fill_char (item : Nat → Text) (c : Char) (rest : Template) :
    fill item (.char c :: rest) = c :: fill item rest := rfl

@[simp]
theorem fill_span (item : Nat → Text) (position : Nat) (rest : Template) :
    fill item (.span position :: rest) = item position ++ fill item rest := rfl

theorem fill_singleton (item : Nat → Text) (slot : Slot) : fill item [slot] = slot.fill item :=
  List.flatMap_singleton _ _

@[simp]
theorem fill_append (item : Nat → Text) (left right : Template) :
    fill item (left ++ right) = fill item left ++ fill item right := List.flatMap_append

@[simp]
theorem positions_nil : positions [] = [] := rfl

@[simp]
theorem positions_char (c : Char) (rest : Template) :
    positions (.char c :: rest) = positions rest := rfl

@[simp]
theorem positions_span (position : Nat) (rest : Template) :
    positions (.span position :: rest) = position :: positions rest := rfl

@[simp]
theorem positions_append (left right : Template) :
    positions (left ++ right) = positions left ++ positions right := List.filterMap_append

theorem fill_shift (item : Nat → Text) (template : Template) :
    template.shift.fill item = template.fill fun position => item (position + 1) := by
  rw [fill, shift, List.flatMap_map]
  refine List.flatMap_congr fun slot _ => ?_
  cases slot <;> rfl

theorem positions_shift (template : Template) :
    template.shift.positions = template.positions.map Nat.succ := by
  rw [positions, shift, List.filterMap_map, positions, List.map_filterMap]
  refine List.filterMap_congr fun slot _ => ?_
  cases slot <;> rfl

theorem IsWhole.lt_of_mem {count position : Nat} (whole : template.IsWhole count)
    (member : .span position ∈ template) : position < count := by
  have inPositions : position ∈ template.positions := List.mem_filterMap.2 ⟨_, member, rfl⟩
  rwa [whole.positions, List.mem_range] at inPositions

theorem isWhole_nil : IsWhole 0 [] := ⟨List.not_mem_nil, rfl⟩

theorem IsWhole.char {count : Nat} (whole : template.IsWhole count) {c : Char} (other : c ≠ '\x00') :
    IsWhole count (.char c :: template) where
  unmarked := by
    rw [List.mem_cons, Slot.char.injEq, not_or]
    exact ⟨Ne.symm other, whole.unmarked⟩
  positions := whole.positions

/-- A place before the places of a whole template. -/
theorem IsWhole.span {count : Nat} (whole : template.IsWhole count) :
    IsWhole (count + 1) (.span 0 :: template.shift) where
  unmarked := by
    rw [List.mem_cons, shift, List.mem_map, not_or]
    refine ⟨nofun, ?_⟩
    rintro ⟨slot, member, same⟩
    cases slot with
    | char c => exact whole.unmarked (same ▸ member)
    | span position => exact nomatch same
  positions := by
    rw [positions_span, positions_shift, whole.positions, List.range_succ_eq_map]

end Template

/-! ### Restoring -/

/-- The span with a number. -/
def spanAt (spans : List Text) (position : Nat) : Text := spans[position]?.getD []

/-- Restoring reads a placeholder in a place as the span with its number, whatever stands next to
it. -/
theorem restore_fill {spans : List Text} (few : spans.length ≤ 10 ^ digitLimit)
    {template : Template} (unmarked : Slot.char '\x00' ∉ template)
    (known : ∀ position, .span position ∈ template → position < spans.length) :
    restore spans (template.fill placeholder) = .ok (template.fill (spanAt spans)) := by
  induction template with
  | nil =>
    rw [Template.fill_nil, restore.eq_def]
    rfl
  | cons slot rest inductionHypothesis =>
    rw [List.mem_cons, not_or] at unmarked
    have later := inductionHypothesis unmarked.2 fun position member =>
      known position (List.mem_cons_of_mem _ member)
    cases slot with
    | char c =>
      have other : c ≠ '\x00' := fun same => unmarked.1 (same ▸ rfl)
      rw [Template.fill_char, restore_cons_of_ne other, later]
      rfl
    | span position =>
      have found := List.getElem?_eq_getElem (known position List.mem_cons_self)
      rw [Template.fill_span, restore_placeholder found few, later, Template.fill_span, spanAt, found]
      rfl

/-! ### Hiding -/

theorem hideFrom_of_cut? {text span after : Text} (found : cut? text = some (span, after))
    (first : Nat) : hideFrom first text =
      (placeholder first ++ (hideFrom (first + 1) after).1, span :: (hideFrom (first + 1) after).2) := by
  cases text with
  | nil => simp [cut?] at found
  | cons c rest =>
    rw [hideFrom]
    split
    · rename_i other
      obtain ⟨rfl, rfl⟩ := Prod.mk.inj (Option.some.inj (found.symm.trans other))
      rfl
    · rename_i none
      cases found.symm.trans none

theorem hideFrom_of_none {c : Char} {rest : Text} (none' : cut? (c :: rest) = none) (first : Nat) :
    hideFrom first (c :: rest) = (c :: (hideFrom first rest).1, (hideFrom first rest).2) := by
  rw [hideFrom]
  split
  · rename_i found
    cases none'.symm.trans found
  · rfl

/-- The spans of a text and the template around them do not depend on the number that counting
begins with. -/
theorem exists_template_hideFrom {text : Text} (unmarked : '\x00' ∉ text) :
    ∃ (template : Template) (spans : List Text), template.IsWhole spans.length ∧
      template.fill (spanAt spans) = text ∧
      ∀ first, hideFrom first text =
        (template.fill fun position => placeholder (first + position), spans) := by
  induction size : text.length using Nat.strongRecOn generalizing text with
  | ind length inductionHypothesis =>
    cases text with
    | nil => exact ⟨[], [], Template.isWhole_nil, rfl, fun first => hideFrom.eq_1 first⟩
    | cons c rest =>
      cases found : cut? (c :: rest) with
      | none =>
        rw [List.mem_cons, not_or] at unmarked
        obtain ⟨template, spans, whole, source, hidden⟩ :=
          inductionHypothesis _ (by simp [← size]) unmarked.2 rfl
        refine ⟨.char c :: template, spans, whole.char (Ne.symm unmarked.1),
          congrArg (c :: ·) source, fun first => ?_⟩
        rw [hideFrom_of_none found, hidden]
        rfl
      | some cut =>
        obtain ⟨span, after⟩ := cut
        have same := eq_of_cut? found
        have later : '\x00' ∉ after := fun member => unmarked <| by
          rw [same]
          exact List.mem_append_right span member
        obtain ⟨template, spans, whole, source, hidden⟩ :=
          inductionHypothesis _ (size ▸ length_cut? found) later rfl
        -- The first span takes place 0, so the places of the rest are counted one higher, and
        -- their placeholders are those that counting from the next number gives.
        refine ⟨.span 0 :: template.shift, span :: spans, whole.span, ?_, fun first => ?_⟩
        · rw [Template.fill_span, Template.fill_shift, same]
          exact congrArg (span ++ ·) source
        · rw [hideFrom_of_cut? found, hidden, Template.fill_span, Template.fill_shift]
          simp only [Nat.add_zero, Nat.add_assoc, Nat.add_comm 1]

/-- A text is a template with its code spans in the places, and the text with its code hidden is
the template with placeholders in them. -/
theorem exists_template {text : Text} (unmarked : '\x00' ∉ text) :
    ∃ template : Template, template.IsWhole (hide text).2.length ∧
      template.fill placeholder = (hide text).1 ∧ template.fill (spanAt (hide text).2) = text := by
  obtain ⟨template, spans, whole, source, hidden⟩ := exists_template_hideFrom unmarked
  have counted := hidden 0
  simp only [Nat.zero_add] at counted
  rw [hide, counted]
  exact ⟨template, whole, rfl, source⟩

end CodeSpan

/-! ### Passes over prose -/

namespace Prose

open CodeSpan

/-- What becomes of a segment: a fenced one stays, in another the spans are put back into what
the pass gives for the text with its code hidden. -/
inductive IsPart (pass : Text → Text × List Text) : Segment → Text × List Text → Prop where
  | fenced (lines : List Text) : IsPart pass ⟨true, lines⟩ (Text.unlines lines, [])
  | prose {lines : List Text} {text : Text}
      (restored : restore (hide (Text.unlines lines)).2 (pass (hide (Text.unlines lines)).1).1 =
        .ok text) :
      IsPart pass ⟨false, lines⟩ (text, (pass (hide (Text.unlines lines)).1).2)

variable {pass : Text → Text × List Text}

theorem mapSegment_eq_ok_iff {segment : Segment} {part : Text × List Text} :
    mapSegment pass segment = .ok part ↔ IsPart pass segment part := by
  obtain ⟨fenced, lines⟩ := segment
  cases fenced with
  | true =>
    constructor
    · intro done
      obtain rfl := Except.ok.inj done
      exact .fenced lines
    · rintro (_ | _)
      rfl
  | false =>
    change (restore (hide (Text.unlines lines)).2 (pass (hide (Text.unlines lines)).1).1 >>=
      fun text => .ok (text, (pass (hide (Text.unlines lines)).1).2)) = .ok part ↔ _
    rw [bind_eq_ok]
    constructor
    · rintro ⟨text, restored, same⟩
      obtain rfl := Except.ok.inj same
      exact .prose restored
    · intro made
      cases made with
      | prose restored => exact ⟨_, restored, rfl⟩

/-- The parts of a text joined again, and what was noted at them. -/
def assemble (parts : List (Text × List Text)) : Text × List Text :=
  (Text.unlines (parts.map (·.1)), parts.flatMap (·.2))

theorem assemble_singleton (part : Text × List Text) : assemble [part] = part := by
  simp [assemble, Text.unlines_singleton]

theorem assemble_map_toText (segments : List Segment) :
    assemble (segments.map fun segment => (segment.toText, [])) = (Segment.unite segments, []) := by
  simp [assemble, Segment.unite, Function.comp_def]

/-- A pass goes over every segment for itself, and its parts stand in the order of the
segments. -/
theorem map_eq_ok_iff {text : Text} {output : Text × List Text} :
    map pass text = .ok output ↔
      ∃ parts, List.Forall₂ (IsPart pass) (Segment.ofText text) parts ∧ output = assemble parts := by
  rw [map, bind_eq_ok]
  constructor
  · rintro ⟨parts, done, same⟩
    have each := (forall₂_of_mapM done).imp fun _ _ => mapSegment_eq_ok_iff.1
    exact ⟨parts, each, (Except.ok.inj same).symm⟩
  · rintro ⟨parts, each, rfl⟩
    exact ⟨parts, mapM_of_forall₂ (each.imp fun _ _ => mapSegment_eq_ok_iff.2), rfl⟩

/-- What becomes of a segment if the pass gives a template with placeholders for it. -/
def keptPart (pass : Text → Text × List Text) (kept : Segment → Template) (segment : Segment) :
    Text × List Text :=
  if segment.fenced then (segment.toText, [])
  else ((kept segment).fill (spanAt (hide segment.toText).2), (pass (hide segment.toText).1).2)

/-- What a pass gives for a prose segment has the placeholders of the segment, each once and in
order, and no other marks. -/
def Keeps (pass : Text → Text × List Text) (kept : Segment → Template) (segment : Segment) : Prop :=
  segment.fenced = false → (kept segment).IsWhole (hide segment.toText).2.length ∧
    (pass (hide segment.toText).1).1 = (kept segment).fill placeholder

section Kept

variable {text : Text} (absent : '\x00' ∉ text) {segment : Segment}
  (member : segment ∈ Segment.ofText text)
include absent member

theorem length_spans_le (few : text.length ≤ 10 ^ digitLimit) :
    (hide segment.toText).2.length ≤ 10 ^ digitLimit :=
  (sound_hideFrom 0 (Segment.not_mem_toText member (by decide) absent)).2.trans
    ((Segment.length_toText_le member).trans few)

theorem Keeps.mapSegment_eq (few : text.length ≤ 10 ^ digitLimit) {kept : Segment → Template}
    (keeps : Keeps pass kept segment) :
    mapSegment pass segment = .ok (keptPart pass kept segment) := by
  obtain ⟨fenced, lines⟩ := segment
  cases fenced with
  | true => rfl
  | false =>
    obtain ⟨whole, same⟩ := keeps rfl
    refine mapSegment_eq_ok_iff.2 (.prose ?_)
    change (pass (hide (Text.unlines lines)).1).1 = _ at same
    rw [same]
    exact restore_fill (length_spans_le absent member few) whole.unmarked fun _ => whole.lt_of_mem

end Kept

section Map

variable {text : Text} (absent : '\x00' ∉ text) (few : text.length ≤ 10 ^ digitLimit)
include absent few

theorem map_of_keeps {kept : Segment → Template}
    (keeps : ∀ segment ∈ Segment.ofText text, Keeps pass kept segment) :
    map pass text = .ok (assemble ((Segment.ofText text).map (keptPart pass kept))) := by
  have each : (Segment.ofText text).mapM (mapSegment pass) =
      .ok ((Segment.ofText text).map (keptPart pass kept)) :=
    mapM_eq_map fun segment member => (keeps segment member).mapSegment_eq absent member few
  rw [map, each]
  rfl

/-- A text without fences is one part. -/
theorem map_of_plain (plain : ∀ line ∈ Text.lines text, Fence.opened? line = none)
    {kept : Template} (whole : kept.IsWhole (hide text).2.length)
    (given : (pass (hide text).1).1 = kept.fill placeholder) :
    map pass text = .ok (kept.fill (spanAt (hide text).2), (pass (hide text).1).2) := by
  have source : Segment.toText ⟨false, Text.lines text⟩ = text := Text.unlines_lines text
  have keeps : ∀ segment ∈ Segment.ofText text, Keeps pass (fun _ => kept) segment := by
    rw [Segment.ofText_of_plain plain, List.forall_mem_singleton, Keeps, source]
    exact fun _ => ⟨whole, given⟩
  have part : keptPart pass (fun _ => kept) ⟨false, Text.lines text⟩ =
      (kept.fill (spanAt (hide text).2), (pass (hide text).1).2) := by
    rw [keptPart, source]
    rfl
  rw [map_of_keeps absent few keeps, Segment.ofText_of_plain plain, List.map_singleton, part,
    assemble_singleton]

/-- A pass that changes nothing gives the text again. -/
theorem map_id : map (fun hidden => (hidden, [])) text = .ok (text, []) := by
  have source : ∀ segment ∈ Segment.ofText text, _ := fun segment member =>
    exists_template (Segment.not_mem_toText member (by decide) absent)
  choose! kept whole counted same using source
  have keeps : ∀ segment ∈ Segment.ofText text, Keeps (fun hidden => (hidden, [])) kept segment :=
    fun segment member _ => ⟨whole segment member, (counted segment member).symm⟩
  have parts : ∀ segment ∈ Segment.ofText text,
      keptPart (fun hidden => (hidden, [])) kept segment = (segment.toText, []) := by
    intro segment member
    rw [keptPart]
    split
    · rfl
    · rw [same segment member]
  rw [map_of_keeps absent few keeps, List.map_congr_left parts, assemble_map_toText,
    Segment.unite_ofText]

/-- Passes touch prose alone. What a pass makes of a text are its segments in order, the fenced
ones verbatim. A prose segment is a template with its code spans in the places, of which the pass
sees the placeholders; where the pass keeps the places, each gets its span back, and a pass that
changes nothing gives the text again. Only a text that no memory holds is longer than the bound,
beyond which the number of a placeholder could have too many digits to be read. -/
theorem map_touches_prose (pass : Text → Text × List Text) :
    (∀ output, map pass text = .ok output ↔
      ∃ parts, List.Forall₂ (IsPart pass) (Segment.ofText text) parts ∧ output = assemble parts) ∧
    (∀ segment ∈ Segment.ofText text, ∃ template : Template,
      template.IsWhole (hide segment.toText).2.length ∧
        template.fill placeholder = (hide segment.toText).1 ∧
        template.fill (spanAt (hide segment.toText).2) = segment.toText) ∧
    (∀ kept, (∀ segment ∈ Segment.ofText text, Keeps pass kept segment) →
      map pass text = .ok (assemble ((Segment.ofText text).map (keptPart pass kept)))) ∧
    map (fun hidden => (hidden, [])) text = .ok (text, []) :=
  ⟨fun _ => map_eq_ok_iff,
    fun _ member => exists_template (Segment.not_mem_toText member (by decide) absent),
    fun _ => map_of_keeps absent few, map_id absent few⟩

end Map

/-- Code beside a digit, in prose and in a fence. -/
theorem map_touches_prose_beside_digit :
    let text : Text := "7`a`1\n~~~\n`b`\n~~~".toList
    let shout : Text → Text × List Text := fun hidden => (hidden ++ ['!'], [])
    '\x00' ∉ text ∧ text.length ≤ 10 ^ digitLimit ∧
      map shout text = .ok ("7`a`1!\n~~~\n`b`\n~~~".toList, []) := by
  intro text shout
  have absent : '\x00' ∉ text := by decide
  have few : text.length ≤ 10 ^ digitLimit := Numeral.le_pow_digitLimit (by decide +kernel)
  obtain ⟨-, -, keeping, -⟩ := map_touches_prose absent few shout
  have keeps : ∀ segment ∈ Segment.ofText text,
      Keeps shout (fun _ => [.char '7', .span 0, .char '1', .char '!']) segment := by
    have segments : Segment.ofText text =
        [⟨false, ["7`a`1".toList]⟩, ⟨true, ["~~~".toList, "`b`".toList, "~~~".toList]⟩] := by
      decide +kernel
    rw [segments, List.forall_mem_cons, List.forall_mem_singleton]
    refine ⟨fun _ => ⟨⟨by decide, by decide +kernel⟩, by decide +kernel⟩, nofun⟩
  refine ⟨absent, few, ?_⟩
  rw [keeping _ keeps]
  decide +kernel

end Prose

end CampaignPress
