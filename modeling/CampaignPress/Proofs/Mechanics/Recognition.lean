/-
This file says which code is recognised as a directive, which is rejected, and
what a directive is made of. Without the mark, a colon and the name of a kind
between them, code is none. Of a known kind it is rejected for the first blank
one of the fields that the kind needs. Else every field of the directive is read
from its own place in the row. What is shown follows these three cases.
-/
import CampaignPress.Proofs.Mechanics.Directive
import CampaignPress.Proofs.Mechanics.Outline

namespace CampaignPress

namespace Directive

/-! ### Kinds -/

/-- Code of a kind: the mark, the name of the kind, a colon, and the row of fields. -/
def codeOf (kind : Kind) (payload : Text) : Text := mark ++ (kind.name ++ ':' :: payload)

def rowOf (payload : Text) : List Text := Text.splitOn '|' payload

/-- Code with the mark and a colon, but with the name of no kind between them. -/
def IsOfNoKind (code : Text) : Prop :=
  ∃ name payload, code = mark ++ (name ++ ':' :: payload) ∧ ':' ∉ name ∧
    ∀ kind : Kind, kind.name ≠ name

theorem Kind.ofName?_eq_some_iff {name : Text} {kind : Kind} :
    ofName? name = some kind ↔ kind.name = name := by
  constructor
  · intro found
    simpa using List.find?_some found
  · rintro rfl
    exact kind.ofName?_name

/-- Code falls into a name and a row if the mark and a colon are there. -/
theorem split?_eq_some_iff {code name : Text} {row : List Text} :
    split? code = some (name, row) ↔
      ∃ payload, code = mark ++ (name ++ ':' :: payload) ∧ ':' ∉ name ∧ row = rowOf payload := by
  rw [split?, Option.bind_eq_bind, Option.bind_eq_some_iff]
  constructor
  · rintro ⟨rest, marked, cut⟩
    obtain ⟨⟨before, payload⟩, colon, same⟩ := Option.bind_eq_some_iff.1 cut
    obtain ⟨rfl, rfl⟩ := Prod.mk.inj (Option.some.inj same)
    obtain ⟨rfl, first⟩ := Text.cutAt_eq_some_iff.1 colon
    exact ⟨payload, Text.after?_eq_some_iff.1 marked, first, rfl⟩
  · rintro ⟨payload, same, first, rfl⟩
    refine ⟨name ++ ':' :: payload, Text.after?_eq_some_iff.2 same, ?_⟩
    rw [Text.cutAt_eq_some_iff.2 ⟨rfl, first⟩]
    rfl

theorem split?_eq_none_iff {code : Text} :
    split? code = none ↔ ¬ mark <+: code ∨ ':' ∉ code := by
  rw [Option.eq_none_iff_forall_ne_some]
  constructor
  · intro none'
    by_contra! both
    obtain ⟨⟨rest, rfl⟩, colon⟩ := both
    have inRest : ':' ∈ rest := (List.mem_append.1 colon).resolve_left (by decide)
    cases cut : Text.cutAt ':' rest with
    | none => exact Text.cutAt_eq_none_iff.1 cut inRest
    | some parts =>
      obtain ⟨rfl, first⟩ := Text.cutAt_eq_some_iff.1 cut
      exact none' _ (split?_eq_some_iff.2 ⟨parts.2, rfl, first, rfl⟩)
  · rintro outside ⟨name, row⟩ found
    obtain ⟨payload, rfl, -, -⟩ := split?_eq_some_iff.1 found
    rcases outside with unmarked | colonless
    · exact unmarked (List.prefix_append _ _)
    · exact colonless (List.mem_append_right _ (List.mem_append_right _ List.mem_cons_self))

/-! ### Needed fields -/

/-- A field is not there, or blank. -/
def IsMissing (row : List Text) (position : Nat) : Prop :=
  ∀ field, row[position]? = some field → Text.isBlankText field

/-- The first field of every kind is needed, and the second one of an entity. -/
def IsNeeded (kind : Kind) (position : Nat) : Prop :=
  position = 0 ∨ kind = .entityCreate ∧ position = 1

/-- The first one of the missing fields that a kind needs. -/
structure IsFirstMissing (kind : Kind) (row : List Text) (position : Nat) : Prop where
  needed : IsNeeded kind position
  missing : IsMissing row position
  first : ∀ earlier < position, IsNeeded kind earlier → ¬ IsMissing row earlier

theorem textAt_eq_nil_iff {row : List Text} {position : Nat} :
    textAt row position = [] ↔ IsMissing row position := by
  rw [textAt, Text.trim_eq_nil_iff, IsMissing]
  cases row[position]? with
  | none => simp [Text.isBlankText]
  | some field => simp

/-- The position that is looked for among those that a kind needs. -/
def missing? (kind : Kind) (row : List Text) : Option Nat :=
  kind.required.find? fun position => (textAt row position).isEmpty

theorem Kind.mem_required_iff {kind : Kind} {position : Nat} :
    position ∈ kind.required ↔ IsNeeded kind position := by
  cases kind <;> simp [required, IsNeeded]

/-- The needed positions are looked at in their order. -/
theorem Kind.pairwise_required (kind : Kind) : kind.required.Pairwise (· < ·) := by
  cases kind <;> decide

theorem missing?_eq_some_iff {kind : Kind} {row : List Text} {position : Nat} :
    missing? kind row = some position ↔ IsFirstMissing kind row position := by
  have blank (place : Nat) : (textAt row place).isEmpty ↔ IsMissing row place := by
    rw [List.isEmpty_iff, textAt_eq_nil_iff]
  rw [missing?, List.find?_eq_some_iff_append, blank]
  constructor
  · rintro ⟨missing, before, after, same, others⟩
    refine ⟨Kind.mem_required_iff.1 (same ▸ List.mem_append_right _ List.mem_cons_self), missing,
      fun earlier less needed lost => ?_⟩
    have order := same ▸ kind.pairwise_required
    rcases List.mem_append.1 (same ▸ Kind.mem_required_iff.2 needed) with inBefore | later
    · have filled := others earlier inBefore
      rw [(blank earlier).2 lost] at filled
      exact Bool.false_ne_true filled
    · rcases List.mem_cons.1 later with rfl | inAfter
      · exact Nat.lt_irrefl _ less
      · exact Nat.lt_asymm less
          (List.rel_of_pairwise_cons (List.pairwise_append.1 order).2.1 inAfter)
  · rintro ⟨needed, missing, first⟩
    obtain ⟨before, after, same⟩ := List.append_of_mem (Kind.mem_required_iff.2 needed)
    refine ⟨missing, before, after, same, fun earlier member => ?_⟩
    have order := same ▸ kind.pairwise_required
    have less : earlier < position :=
      (List.pairwise_append.1 order).2.2 earlier member position List.mem_cons_self
    have inRequired : earlier ∈ kind.required := same ▸ List.mem_append_left _ member
    rw [Bool.not_eq_true', Bool.eq_false_iff, Ne, blank]
    exact first earlier less (Kind.mem_required_iff.1 inRequired)

theorem missing?_eq_none_iff {kind : Kind} {row : List Text} :
    missing? kind row = none ↔ ∀ position, ¬ IsFirstMissing kind row position := by
  rw [Option.eq_none_iff_forall_ne_some]
  exact forall_congr' fun position => not_congr missing?_eq_some_iff

/-! ### Fields -/

/-- A text is the trimmed one in its place, and a number the one that is read there; where the number
that is read is zero, the one that a missing field stands for takes its place. -/
def Field.IsTakenFrom (row : List Text) (position : Nat) : Field → Prop
  | .text content => content = textAt row position
  | .number value otherwise =>
    value = if numberAt row position otherwise = 0 then otherwise else numberAt row position otherwise

/-- All fields are taken from their places, the first one from the given position. -/
def AreTakenFrom (row : List Text) : (position : Nat) → List Field → Prop
  | _, [] => True
  | position, field :: fields =>
    field.IsTakenFrom row position ∧ AreTakenFrom row (position + 1) fields

theorem AreTakenFrom.isTakenFrom {row : List Text} {start : Nat} {fields : List Field}
    (taken : AreTakenFrom row start fields) {position : Nat} {field : Field}
    (there : fields[position]? = some field) : field.IsTakenFrom row (start + position) := by
  induction fields generalizing start position with
  | nil => exact absurd there (by simp)
  | cons first fields inductionHypothesis =>
    cases position with
    | zero =>
      obtain rfl := Option.some.inj there
      exact taken.1
    | succ position =>
      have later := inductionHypothesis taken.2 there
      rwa [Nat.add_assoc, Nat.add_comm 1] at later

theorem areTakenFrom_ofFields (kind : Kind) (row : List Text) :
    AreTakenFrom row 0 (ofFields kind row).fields := by
  have zero (number : Int) : number = if number = 0 then 0 else number := by
    split
    · assumption
    · rfl
  cases kind <;>
    simp only [ofFields, fields, AreTakenFrom, Field.IsTakenFrom, ← zero, Nat.zero_add, Nat.reduceAdd,
      and_self]

theorem kind_ofFields (kind : Kind) (row : List Text) : (ofFields kind row).kind = kind := by
  cases kind <;> rfl

/-- A directive of a kind, with every field from its own place in a row. -/
structure IsMadeOf (kind : Kind) (row : List Text) (directive : Directive) : Prop where
  kind_eq : directive.kind = kind
  taken : ∀ position (field : Field), directive.fields[position]? = some field →
    field.IsTakenFrom row position

theorem isMadeOf_ofFields (kind : Kind) (row : List Text) :
    IsMadeOf kind row (ofFields kind row) :=
  ⟨kind_ofFields kind row, fun position field there => by
    simpa using (areTakenFrom_ofFields kind row).isTakenFrom there⟩

/-! ### Reading and showing -/

/-- Code of a kind is rejected for the first missing field, or read. -/
theorem read?_codeOf (kind : Kind) (payload : Text) : read? (codeOf kind payload) =
    some (match missing? kind (rowOf payload) with
      | some position => .error (.missingField (position + 1))
      | none => .ok (ofFields kind (rowOf payload))) := by
  have split : split? (codeOf kind payload) = some (kind.name, rowOf payload) :=
    split?_eq_some_iff.2 ⟨payload, rfl, kind.colon_not_mem_name, rfl⟩
  rw [read?, split, missing?]
  simp only [Option.bind_eq_bind, Option.bind_some, kind.ofName?_name]
  cases kind.required.find? fun position => (textAt (rowOf payload) position).isEmpty <;> rfl

theorem isSome_read?_iff {code : Text} :
    (read? code).isSome ↔ ∃ kind payload, code = codeOf kind payload := by
  constructor
  · intro found
    obtain ⟨outcome, read⟩ := Option.isSome_iff_exists.1 found
    obtain ⟨⟨name, row⟩, split, read⟩ := Option.bind_eq_some_iff.1 read
    obtain ⟨kind, named, -⟩ := Option.bind_eq_some_iff.1 read
    obtain ⟨payload, rfl, -, -⟩ := split?_eq_some_iff.1 split
    exact ⟨kind, payload, by rw [codeOf, Kind.ofName?_eq_some_iff.1 named]⟩
  · rintro ⟨kind, payload, rfl⟩
    rw [read?_codeOf]
    rfl

theorem read?_eq_none_iff {code : Text} :
    read? code = none ↔ ¬ mark <+: code ∨ ':' ∉ code ∨ IsOfNoKind code := by
  rw [← Option.not_isSome_iff_eq_none, isSome_read?_iff]
  constructor
  · intro unknown
    by_contra! inside
    obtain ⟨marked, colon, known⟩ := inside
    have parted : split? code ≠ none := fun none' =>
      (split?_eq_none_iff.1 none').elim (· marked) (· colon)
    obtain ⟨⟨name, row⟩, split⟩ := Option.ne_none_iff_exists'.1 parted
    obtain ⟨payload, rfl, first, -⟩ := split?_eq_some_iff.1 split
    exact known ⟨name, payload, rfl, first, fun kind same =>
      unknown ⟨kind, payload, by rw [codeOf, same]⟩⟩
  · rintro outside ⟨kind, payload, rfl⟩
    rcases outside with unmarked | colonless | ⟨name, other, same, first, unlike⟩
    · exact unmarked (List.prefix_append _ _)
    · exact colonless (List.mem_append_right _ (List.mem_append_right _ List.mem_cons_self))
    · exact unlike kind
        (Text.append_cons_inj kind.colon_not_mem_name first (List.append_cancel_left same)).1

theorem write_malformed (code : Text) : (malformed code).write =
    "<span class=\"iv-inline-mechanics iv-parse-error\">" ++ (Html.escape code ++ "</span>") := by
  have opening : Html.Piece.write
      (.opening "span" [.verbatim "class" (mechanics ++ " iv-parse-error")]) =
        "<span class=\"iv-inline-mechanics iv-parse-error\">".toList := by decide
  have closing : Html.Piece.write (.closing "span") = "</span>".toList := by decide
  rw [malformed, span, Html.classed, Html.element, Html.plainText, Html.write, List.flatMap_append,
    List.flatMap_cons, List.flatMap_singleton, List.flatMap_singleton, opening, closing,
    List.append_assoc]
  rfl

/-- Code is no directive exactly if it has no mark, no colon, or the name of no kind between them. A
directive of a known kind is rejected for the first missing one of the fields that it needs, and
else made of the fields in their places. What is shown is nothing, the escaped code, or the fragment of
the kind. -/
theorem recognised_exactly (site : Site) (code : Text) :
    (read? code = none ↔ ¬ mark <+: code ∨ ':' ∉ code ∨ IsOfNoKind code) ∧
      (read? code ≠ none ↔ ∃ kind payload, code = codeOf kind payload) ∧
      (renderCode? site code = none ↔ read? code = none) ∧
      ∀ kind payload, code = codeOf kind payload →
        (∀ position, read? code = some (.error (.missingField (position + 1))) ↔
          IsFirstMissing kind (rowOf payload) position) ∧
        (∀ position, IsFirstMissing kind (rowOf payload) position → ∃ html,
          renderCode? site code = some (.ok html) ∧ html.write =
            "<span class=\"iv-inline-mechanics iv-parse-error\">" ++
              (Html.escape code ++ "</span>")) ∧
        ((∀ position, ¬ IsFirstMissing kind (rowOf payload) position) → ∃ directive,
          read? code = some (.ok directive) ∧ IsMadeOf kind (rowOf payload) directive ∧
            renderCode? site code = some (directive.toHtml site) ∧
              ((∀ move, directive = .move move → Numeral.IsSmall move.roll.score) →
                ∃ html, directive.toHtml site = .ok html ∧ (site.icons = .standard →
                  html.Shows (Shape.known kind directive.isMatch).outline))) := by
  refine ⟨read?_eq_none_iff, ?_, Option.map_eq_none_iff, fun kind payload same => ?_⟩
  · rw [← isSome_read?_iff, Option.isSome_iff_ne_none]
  have read := read?_codeOf kind payload
  rw [← same] at read
  refine ⟨fun position => ?_, fun position lost => ?_, fun complete => ?_⟩
  · rw [← missing?_eq_some_iff, read]
    cases missing? kind (rowOf payload) <;> simp
  · rw [missing?_eq_some_iff.2 lost] at read
    exact ⟨malformed code, by rw [renderCode?, read]; rfl, write_malformed code⟩
  · rw [missing?_eq_none_iff.2 complete] at read
    refine ⟨_, read, isMadeOf_ofFields kind (rowOf payload), renderCode?_of_read? site read,
      fun score => ?_⟩
    obtain ⟨html, shown⟩ := succeeds_toHtml site (isSmall_of_read? read) score
    refine ⟨html, shown, fun icons => ?_⟩
    have shows := shows_toHtml icons shown
    rwa [kind_ofFields] at shows

set_option maxRecDepth 4000 in
/-- An entity whose name is blank, and a move with a number that cannot be read and one field too
many. -/
theorem recognised_exactly_entity :
    let site : Site := .ofNotes [] [] [] .standard
    let move : Directive := .move ⟨"Face Danger", "edge", 4, 2, 0, 3, 9, []⟩
    (∃ html, renderCode? site "iv-entity-create:npc| |a.md" = some (.ok html) ∧ html.write =
      "<span class=\"iv-inline-mechanics iv-parse-error\">iv-entity-create:npc| |a.md</span>".toList) ∧
      ∃ html, renderCode? site "iv-move: Face Danger |edge|4|2|x|3|9||y" = some (.ok html) ∧
        html.Shows (Shape.known .move move.isMatch).outline := by
  intro site move
  constructor
  · have lost : IsFirstMissing .entityCreate (rowOf "npc| |a.md") 1 := by
      refine ⟨.inr ⟨rfl, rfl⟩, textAt_eq_nil_iff.1 (by decide), fun earlier less _ => ?_⟩
      obtain rfl := Nat.lt_one_iff.1 less
      exact mt textAt_eq_nil_iff.2 (by decide)
    have same : "iv-entity-create:npc| |a.md".toList = codeOf .entityCreate "npc| |a.md" := by decide
    obtain ⟨html, shown, written⟩ := ((recognised_exactly site _).2.2.2 _ _ same).2.1 1 lost
    refine ⟨html, shown, written.trans ?_⟩
    decide
  · have same : "iv-move: Face Danger |edge|4|2|x|3|9||y".toList =
        codeOf .move " Face Danger |edge|4|2|x|3|9||y" := by decide
    have complete : missing? .move (rowOf " Face Danger |edge|4|2|x|3|9||y") = none := by decide
    obtain ⟨directive, read, -, rendered, shown⟩ := ((recognised_exactly site _).2.2.2 _ _ same).2.2
      (missing?_eq_none_iff.1 complete)
    have whole : read? "iv-move: Face Danger |edge|4|2|x|3|9||y" = some (.ok move) := by decide
    obtain rfl : directive = move := by
      rw [whole] at read
      exact (Except.ok.inj (Option.some.inj read)).symm
    obtain ⟨html, printed, shows⟩ := shown fun record isMove => by
      obtain rfl := Directive.move.inj isMove
      exact Numeral.isSmall_of_lt (by decide)
    exact ⟨html, rendered.trans (congrArg some printed), shows rfl⟩

end Directive

end CampaignPress
