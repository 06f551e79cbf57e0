/-
This file says how much of a mechanics block its nodes hold. The text of a unit
falls into a header, a body between braces, and what stands behind the brace
that closes the body; no node is read from that remainder. Everything else of a
block that is not blank is found in the headers and braces of its nodes, in
order. So a block loses something exactly where a unit goes on behind its brace.
-/
import CampaignPress.Proofs.Mechanics.Brace
import CampaignPress.Proofs.Mechanics.RoundTrip

namespace CampaignPress

namespace Mechanics

open Node (ofUnit ofBlock)

/-! ### Ink -/

/-- The characters of a text that are not blank. -/
def ink (text : Text) : Text := text.filter fun c => !Text.isBlank c

@[simp]
theorem ink_append (left right : Text) : ink (left ++ right) = ink left ++ ink right :=
  List.filter_append left right

theorem ink_eq_nil_iff {text : Text} : ink text = [] ↔ Text.isBlankText text := by
  simp [ink, Text.isBlankText, List.filter_eq_nil_iff]

theorem ink_of_blank {blanks : Text} (blank : ∀ c ∈ blanks, Text.isBlank c) : ink blanks = [] :=
  ink_eq_nil_iff.2 (List.all_eq_true.2 blank)

/-- Trimming takes no ink. -/
theorem ink_trim (text : Text) : ink (Text.trim text) = ink text := by
  obtain ⟨before, after, same, blankBefore, blankAfter⟩ := Text.exists_trim text
  conv => rhs; rw [same]
  rw [ink_append, ink_append, ink_of_blank blankBefore, ink_of_blank blankAfter, List.nil_append,
    List.append_nil]

theorem ink_unlines (lines : List Text) : ink (Text.unlines lines) = lines.flatMap ink := by
  induction lines with
  | nil => rfl
  | cons line lines inductionHypothesis =>
    by_cases last : lines = []
    · rw [last, Text.unlines_singleton, List.flatMap_singleton]
    · have line_break : ink ['\n'] = [] := rfl
      rw [Text.unlines_cons line last, ← List.singleton_append, ink_append, ink_append, line_break,
        List.nil_append, inductionHypothesis, List.flatMap_cons]

theorem flatMap_ink_lines (text : Text) : (Text.lines text).flatMap ink = ink text := by
  rw [← ink_unlines, Text.unlines_lines]

/-- Lines that are grouped keep their ink, after that of the lines that are already open. -/
theorem flatMap_ink_groupFrom (open? : Option Collected) (lines : List Text) :
    (groupFrom open? lines).flatMap (fun unit => ink (Text.unlines unit)) =
      (open?.elim [] Collected.lines ++ lines).flatMap ink := by
  simp only [ink_unlines]
  induction lines generalizing open? with
  | nil =>
    cases open? with
    | none => rfl
    | some collected =>
      rw [groupFrom, List.flatMap_singleton, List.append_nil]
      rfl
  | cons line lines inductionHypothesis =>
    cases open? with
    | none =>
      rw [groupFrom]
      split
      · rename_i empty
        rw [List.isEmpty_iff.1 empty]
        exact inductionHypothesis none
      · split
        · exact inductionHypothesis (some ⟨[line], balance line⟩)
        · rw [List.flatMap_cons, inductionHypothesis none, List.flatMap_singleton]
          rfl
    | some collected =>
      rw [groupFrom]
      split
      · rw [List.flatMap_cons, inductionHypothesis none, ← List.flatMap_append, List.append_assoc]
        rfl
      · rw [inductionHypothesis]
        exact congrArg (List.flatMap ink) (List.append_assoc collected.lines [line] lines)

/-- Grouping into units loses no ink. -/
theorem flatMap_ink_units (source : Text) :
    (units source).flatMap (fun unit => ink (Text.unlines unit)) = ink source := by
  rw [units, flatMap_ink_groupFrom]
  show ((Text.lines source).map Text.trim).flatMap ink = _
  rw [List.flatMap_map]
  simp only [ink_trim]
  exact flatMap_ink_lines source

/-! ### Parts of a unit -/

/-- The text of a unit: a header, and perhaps a body behind an opening brace, and perhaps something
behind the brace that closes the body. -/
structure Parts where
  header : Text
  opening : Text
  body : Text
  closing : Text
  behind : Text

def partsOf (text : Text) : Parts :=
  match cutOpening {} text with
  | (header, none) => ⟨header, [], [], [], []⟩
  | (header, some rest) =>
    match cutClosing {} 1 rest with
    | (body, none) => ⟨header, ['{'], body, [], []⟩
    | (body, some behind) => ⟨header, ['{'], body, ['}'], behind⟩

theorem splitBody_eq (text : Text) : splitBody text = ((partsOf text).header, (partsOf text).body) := by
  rw [splitBody, partsOf]
  rcases cutOpening {} text with ⟨header, _ | rest⟩
  · rfl
  · dsimp only
    rcases cutClosing {} 1 rest with ⟨body, _ | behind⟩ <;> rfl

theorem eq_of_opens {reader : Reader} {c : Char} (opens : (reader.step c).2 = some .opens) :
    c = '{' := by
  rw [Reader.step] at opens
  split_ifs at opens with escaped backslash quote quoted opening closing <;> first
    | exact opening
    | simp at opens

theorem eq_of_closes {reader : Reader} {c : Char} (closes : (reader.step c).2 = some .closes) :
    c = '}' := by
  rw [Reader.step] at closes
  split_ifs at closes with escaped backslash quote quoted opening closing <;> first
    | exact closing
    | simp at closes

theorem cutOpening_eq (reader : Reader) (text : Text) :
    text = (cutOpening reader text).1 ++
      (cutOpening reader text).2.elim [] fun rest => '{' :: rest := by
  induction text generalizing reader with
  | nil => rfl
  | cons c text inductionHypothesis =>
    rw [cutOpening_cons]
    split
    · rename_i opens
      rw [eq_of_opens opens]
      rfl
    · exact congrArg (c :: ·) (inductionHypothesis (reader.step c).1)

/-- Only a brace that closes leaves none open where there was one. -/
theorem closes_of_depthAfter {depth : Nat} (inside : 0 < depth) {brace : Option Brace}
    (out : Brace.depthAfter depth brace = 0) : brace = some .closes := by
  rcases brace with _ | _ | _
  · exact absurd out (Nat.pos_iff_ne_zero.1 inside)
  · exact absurd out (Nat.succ_ne_zero depth)
  · rfl

theorem cutClosing_eq (reader : Reader) {depth : Nat} (inside : 0 < depth) (text : Text) :
    text = (cutClosing reader depth text).1 ++
      (cutClosing reader depth text).2.elim [] fun rest => '}' :: rest := by
  induction text generalizing reader depth with
  | nil => rfl
  | cons c text inductionHypothesis =>
    rw [cutClosing_cons]
    split
    · rename_i out
      rw [eq_of_closes (closes_of_depthAfter inside out)]
      rfl
    · rename_i within
      exact congrArg (c :: ·)
        (inductionHypothesis (reader.step c).1 (Nat.pos_iff_ne_zero.2 within))

/-- The parts make up the whole text. -/
theorem eq_partsOf (text : Text) : text = (partsOf text).header ++ ((partsOf text).opening ++
    ((partsOf text).body ++ ((partsOf text).closing ++ (partsOf text).behind))) := by
  have opened := cutOpening_eq {} text
  rw [partsOf]
  rcases cut : cutOpening {} text with ⟨header, _ | rest⟩
  · rw [cut] at opened
    simpa using opened
  · rw [cut] at opened
    have closed := cutClosing_eq {} Nat.one_pos rest
    dsimp only at opened ⊢
    rcases found : cutClosing {} 1 rest with ⟨body, _ | behind⟩
    · rw [found] at closed
      dsimp only [Option.elim] at opened closed ⊢
      rw [opened, closed]
      simp
    · rw [found] at closed
      dsimp only [Option.elim] at opened closed ⊢
      rw [opened, closed]
      simp

/-- No brace before the one that is cut at opens. -/
theorem opens_not_mem_cutOpening (reader : Reader) (text : Text) :
    Brace.opens ∉ reader.braces (cutOpening reader text).1 := by
  induction text generalizing reader with
  | nil => exact List.not_mem_nil
  | cons c text inductionHypothesis =>
    rw [cutOpening_cons]
    split
    · exact List.not_mem_nil
    · rename_i other
      rw [Reader.braces_cons, List.mem_append, not_or]
      exact ⟨fun opens => other (Option.mem_toList.1 opens), inductionHypothesis _⟩

/-- Before the brace that is cut at some braces stay open, and it closes the last one of them. -/
theorem balanceFrom_cutClosing (reader : Reader) {depth : Nat} (inside : 0 < depth) (text : Text) :
    (∀ count, 0 < depth + balanceFrom reader ((cutClosing reader depth text).1.take count)) ∧
      ((cutClosing reader depth text).2.isSome →
        depth + balanceFrom reader (cutClosing reader depth text).1 = 1) := by
  have start : (0 : Int) < depth + balanceFrom reader [] := by
    rw [balanceFrom]
    omega
  induction text generalizing reader depth with
  | nil =>
    refine ⟨fun count => ?_, fun some => absurd some Bool.false_ne_true⟩
    rwa [show (cutClosing reader depth []).1 = [] from rfl, List.take_nil]
  | cons c text inductionHypothesis =>
    have deeper := Brace.depthAfter_eq inside (reader.step c).2
    rw [cutClosing_cons]
    split
    · rename_i out
      refine ⟨fun count => ?_, fun _ => ?_⟩
      · rwa [List.take_nil]
      · rw [closes_of_depthAfter inside out, Brace.depthAfter] at out
        rw [balanceFrom]
        omega
    · rename_i within
      have open' := Nat.pos_iff_ne_zero.2 within
      have step (later : Text) : balanceFrom reader (c :: later) =
          Brace.weight (reader.step c).2 + balanceFrom (reader.step c).1 later := rfl
      obtain ⟨stays, closes⟩ := inductionHypothesis (reader.step c).1 open' <| by
        rw [balanceFrom]
        omega
      refine ⟨fun count => ?_, fun found => ?_⟩
      · cases count with
        | zero => exact start
        | succ count =>
          have := stays count
          rw [List.take_succ_cons, step]
          omega
      · have := closes found
        rw [step]
        omega

/-- The header ends at the first brace that opens, and the body at the one that matches it; nothing is
behind a body that is not closed. -/
inductive Parts.IsCut (parts : Parts) : Prop
  | bare : parts.opening = [] → parts.body = [] → parts.closing = [] → parts.behind = [] →
    IsCut parts
  | opened : parts.opening = ['{'] → (∀ count, 0 ≤ balance (parts.body.take count)) →
    parts.closing = [] → parts.behind = [] → IsCut parts
  | closed : parts.opening = ['{'] → (∀ count, 0 ≤ balance (parts.body.take count)) →
    parts.closing = ['}'] → balance parts.body = 0 → IsCut parts

theorem isCut_partsOf (text : Text) :
    Brace.opens ∉ Reader.braces {} (partsOf text).header ∧ (partsOf text).IsCut := by
  have first := opens_not_mem_cutOpening {} text
  rw [partsOf]
  rcases opened : cutOpening {} text with ⟨header, _ | rest⟩ <;> rw [opened] at first
  · exact ⟨first, .bare rfl rfl rfl rfl⟩
  · obtain ⟨stays, closes⟩ := balanceFrom_cutClosing {} Nat.one_pos rest
    dsimp only
    rcases found : cutClosing {} 1 rest with ⟨body, behind?⟩
    rw [found] at stays closes
    dsimp only at stays closes
    have nonneg : ∀ count, 0 ≤ balance (body.take count) := fun count => by
      have := stays count
      rw [balance]
      omega
    cases behind? with
    | none => exact ⟨first, .opened rfl nonneg rfl rfl⟩
    | some behind =>
      have even : balance body = 0 := by
        have := closes rfl
        rw [balance]
        omega
      exact ⟨first, .closed rfl nonneg rfl even⟩

/-! ### Trees -/

mutual

/-- What a node keeps of its source: the ink of its header, its braces, and between them what its
children keep. -/
def kept : Node → Text
  | ⟨_, _, _, source, children⟩ =>
    ink (partsOf source).header ++ ((partsOf source).opening ++
      (keptAll children ++ (partsOf source).closing))

def keptAll : List Node → Text
  | [] => []
  | node :: nodes => kept node ++ keptAll nodes

end

theorem keptAll_eq_flatMap (nodes : List Node) : keptAll nodes = nodes.flatMap kept := by
  induction nodes with
  | nil => rfl
  | cons node nodes inductionHypothesis =>
    rw [keptAll, inductionHypothesis, List.flatMap_cons]

/-- A node is the outer one, or within one of its children. -/
inductive IsWithin : (outer node : Node) → Prop
  | self (node : Node) : IsWithin node node
  | child {outer child node : Node} : child ∈ outer.children → IsWithin child node →
    IsWithin outer node

theorem forall_isWithin_iff {outer : Node} {Holds : Node → Prop} :
    (∀ node, IsWithin outer node → Holds node) ↔
      Holds outer ∧ ∀ child ∈ outer.children, ∀ node, IsWithin child node → Holds node := by
  constructor
  · intro every
    exact ⟨every outer (.self outer), fun child member node within =>
      every node (.child member within)⟩
  · rintro ⟨own, inner⟩ node (_ | ⟨member, within⟩)
    · exact own
    · exact inner _ member node within

/-- Nothing but blanks stands behind the body of a node. -/
def EndsWithBody (node : Node) : Prop := Text.isBlankText (partsOf node.source).behind

/-- Two parts of texts are the whole texts if they are that together. -/
theorem append_eq_append_iff_of_sublist {part other left right : Text}
    (first : part.Sublist left) (second : other.Sublist right) :
    part ++ other = left ++ right ↔ part = left ∧ other = right := by
  constructor
  · intro same
    have lengths := congrArg List.length same
    have := first.length_le
    have := second.length_le
    rw [List.length_append, List.length_append] at lengths
    exact ⟨first.eq_of_length (by omega), second.eq_of_length (by omega)⟩
  · rintro ⟨rfl, rfl⟩
    rfl

/-- The same for any number of parts. -/
theorem flatMap_eq_flatMap_iff_of_sublist {Item : Type} {part whole : Item → Text}
    {items : List Item} (sublist : ∀ item ∈ items, (part item).Sublist (whole item)) :
    (items.flatMap part).Sublist (items.flatMap whole) ∧
      (items.flatMap part = items.flatMap whole ↔ ∀ item ∈ items, part item = whole item) := by
  induction items with
  | nil => exact ⟨.refl [], by simp⟩
  | cons item items inductionHypothesis =>
    rw [List.forall_mem_cons] at sublist
    obtain ⟨later, same⟩ := inductionHypothesis sublist.2
    rw [List.flatMap_cons, List.flatMap_cons, List.forall_mem_cons, ← same]
    exact ⟨sublist.1.append later, append_eq_append_iff_of_sublist sublist.1 later⟩

/-! ### What a tree keeps -/

theorem source_ofUnit (lines : List Text) : (ofUnit lines).source = Text.unlines lines := by
  rw [Node.ofUnit_eq]

theorem children_ofUnit (lines : List Text) : (ofUnit lines).children =
    (units (partsOf (Text.unlines lines)).body).map ofUnit := by
  rw [Node.ofUnit_eq, splitBody_eq]

theorem kept_ofUnit (lines : List Text) :
    kept (ofUnit lines) = ink (partsOf (Text.unlines lines)).header ++
      ((partsOf (Text.unlines lines)).opening ++
        ((units (partsOf (Text.unlines lines)).body).flatMap (fun unit => kept (ofUnit unit)) ++
          (partsOf (Text.unlines lines)).closing)) := by
  rw [Node.ofUnit_eq, kept, splitBody_eq, keptAll_eq_flatMap, List.flatMap_map]

/-- The braces around a body are not blank. -/
theorem ink_braces (text : Text) : ink (partsOf text).opening = (partsOf text).opening ∧
    ink (partsOf text).closing = (partsOf text).closing := by
  rcases (isCut_partsOf text).2 with ⟨opening, -, closing, -⟩ | ⟨opening, -, closing, -⟩ |
    ⟨opening, -, closing, -⟩ <;> rw [opening, closing] <;> exact ⟨rfl, rfl⟩

theorem ink_eq_parts (text : Text) : ink text = ink (partsOf text).header ++
    ((partsOf text).opening ++
      ((units (partsOf text).body).flatMap (fun unit => ink (Text.unlines unit)) ++
        ((partsOf text).closing ++ ink (partsOf text).behind))) := by
  conv => lhs; rw [eq_partsOf text]
  rw [ink_append, ink_append, ink_append, ink_append, flatMap_ink_units, (ink_braces text).1,
    (ink_braces text).2]

/-- A node keeps part of the ink of its unit, and all of it if nothing stands behind a body in it. -/
theorem kept_eq_ink_iff (lines : List Text) :
    (kept (ofUnit lines)).Sublist (ink (Text.unlines lines)) ∧
      (kept (ofUnit lines) = ink (Text.unlines lines) ↔
        ∀ node, IsWithin (ofUnit lines) node → EndsWithBody node) := by
  have inner : ∀ unit ∈ units (partsOf (Text.unlines lines)).body,
      (kept (ofUnit unit)).Sublist (ink (Text.unlines unit)) ∧
        (kept (ofUnit unit) = ink (Text.unlines unit) ↔
          ∀ node, IsWithin (ofUnit unit) node → EndsWithBody node) := fun unit member =>
    kept_eq_ink_iff unit
  obtain ⟨part, same⟩ := flatMap_eq_flatMap_iff_of_sublist fun unit member => (inner unit member).1
  have within : (∀ node, IsWithin (ofUnit lines) node → EndsWithBody node) ↔
      EndsWithBody (ofUnit lines) ∧ ∀ unit ∈ units (partsOf (Text.unlines lines)).body,
        ∀ node, IsWithin (ofUnit unit) node → EndsWithBody node := by
    rw [forall_isWithin_iff, children_ofUnit, List.forall_mem_map]
  have tail := List.sublist_append_left (partsOf (Text.unlines lines)).closing
    (ink (partsOf (Text.unlines lines)).behind)
  rw [kept_ofUnit, ink_eq_parts (Text.unlines lines)]
  refine ⟨(List.Sublist.refl _).append ((List.Sublist.refl _).append (part.append tail)), ?_⟩
  rw [List.append_cancel_left_eq, List.append_cancel_left_eq,
    append_eq_append_iff_of_sublist part tail, same, List.self_eq_append_right, ink_eq_nil_iff,
    within, EndsWithBody, source_ofUnit, and_comm]
  refine and_congr_right fun _ => forall₂_congr fun unit member => (inner unit member).2
termination_by (Text.unlines lines).length
decreasing_by
  refine length_unlines_lt_of_mem_body ?_
  rwa [splitBody_eq]

/-- The nodes of a block keep all of its ink exactly if nothing stands behind a body in them. -/
theorem keptAll_ofBlock_iff (source : Text) : keptAll (ofBlock source) = ink source ↔
    ∀ outer ∈ ofBlock source, ∀ node, IsWithin outer node → EndsWithBody node := by
  have each : ∀ unit ∈ units (Text.trim source),
      (kept (ofUnit unit)).Sublist (ink (Text.unlines unit)) := fun unit _ => (kept_eq_ink_iff unit).1
  rw [ofBlock, keptAll_eq_flatMap, List.flatMap_map, ← ink_trim source, ← flatMap_ink_units,
    (flatMap_eq_flatMap_iff_of_sublist each).2, List.forall_mem_map]
  exact forall₂_congr fun unit _ => (kept_eq_ink_iff unit).2

/-- The ink of a child stands in that of its parent. -/
theorem ink_child_infix {lines : List Text} {child : Node} (member : child ∈ (ofUnit lines).children) :
    ∃ unit, child = ofUnit unit ∧ ink child.source <:+: ink (Text.unlines lines) := by
  rw [children_ofUnit] at member
  obtain ⟨unit, inUnits, rfl⟩ := List.mem_map.1 member
  refine ⟨unit, rfl, ?_⟩
  obtain ⟨before, after, split⟩ := List.append_of_mem inUnits
  rw [source_ofUnit, ink_eq_parts (Text.unlines lines), split, List.flatMap_append,
    List.flatMap_cons]
  refine ⟨ink (partsOf (Text.unlines lines)).header ++ ((partsOf (Text.unlines lines)).opening ++
    before.flatMap fun unit => ink (Text.unlines unit)),
    after.flatMap (fun unit => ink (Text.unlines unit)) ++
      ((partsOf (Text.unlines lines)).closing ++ ink (partsOf (Text.unlines lines)).behind), ?_⟩
  simp only [List.append_assoc]

end Mechanics

end CampaignPress
