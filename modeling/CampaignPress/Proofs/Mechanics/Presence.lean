/-
This file says which nodes of a mechanics block are seen. A node of a known kind,
in a place where its parent shows nodes of that kind, has its own fragment in the
block, or its text stands in the mark of a malformed node around it. The
induction is on the places: what holds the fragment of a parent holds those of
the nodes that the parent shows.
-/
import CampaignPress.Proofs.Mechanics.Limit
import CampaignPress.Proofs.Mechanics.Locality
import CampaignPress.Proofs.Mechanics.Remainder
import CampaignPress.Proofs.Mechanics.Tree

namespace CampaignPress

namespace Mechanics

open Html (classed element)
open Node (ofUnit ofBlock)

/-! ### Places -/

/-- The places where nodes are shown: at the top of the block, beside the first roll of a move, and
as oracles of a group. -/
inductive IsPlaced (nodes : List Node) : Node → Prop
  | top {node : Node} : node ∈ nodes → IsPlaced nodes node
  | extra {move node : Node} : IsPlaced nodes move → kindOf move.keyword = .move →
    node ∈ move.children.eraseP isRoll → IsPlaced nodes node
  | oracle {group node : Node} : IsPlaced nodes group → kindOf group.keyword = .oracleGroup →
    node ∈ group.children → kindOf node.keyword = .oracle → IsPlaced nodes node

/-- The children of nodes that are read from units are read from units too. -/
theorem exists_unit_of_mem {outer child : Node} (unit : ∃ unit, outer = ofUnit unit)
    (member : child ∈ outer.children) : ∃ unit, child = ofUnit unit := by
  obtain ⟨lines, rfl⟩ := unit
  obtain ⟨unit, same, -⟩ := ink_child_infix member
  exact ⟨unit, same⟩

theorem IsPlaced.exists_unit {source : Text} {node : Node}
    (placed : IsPlaced (ofBlock source) node) : ∃ unit, node = ofUnit unit := by
  induction placed with
  | top member =>
    obtain ⟨unit, -, rfl⟩ := List.mem_map.1 member
    exact ⟨unit, rfl⟩
  | extra _ _ member inductionHypothesis =>
    exact exists_unit_of_mem inductionHypothesis (List.mem_of_mem_eraseP member)
  | oracle _ _ member _ inductionHypothesis => exact exists_unit_of_mem inductionHypothesis member

theorem IsWithin.concat {outer node child : Node} (within : IsWithin outer node)
    (member : child ∈ node.children) : IsWithin outer child := by
  induction within with
  | self => exact .child member (.self child)
  | child first _ inductionHypothesis => exact .child first (inductionHypothesis member)

/-- The ink of a node stands in that of the nodes around it. -/
theorem IsWithin.ink_infix {outer node : Node} (within : IsWithin outer node)
    (unit : ∃ unit, outer = ofUnit unit) : ink node.source <:+: ink outer.source := by
  induction within with
  | self => exact List.infix_rfl
  | child first _ inductionHypothesis =>
    refine (inductionHypothesis (exists_unit_of_mem unit first)).trans ?_
    obtain ⟨lines, rfl⟩ := unit
    obtain ⟨-, -, inside⟩ := ink_child_infix first
    rwa [source_ofUnit]

/-! ### Fragments of nodes -/

variable {base : Text} {index : Index}

/-- A node has its own fragment in what is shown. -/
def IsPart (base : Text) (index : Index) (html : Html) (node : Node) : Prop :=
  ∃ own, nodeHtml base index node = .ok own ∧ own <:+: html

theorem IsPart.mono {html whole : Html} {node : Node} (part : IsPart base index html node)
    (within : html <:+: whole) : IsPart base index whole node := by
  obtain ⟨own, shown, inside⟩ := part
  exact ⟨own, shown, inside.trans within⟩

theorem isPart_of_nodesHtml {nodes : List Node} {html : Html}
    (shown : nodesHtml base index nodes = .ok html) :
    ∀ node ∈ nodes, IsPart base index html node := by
  induction nodes generalizing html with
  | nil => exact fun node member => absurd member List.not_mem_nil
  | cons first nodes inductionHypothesis =>
    rw [nodesHtml] at shown
    obtain ⟨own, ownShown, shown⟩ := bind_eq_ok.1 shown
    obtain ⟨others, othersShown, shown⟩ := bind_eq_ok.1 shown
    obtain rfl := Except.ok.inj shown
    rw [List.forall_mem_cons]
    exact ⟨⟨own, ownShown, (List.prefix_append own others).isInfix⟩, fun node member =>
      (inductionHypothesis othersShown node member).mono (List.suffix_append own others).isInfix⟩

/-- Beside its first roll a move shows its children as a block shows its nodes. -/
theorem extrasHtml_eq (nodes : List Node) :
    extrasHtml base index nodes = nodesHtml base index (nodes.eraseP isRoll) := by
  induction nodes with
  | nil => rfl
  | cons node nodes inductionHypothesis =>
    rw [extrasHtml, List.eraseP_cons]
    split
    · rename_i roll
      rw [roll]
      rfl
    · rename_i other
      rw [Bool.not_eq_true] at other
      rw [other, inductionHypothesis]
      rfl

/-- A group shows its oracles as a block shows its nodes. -/
theorem oraclesHtml_eq (nodes : List Node) : oraclesHtml base index nodes =
    nodesHtml base index (nodes.filter fun node => kindOf node.keyword = .oracle) := by
  induction nodes with
  | nil => rfl
  | cons node nodes inductionHypothesis =>
    rw [oraclesHtml, List.filter_cons]
    by_cases oracle : kindOf node.keyword = .oracle
    · rw [if_pos oracle, if_pos (decide_eq_true oracle), inductionHypothesis]
      rfl
    · rw [if_neg oracle, if_neg (by simpa using oracle), inductionHypothesis]

theorem infix_element (name : Text) (attributes : List Html.Attribute)
    (before content after : Html) :
    content <:+: element name attributes (before ++ content ++ after) := by
  refine ⟨.opening name attributes :: before, after ++ [.closing name], ?_⟩
  simp [element]

theorem infix_moveFrame {name : Text} {roll : Roll} {dice extras html : Html}
    (shown : moveFrame name roll dice extras = .ok html) : extras <:+: html := by
  obtain ⟨score, -, shown⟩ := bind_eq_ok.1 shown
  obtain ⟨first, -, shown⟩ := bind_eq_ok.1 shown
  obtain ⟨second, -, shown⟩ := bind_eq_ok.1 shown
  obtain rfl := Except.ok.inj shown
  exact infix_element _ _ _ _ _

theorem infix_groupFrame (name : Text) (oracles : Html) : oracles <:+: groupFrame name oracles := by
  have quoted : oracles <:+: element "blockquote" [] oracles := by
    have inside := infix_element "blockquote" [] [] oracles []
    rwa [List.nil_append, List.append_nil] at inside
  exact quoted.trans (infix_element _ _ _ _ _)

/-- A move is shown around its other children, unless it is malformed. -/
theorem nodeHtml_move {node : Node} {own : Html} (move : kindOf node.keyword = .move)
    (shown : nodeHtml base index node = .ok own) :
    (IsMalformed node ∧ own = malformedHtml node) ∨
      ∃ name roll dice extras, nodesHtml base index (node.children.eraseP isRoll) = .ok extras ∧
        moveFrame name roll dice extras = .ok own := by
  obtain ⟨keyword, args, properties, source, children⟩ := node
  dsimp only at move
  rw [nodeHtml] at shown
  rw [IsMalformed]
  dsimp only at shown ⊢
  rw [move] at shown ⊢
  dsimp only at shown ⊢
  split at shown
  · rename_i trouble head
    cases trouble with
    | malformed => exact .inl ⟨head, (Except.ok.inj shown).symm⟩
    | fault cause => cases shown
  · rename_i name roll dice head
    obtain ⟨extras, extrasShown, shown⟩ := bind_eq_ok.1 shown
    rw [extrasHtml_eq] at extrasShown
    exact .inr ⟨name, roll, dice, extras, extrasShown, shown⟩

/-- A group is shown around its oracles. -/
theorem nodeHtml_group {node : Node} {own : Html} (group : kindOf node.keyword = .oracleGroup)
    (shown : nodeHtml base index node = .ok own) :
    ∃ oracles, nodesHtml base index
        (node.children.filter fun child => kindOf child.keyword = .oracle) = .ok oracles ∧
      own = groupFrame (groupName node) oracles := by
  obtain ⟨keyword, args, properties, source, children⟩ := node
  dsimp only at group
  rw [nodeHtml] at shown
  rw [group] at shown
  obtain ⟨oracles, oraclesShown, shown⟩ := bind_eq_ok.1 shown
  rw [oraclesHtml_eq] at oraclesShown
  exact ⟨oracles, oraclesShown, (Except.ok.inj shown).symm⟩

theorem outline_ne_nil (shape : Shape) : shape.outline ≠ [] := by
  cases shape <;> exact List.cons_ne_nil _ _

theorem shapeOf_ne_nil {node : Node} (known : kindOf node.keyword ≠ .unknown) :
    shapeOf node ≠ [] := by
  obtain ⟨keyword, args, properties, source, children⟩ := node
  dsimp only at known
  rw [shapeOf]
  cases kind : kindOf keyword with
  | unknown => exact absurd kind known
  | move | oracle | meter => dsimp only; split <;> exact List.cons_ne_nil _ _
  | oracleGroup | track => exact List.cons_ne_nil _ _

/-- Every node of a known kind shows something. -/
theorem nodeHtml_ne_nil {node : Node} {own : Html} (known : kindOf node.keyword ≠ .unknown)
    (shown : nodeHtml base index node = .ok own) : own ≠ [] := by
  rintro rfl
  have nothing : outlines (shapeOf node) = [] := (shows_nodeHtml base index node shown).outline.symm
  obtain ⟨shape, shapes, same⟩ := List.exists_cons_of_ne_nil (shapeOf_ne_nil known)
  rw [same, outlines] at nothing
  exact outline_ne_nil shape (List.append_eq_nil_iff.1 nothing).1

/-! ### What is seen -/

/-- What a block shows of a node: its own fragment, or the mark of a malformed node around it. -/
theorem isPart_or_isMarked {source : Text} {html : Html}
    (shown : blockHtml base index source = .ok html) {node : Node}
    (placed : IsPlaced (ofBlock source) node) : IsPart base index html node ∨
      ∃ outer, IsPlaced (ofBlock source) outer ∧ IsWithin outer node ∧ IsMalformed outer ∧
        malformedHtml outer <:+: html := by
  obtain ⟨nodes, nodesShown, shown⟩ := bind_eq_ok.1 shown
  obtain rfl := Except.ok.inj shown
  have inside : nodes <:+: classed "div" language nodes := by
    have inside := infix_element "div" [.verbatim "class" language] [] nodes []
    rwa [List.nil_append, List.append_nil] at inside
  induction placed with
  | top member => exact .inl ((isPart_of_nodesHtml nodesShown _ member).mono inside)
  | extra placed move member inductionHypothesis =>
    have child := List.mem_of_mem_eraseP member
    rcases inductionHypothesis with ⟨own, ownShown, part⟩ | ⟨outer, known, within, malformed, mark⟩
    · rcases nodeHtml_move move ownShown with ⟨malformed, rfl⟩ | ⟨_, _, _, extras, extrasShown, frame⟩
      · exact .inr ⟨_, placed, .child child (.self _), malformed, part⟩
      · exact .inl ((isPart_of_nodesHtml extrasShown _ member).mono
          ((infix_moveFrame frame).trans part))
    · exact .inr ⟨outer, known, within.concat child, malformed, mark⟩
  | oracle placed group member oracle inductionHypothesis =>
    rcases inductionHypothesis with ⟨own, ownShown, part⟩ | ⟨outer, known, within, malformed, mark⟩
    · obtain ⟨oracles, oraclesShown, rfl⟩ := nodeHtml_group group ownShown
      have child := isPart_of_nodesHtml oraclesShown _
        (List.mem_filter.2 ⟨member, decide_eq_true oracle⟩)
      exact .inl (child.mono ((infix_groupFrame _ oracles).trans part))
    · exact .inr ⟨outer, known, within.concat member, malformed, mark⟩

/-- A node is seen by its own fragment, or its text stands in the source that a malformed node
around it is marked with. -/
def IsSeen (base : Text) (index : Index) (html : Html) (node : Node) : Prop :=
  (∃ own, nodeHtml base index node = .ok own ∧ own ≠ [] ∧ own <:+: html) ∨
    ∃ outer, IsWithin outer node ∧ IsMalformed outer ∧ malformedHtml outer <:+: html ∧
      ink node.source <:+: ink outer.source

/-- Every node of a known kind is seen where nodes are shown. -/
theorem isSeen_of_isPlaced {source : Text} {html : Html}
    (shown : blockHtml base index source = .ok html) {node : Node}
    (placed : IsPlaced (ofBlock source) node) (known : kindOf node.keyword ≠ .unknown) :
    IsSeen base index html node := by
  rcases isPart_or_isMarked shown placed with ⟨own, ownShown, part⟩ |
    ⟨outer, outerPlaced, within, malformed, mark⟩
  · exact .inl ⟨own, ownShown, nodeHtml_ne_nil known ownShown, part⟩
  · exact .inr ⟨outer, within, malformed, mark, within.ink_infix outerPlaced.exists_unit⟩

/-- A text is a header, a body between the first brace that opens and the one that matches it, and
what stands behind them; only the header and the body are read. So the nodes of a block keep its ink
exactly if nothing but blanks stands behind the bodies. All the nodes of known kinds that are read,
where nodes are shown, are seen. -/
theorem block_keeps_ink_iff (source : Text) :
    (∀ text, splitBody text = ((partsOf text).header, (partsOf text).body) ∧
      text = (partsOf text).header ++ ((partsOf text).opening ++ ((partsOf text).body ++
        ((partsOf text).closing ++ (partsOf text).behind))) ∧
      Brace.opens ∉ Reader.braces {} (partsOf text).header ∧ (partsOf text).IsCut) ∧
    (keptAll (ofBlock source) = ink source ↔
      ∀ outer ∈ ofBlock source, ∀ node, IsWithin outer node → EndsWithBody node) ∧
    ∀ (base : Text) (index : Index),
      (areBounded (ofBlock source) → ∃ html, blockHtml base index source = .ok html) ∧
      ∀ html, blockHtml base index source = .ok html → ∀ node, IsPlaced (ofBlock source) node →
        kindOf node.keyword ≠ .unknown → IsSeen base index html node := by
  refine ⟨fun text => ⟨splitBody_eq text, eq_partsOf text, isCut_partsOf text⟩,
    keptAll_ofBlock_iff source, ?_⟩
  intro base index
  refine ⟨fun bounded => succeeds_blockHtml base index bounded, ?_⟩
  intro html shown node placed known
  exact isSeen_of_isPlaced shown placed known

set_option maxRecDepth 10000 in
/-- A group of one oracle keeps its ink, and its oracle is seen. -/
theorem block_keeps_ink_iff_group :
    let source : Text := "oracle-group \"G\" \x7b\n  oracle name=\"A\"\n\x7d"
    let oracle := ofUnit ["oracle name=\"A\""]
    keptAll (ofBlock source) = ink source ∧
      (∀ outer ∈ ofBlock source, ∀ node, IsWithin outer node → EndsWithBody node) ∧
      IsPlaced (ofBlock source) oracle ∧ kindOf oracle.keyword ≠ .unknown ∧
      ∃ html, blockHtml [] .empty source = .ok html ∧ IsSeen [] .empty html oracle := by
  intro source oracle
  obtain ⟨-, keeps, shows⟩ := block_keeps_ink_iff source
  obtain ⟨succeeds, seen⟩ := shows [] .empty
  obtain ⟨html, shown⟩ := succeeds (by decide +kernel)
  have all : keptAll (ofBlock source) = ink source := by decide +kernel
  have known : kindOf oracle.keyword = .oracle := by decide +kernel
  let lines : List Text := ["oracle-group \"G\" \x7b", "oracle name=\"A\"", "\x7d"]
  have inBlock : ofUnit lines ∈ ofBlock source := List.mem_map_of_mem (by decide)
  have inGroup : oracle ∈ (ofUnit lines).children := by
    rw [children_ofUnit]
    exact List.mem_map_of_mem (by decide)
  have group : kindOf (ofUnit lines).keyword = .oracleGroup := by decide +kernel
  have placed := IsPlaced.oracle (.top inBlock) group inGroup known
  have kind : kindOf oracle.keyword ≠ .unknown := by
    rw [known]
    decide
  exact ⟨all, keeps.1 all, placed, kind, html, shown, seen html shown oracle placed kind⟩

set_option maxRecDepth 10000 in
/-- A meter behind the braces of an oracle is lost: its ink is not kept, and the block is written as
without it. -/
theorem exists_directive_lost : ∃ before directive : Text,
    (∃ node, ofBlock directive = [node] ∧ kindOf node.keyword = .meter ∧
      (meterHtml node).toBool) ∧
    keptAll (ofBlock (before ++ directive)) ≠ ink (before ++ directive) ∧
    (blockHtml [] .empty (before ++ directive)).map Html.write =
      (blockHtml [] .empty before).map Html.write := by
  let directive : Text := "meter \"x\" from=1 to=2"
  refine ⟨"oracle name=\"A\" \x7b \x7d ", directive, ?_, ?_, ?_⟩
  · have single : units (Text.trim directive) = [[directive]] := by decide
    refine ⟨ofUnit [directive], ?_, by decide +kernel, by decide +kernel⟩
    rw [ofBlock, single]
    rfl
  · decide +kernel
  · decide +kernel

end Mechanics

end CampaignPress
