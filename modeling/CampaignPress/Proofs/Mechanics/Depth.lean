/-
This file says why the reading of a mechanics block ends. A node is made of a
unit, and its children of the units in the body of that unit, which are shorter:
the body leaves out a brace at least, and trimming and joining lines adds
nothing. The same brace bounds the nesting. Every unit in a body lacks the brace
that opens the body, so no tree has more levels below its root than its text has
braces that open.
-/
import CampaignPress.Proofs.Mechanics.Remainder

namespace CampaignPress

namespace Mechanics

open Node (ofUnit ofBlock)

/-! ### Inner units -/

/-- A unit stands in the body of another one. -/
def IsInner (inner outer : List Text) : Prop := inner ∈ units (splitBody (Text.unlines outer)).2

theorem IsInner.length_lt {inner outer : List Text} (inside : IsInner inner outer) :
    (Text.unlines inner).length < (Text.unlines outer).length := length_unlines_lt_of_mem_body inside

/-- No unit stands at the top of endless bodies in bodies. -/
theorem wellFounded_isInner : WellFounded IsInner :=
  Subrelation.wf (fun inside => IsInner.length_lt inside)
    (measure fun unit : List Text => (Text.unlines unit).length).wf

theorem mem_children_ofUnit_iff {unit : List Text} {child : Node} :
    child ∈ (ofUnit unit).children ↔ ∃ inner, IsInner inner unit ∧ ofUnit inner = child := by
  rw [Node.ofUnit_eq, List.mem_map]
  rfl

/-- Every node within the node of a unit is the node of a unit. -/
theorem exists_unit_of_isWithin {outer node : Node} (within : IsWithin outer node)
    (made : ∃ unit, outer = ofUnit unit) : ∃ unit, node = ofUnit unit := by
  induction within with
  | self => exact made
  | child member _ inductionHypothesis =>
    obtain ⟨unit, rfl⟩ := made
    obtain ⟨inner, -, same⟩ := mem_children_ofUnit_iff.1 member
    exact inductionHypothesis ⟨inner, same.symm⟩

/-! ### Braces -/

theorem count_ink (text : Text) : (ink text).count '{' = text.count '{' :=
  List.count_filter (by decide)

/-- The braces that open in the units of a text are among those of the text. -/
theorem count_le_of_mem_units {source : Text} {unit : List Text} (member : unit ∈ units source) :
    (Text.unlines unit).count '{' ≤ source.count '{' := by
  have part := (List.singleton_sublist.2 member).flatMap fun unit => ink (Text.unlines unit)
  rw [List.flatMap_singleton, flatMap_ink_units] at part
  rw [← count_ink, ← count_ink source]
  exact part.count_le '{'

/-- The brace that opens a body stands in none of the units of the body. -/
theorem IsInner.count_lt {inner outer : List Text} (inside : IsInner inner outer) :
    (Text.unlines inner).count '{' < (Text.unlines outer).count '{' := by
  rw [IsInner, splitBody_eq] at inside
  have opening : (partsOf (Text.unlines outer)).opening = ['{'] := by
    rcases (isCut_partsOf (Text.unlines outer)).2 with ⟨-, body, -, -⟩ | ⟨opening, -, -, -⟩ |
      ⟨opening, -, -, -⟩
    · dsimp only at inside
      rw [body] at inside
      exact absurd inside List.not_mem_nil
    · exact opening
    · exact opening
  have within := count_le_of_mem_units inside
  have whole := congrArg (List.count '{') (eq_partsOf (Text.unlines outer))
  simp only [List.count_append, opening, List.count_singleton_self] at whole
  dsimp only at within
  omega

/-! ### Depth -/

theorem depth_eq (node : Node) : depth node = depthAll node.children + 1 := by
  cases node
  rfl

theorem depthAll_le_iff {nodes : List Node} {bound : Nat} :
    depthAll nodes ≤ bound ↔ ∀ node ∈ nodes, depth node ≤ bound := by
  induction nodes with
  | nil => simp [depthAll]
  | cons node nodes inductionHypothesis =>
    rw [depthAll, max_le_iff, inductionHypothesis, List.forall_mem_cons]

/-- Below the root of a tree there are no more levels than braces that open in its text. -/
theorem depth_ofUnit_le (unit : List Text) :
    depth (ofUnit unit) ≤ (Text.unlines unit).count '{' + 1 := by
  induction unit using wellFounded_isInner.induction with
  | _ unit inductionHypothesis =>
    rw [depth_eq]
    refine Nat.succ_le_succ (depthAll_le_iff.2 fun child member => ?_)
    obtain ⟨inner, inside, rfl⟩ := mem_children_ofUnit_iff.1 member
    exact (inductionHypothesis inner inside).trans inside.count_lt

/-- The reading of a block ends: there are no endless bodies in bodies, the children of every node are
made of the units in its body and have shorter texts than the node itself, and no tree has more
levels than one and those of the braces that open. -/
theorem ofBlock_ends (source : Text) : WellFounded IsInner ∧
    (∀ outer ∈ ofBlock source, ∀ node, IsWithin outer node → ∃ unit, node = ofUnit unit ∧
      ∀ child ∈ node.children, ∃ inner, child = ofUnit inner ∧ IsInner inner unit ∧
        child.source.length < node.source.length) ∧
    ∀ outer ∈ ofBlock source, depth outer ≤ source.count '{' + 1 := by
  refine ⟨wellFounded_isInner, fun outer member node within => ?_, fun outer member => ?_⟩
  · obtain ⟨first, -, same⟩ := List.mem_map.1 member
    obtain ⟨unit, rfl⟩ := exists_unit_of_isWithin within ⟨first, same.symm⟩
    refine ⟨unit, rfl, fun child inChildren => ?_⟩
    obtain ⟨inner, inside, rfl⟩ := mem_children_ofUnit_iff.1 inChildren
    refine ⟨inner, rfl, inside, ?_⟩
    rw [source_ofUnit, source_ofUnit]
    exact inside.length_lt
  · obtain ⟨unit, inUnits, rfl⟩ := List.mem_map.1 member
    have few : (Text.unlines unit).count '{' ≤ source.count '{' := by
      rw [← count_ink source, ← ink_trim, count_ink]
      exact count_le_of_mem_units inUnits
    exact (depth_ofUnit_le unit).trans (Nat.succ_le_succ few)

end Mechanics

end CampaignPress
