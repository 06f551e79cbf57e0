/-
This file shows that a mechanics block is read and shown unit by unit. A source
whose lines close every unit that they open leaves nothing to the lines below
it, so the units, the nodes and the fragments of two such sources, one below the
other, are those of the first and then those of the second. What is between two
sources changes no fragment of theirs, whether or not it can be shown.
-/
import CampaignPress.Mechanics.Block
import CampaignPress.Proofs.Mechanics.Brace
import CampaignPress.Proofs.Value.Text

namespace CampaignPress

namespace Mechanics

/-! ### Sources without an open unit -/

/-- Whether no unit is open after the last line of a source. -/
def isIdle (source : Text) : Bool := (scan none (Text.trimmedLines source)).2.isNone

theorem scan_of_isIdle {source : Text} (idle : isIdle source) :
    scan none (Text.trimmedLines source) = (units source, none) := by
  have last : (scan none (Text.trimmedLines source)).2 = none := Option.isNone_iff_eq_none.1 idle
  have whole : scan none (Text.trimmedLines source) =
      ((scan none (Text.trimmedLines source)).1, none) := Prod.ext rfl last
  rw [whole, ← groupFrom_of_scan whole]
  rfl

/-- A unit is closed if its lines close as many braces as they open, or more. -/
def IsClosed (unit : List Text) : Prop := (unit.map balance).sum ≤ 0

instance (unit : List Text) : Decidable (IsClosed unit) := inferInstanceAs (Decidable (_ ≤ _))

/-- The depth of an open unit is what its lines leave open. -/
def Collected.IsTrue (collected : Collected) : Prop :=
  collected.depth = (collected.lines.map balance).sum

/-- A line completes closed units only, and the unit that it leaves open knows its depth. -/
theorem isClosed_of_mem_step {open? : Option Collected} (line : Text)
    (isTrue : ∀ collected ∈ open?, collected.IsTrue) :
    (∀ unit ∈ (Collected.step open? line).1, IsClosed unit) ∧
      ∀ collected ∈ (Collected.step open? line).2, collected.IsTrue := by
  cases open? with
  | none =>
    rw [Collected.step_none]
    split
    · simp
    · split
      · simp [Collected.IsTrue]
      · rename_i even
        simpa [IsClosed] using even
  | some collected =>
    have depth : collected.depth = (collected.lines.map balance).sum := isTrue collected rfl
    rw [Collected.step_some, depth]
    split
    · rename_i even
      simpa [IsClosed] using even
    · simp [Collected.IsTrue]

theorem isClosed_of_mem_scan {open? : Option Collected} (lines : List Text)
    (isTrue : ∀ collected ∈ open?, collected.IsTrue) :
    (∀ unit ∈ (scan open? lines).1, IsClosed unit) ∧
      ∀ collected ∈ (scan open? lines).2, collected.IsTrue := by
  induction lines generalizing open? with
  | nil => exact ⟨by simp [scan], isTrue⟩
  | cons line rest inductionHypothesis =>
    obtain ⟨closed, next⟩ := isClosed_of_mem_step line isTrue
    obtain ⟨later, last⟩ := inductionHypothesis next
    rw [scan_cons]
    exact ⟨List.forall_mem_append.2 ⟨closed, later⟩, last⟩

/-- No unit is open after a source exactly if all its units are closed. -/
theorem isIdle_iff {source : Text} : isIdle source ↔ ∀ unit ∈ units source, IsClosed unit := by
  have outside : ∀ collected ∈ (none : Option Collected), collected.IsTrue := by simp
  obtain ⟨closed, last⟩ := isClosed_of_mem_scan (Text.trimmedLines source) outside
  have grouped := groupFrom_append none (Text.trimmedLines source) []
  rw [List.append_nil] at grouped
  constructor
  · intro idle
    rwa [scan_of_isIdle idle] at closed
  · intro all
    cases left : (scan none (Text.trimmedLines source)).2 with
    | none => rw [isIdle, left]; rfl
    | some collected =>
      rw [left] at grouped last
      have depth : collected.depth = (collected.lines.map balance).sum := last collected rfl
      have inside : 0 < collected.depth := depth_pos_of_scan (by simp) collected left
      have even : IsClosed collected.lines := all _ (by
        show collected.lines ∈ groupFrom none (Text.trimmedLines source)
        rw [grouped]
        exact List.mem_append_right _ (List.mem_singleton_self _))
      rw [IsClosed, ← depth] at even
      omega

/-! ### Units -/

/-- The blanks before a source belong to no unit. -/
theorem units_blank_append {blanks : Text} (blank : ∀ c ∈ blanks, Text.isBlank c) (source : Text) :
    units (blanks ++ source) = units source := by
  obtain ⟨count, same⟩ := Text.exists_trimmedLines_blank_append blank source
  show groupFrom none (Text.trimmedLines (blanks ++ source)) = _
  rw [same, groupFrom_append, scan_none_replicate]
  rfl

/-- The units of a source without an open unit come before those of the lines below it. -/
theorem units_append_break {source : Text} (idle : isIdle source) (next : Text) :
    units (source ++ '\n' :: next) = units source ++ units next := by
  show groupFrom none (Text.trimmedLines (source ++ '\n' :: next)) = _
  rw [Text.trimmedLines_append_break, groupFrom_append, scan_of_isIdle idle]
  rfl

theorem units_trim_of_isIdle {source : Text} (idle : isIdle source) :
    units (Text.trim source) = units source := units_trim_of_scan (scan_of_isIdle idle)

/-- Trimming reaches the blanks at the end of the lower source only, which may stand in a unit
that is left open. -/
theorem units_trim_append_break {source : Text} (idle : isIdle source) (next : Text) :
    units (Text.trim (source ++ '\n' :: next)) = units (Text.trim source) ++ units (Text.trim next) := by
  obtain ⟨before, after, same, blankBefore, blankAfter⟩ := Text.exists_trim next
  by_cases empty : Text.trim next = []
  · have blank : ∀ c ∈ '\n' :: next, Text.isBlank c := by
      rw [same, empty, List.append_nil]
      exact List.forall_mem_cons.2 ⟨by decide, List.forall_mem_append.2 ⟨blankBefore, blankAfter⟩⟩
    rw [Text.trim_append_right source blank, empty]
    exact (List.append_nil _).symm
  · have whole : source ++ '\n' :: next = source ++ '\n' :: before ++ Text.trim next ++ after := by
      rw [List.append_assoc, List.append_assoc, List.cons_append, ← List.append_assoc before, ← same]
    have split := List.takeWhile_append_dropWhile (p := Text.isBlank) (l := source ++ '\n' :: before)
    have blank : ∀ c ∈ (source ++ '\n' :: before).takeWhile Text.isBlank, Text.isBlank c :=
      fun c => List.mem_takeWhile_imp
    calc
      units (Text.trim (source ++ '\n' :: next))
        = units ((source ++ '\n' :: before).dropWhile Text.isBlank ++ Text.trim next) := by
          rw [whole, Text.trim_append_right _ blankAfter, Text.trim_append_word _ empty
            Text.isBlank_head_trim Text.isBlank_getLast_trim]
      _ = units (source ++ '\n' :: (before ++ Text.trim next)) := by
          rw [← units_blank_append blank, ← List.append_assoc, split, List.append_assoc]
          rfl
      _ = units (Text.trim source) ++ units (Text.trim next) := by
          rw [units_append_break idle, units_blank_append blankBefore, units_trim_of_isIdle idle]

end Mechanics

theorem Node.ofBlock_append_break {source : Text} (idle : Mechanics.isIdle source) (next : Text) :
    Node.ofBlock (source ++ '\n' :: next) = Node.ofBlock source ++ Node.ofBlock next := by
  rw [ofBlock, Mechanics.units_trim_append_break idle, List.map_append]
  rfl

namespace Mechanics

/-! ### Fragments -/

variable {base : Text} {index : Index}

/-- What is shown for each node of a block. -/
def fragments (base : Text) (index : Index) (source : Text) : Except Fault (List Html) :=
  (Node.ofBlock source).mapM (nodeHtml base index)

/-- The box around the fragments of a block. -/
def wrapped (fragments : List Html) : Html := Html.classed "div" language fragments.flatten

theorem nodesHtml_eq (nodes : List Node) :
    nodesHtml base index nodes = (nodes.mapM (nodeHtml base index)).map List.flatten := by
  induction nodes with
  | nil => rfl
  | cons node nodes inductionHypothesis =>
    rw [nodesHtml, inductionHypothesis, List.mapM_cons]
    cases nodeHtml base index node with
    | error cause => rfl
    | ok first => cases nodes.mapM (nodeHtml base index) <;> rfl

/-- A block is shown as the fragments of its nodes in a box. -/
theorem blockHtml_eq (source : Text) :
    blockHtml base index source = (fragments base index source).map wrapped := by
  rw [blockHtml, nodesHtml_eq, fragments]
  cases (Node.ofBlock source).mapM (nodeHtml base index) <;> rfl

theorem blockHtml_eq_ok {source : Text} {html : Html} :
    blockHtml base index source = .ok html ↔
      ∃ own, fragments base index source = .ok own ∧ html = wrapped own := by
  rw [blockHtml_eq]
  cases fragments base index source with
  | error cause => exact ⟨nofun, fun ⟨_, same, _⟩ => nomatch same⟩
  | ok own =>
    constructor
    · intro same
      exact ⟨own, rfl, (Except.ok.inj same).symm⟩
    · rintro ⟨_, same, rfl⟩
      exact congrArg (fun own => Except.ok (wrapped own)) (Except.ok.inj same)

theorem fragments_append_break {source next : Text} (idle : isIdle source) {left right : List Html}
    (first : fragments base index source = .ok left)
    (second : fragments base index next = .ok right) :
    fragments base index (source ++ '\n' :: next) = .ok (left ++ right) := by
  rw [fragments] at first second
  rw [fragments, Node.ofBlock_append_break idle, List.mapM_append, first, second]
  rfl

/-! ### Nodes that cannot be shown -/

/-- Whether a node lacks something that its kind needs. -/
def IsMalformed (node : Node) : Prop :=
  match kindOf node.keyword with
  | .move => moveHead node = .error .malformed
  | .oracle => oracleHtml node = .error .malformed
  | .meter => meterHtml node = .error .malformed
  | _ => False

theorem nodeHtml_of_isMalformed {node : Node} (malformed : IsMalformed node) :
    nodeHtml base index node = .ok (malformedHtml node) := by
  obtain ⟨keyword, args, properties, source, children⟩ := node
  rw [IsMalformed] at malformed
  rw [nodeHtml]
  dsimp only at malformed ⊢
  cases kind : kindOf keyword <;> rw [kind] at malformed
  case move | oracle | meter =>
    dsimp only at malformed ⊢
    rw [malformed]
    rfl
  all_goals exact malformed.elim

theorem nodeHtml_of_unknown {node : Node} (unknown : kindOf node.keyword = .unknown) :
    nodeHtml base index node = .ok [] := by
  obtain ⟨keyword, args, properties, source, children⟩ := node
  rw [nodeHtml]
  dsimp only at unknown ⊢
  rw [unknown]

variable (base index) in
/-- Nodes of no known kind show nothing. -/
theorem exists_fragments_of_unknown {source : Text}
    (unknown : ∀ node ∈ Node.ofBlock source, kindOf node.keyword = .unknown) :
    ∃ own, fragments base index source = .ok own ∧ own.flatten = [] := by
  refine ⟨(Node.ofBlock source).map fun _ => [], ?_, ?_⟩
  · exact mapM_eq_map fun node member => nodeHtml_of_unknown (unknown node member)
  · rw [List.flatten_eq_nil_iff]
    rintro _ member
    obtain ⟨_, -, rfl⟩ := List.mem_map.1 member
    rfl

/-! ### Sources one below the other -/

/-- What is shown for two sources, one below the other, out of the fragments of each. Sources
between them add the fragments that are their own. -/
structure ShowsBelow (base : Text) (index : Index) (source next : Text) (left right : List Html) :
    Prop where
  below : blockHtml base index (source ++ '\n' :: next) = .ok (wrapped (left ++ right))
  between : ∀ (middle : Text) (own : List Html), isIdle middle →
    fragments base index middle = .ok own →
    blockHtml base index (source ++ '\n' :: (middle ++ '\n' :: next)) =
      .ok (wrapped (left ++ own ++ right))
  malformed : ∀ (middle : Text) (node : Node), isIdle middle → Node.ofBlock middle = [node] →
    IsMalformed node →
    blockHtml base index (source ++ '\n' :: (middle ++ '\n' :: next)) =
      .ok (wrapped (left ++ [malformedHtml node] ++ right))
  unknown : ∀ middle : Text, isIdle middle →
    (∀ node ∈ Node.ofBlock middle, kindOf node.keyword = .unknown) →
    blockHtml base index (source ++ '\n' :: (middle ++ '\n' :: next)) =
      .ok (wrapped (left ++ right))

theorem showsBelow {source next : Text} (idle : isIdle source) {left right : List Html}
    (first : fragments base index source = .ok left)
    (second : fragments base index next = .ok right) :
    ShowsBelow base index source next left right := by
  have between : ∀ (middle : Text) (own : List Html), isIdle middle →
      fragments base index middle = .ok own →
      blockHtml base index (source ++ '\n' :: (middle ++ '\n' :: next)) =
        .ok (wrapped (left ++ own ++ right)) := by
    intro middle own idleMiddle shown
    refine blockHtml_eq_ok.2 ⟨_, ?_, rfl⟩
    rw [List.append_assoc]
    exact fragments_append_break idle first (fragments_append_break idleMiddle shown second)
  refine ⟨?_, between, ?_, ?_⟩
  · exact blockHtml_eq_ok.2 ⟨_, fragments_append_break idle first second, rfl⟩
  · intro middle node idleMiddle single malformed
    refine between middle _ idleMiddle ?_
    rw [fragments, single, List.mapM_cons, nodeHtml_of_isMalformed malformed]
    rfl
  · intro middle idleMiddle unknown
    obtain ⟨own, shown, empty⟩ := exists_fragments_of_unknown base index unknown
    rw [between middle own idleMiddle shown]
    simp [wrapped, empty]

/-- The units, the nodes and what is shown for a source without an open unit and any lines below
it are those of the source and then those of the lines. So no node changes a fragment but its
own. -/
theorem blockHtml_append_break {source : Text} (idle : isIdle source) (next : Text) :
    units (source ++ '\n' :: next) = units source ++ units next ∧
      Node.ofBlock (source ++ '\n' :: next) = Node.ofBlock source ++ Node.ofBlock next ∧
      ∀ (base : Text) (index : Index) (first second : Html),
        blockHtml base index source = .ok first → blockHtml base index next = .ok second →
        ∃ left right, fragments base index source = .ok left ∧ first = wrapped left ∧
          fragments base index next = .ok right ∧ second = wrapped right ∧
          ShowsBelow base index source next left right := by
  refine ⟨units_append_break idle next, Node.ofBlock_append_break idle next, ?_⟩
  intro base index first second shown shownNext
  obtain ⟨left, fragmentsLeft, rfl⟩ := blockHtml_eq_ok.1 shown
  obtain ⟨right, fragmentsRight, rfl⟩ := blockHtml_eq_ok.1 shownNext
  exact ⟨left, right, fragmentsLeft, rfl, fragmentsRight, rfl,
    showsBelow idle fragmentsLeft fragmentsRight⟩

/-- A closing brace too many and a quote that stays open above, a unit that stays open below, and
a node of no known kind between them. -/
theorem blockHtml_append_break_unbalanced :
    let source : Text := "\x7d\n\nmove \"A"
    let next : Text := "meter \"M\" from=1 to=2\nmove \"B\" \x7b\n"
    isIdle source ∧ ∃ first second left right,
      blockHtml [] .empty source = .ok first ∧ blockHtml [] .empty next = .ok second ∧
        ShowsBelow [] .empty source next left right ∧
        blockHtml [] .empty (source ++ '\n' :: ("spell \"C\"".toList ++ '\n' :: next)) =
          .ok (wrapped (left ++ right)) := by
  intro source next
  have idle : isIdle source := isIdle_iff.2 (by decide +kernel)
  have ends : ∀ text ∈ [source, next], (blockHtml [] .empty text).toBool := by decide +kernel
  cases shown : blockHtml [] .empty source with
  | error cause => exact absurd (ends source (by simp)) (by rw [shown]; exact Bool.false_ne_true)
  | ok first =>
    cases shownNext : blockHtml [] .empty next with
    | error cause => exact absurd (ends next (by simp)) (by rw [shownNext]; exact Bool.false_ne_true)
    | ok second =>
      obtain ⟨-, -, shows⟩ := blockHtml_append_break idle next
      obtain ⟨left, right, -, -, -, -, below⟩ := shows [] .empty first second shown shownNext
      exact ⟨idle, first, second, left, right, rfl, rfl, below,
        below.unknown "spell \"C\"" (by decide +kernel) (by decide +kernel)⟩

end Mechanics

end CampaignPress
