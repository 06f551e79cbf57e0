/-
This file tells the tags of mechanics blocks from their shape, the tree of the
nodes that are recognised. A node that lacks something is a leaf of the shape,
and one of an unknown kind has no place in it. The induction is on the nodes: what
is shown for one has the outline of its shape if that holds for its children.
-/
import CampaignPress.Proofs.Mechanics.Outline

namespace CampaignPress

namespace Mechanics

open Html (around isClean classed)

/-! ### Shapes -/

/-- The roll of a move: one of an action, or one of progress, which may name a track. -/
inductive Shape.Dice where
  | action
  | progress (named : Bool)
  deriving DecidableEq, Repr

/-- What is recognised in a node. -/
inductive Shape where
  | malformed
  | move (dice : Shape.Dice) (extras : List Shape)
  | oracle
  | group (oracles : List Shape)
  | track
  | meter

def diceOf (roll : Node) : Shape.Dice :=
  if roll.keyword = "roll".toList then .action
  else .progress (!(roll.propertyText "name").isEmpty)

mutual

/-- The shape of a node, or nothing for a node of an unknown kind. -/
def shapeOf : Node → List Shape
  | ⟨keyword, args, properties, source, children⟩ =>
    let node : Node := ⟨keyword, args, properties, source, children⟩
    match kindOf keyword with
    | .move =>
      match moveHead node, children.find? isRoll with
      | .ok _, some roll => [.move (diceOf roll) (extraShapes children)]
      | _, _ => [.malformed]
    | .oracle => if (propertyName node).isEmpty then [.malformed] else [.oracle]
    | .oracleGroup => [.group (oracleShapes children)]
    | .track => [.track]
    | .meter =>
      match meterHtml node with
      | .ok _ => [.meter]
      | .error _ => [.malformed]
    | .unknown => []

def shapesOf : List Node → List Shape
  | [] => []
  | node :: nodes => shapeOf node ++ shapesOf nodes

def extraShapes : List Node → List Shape
  | [] => []
  | node :: nodes =>
    if isRoll node then shapesOf nodes else shapeOf node ++ extraShapes nodes

def oracleShapes : List Node → List Shape
  | [] => []
  | node :: nodes =>
    if kindOf node.keyword = .oracle then shapeOf node ++ oracleShapes nodes
    else oracleShapes nodes

end

/-! ### Outlines -/

def entryOutline : List Text := around "dd" " class=" []

def labelOutline : List Text := around "dt" [] []

def nameOutline : List Text := around "span" " class=" []

def Shape.Dice.outline : Shape.Dice → List Text
  | .action => entryOutline ++ entryOutline ++ entryOutline ++ entryOutline
  | .progress named => if named then entryOutline else []

mutual

def Shape.outline : Shape → List Text
  | .malformed => around "div" " class=" []
  | .move dice extras =>
    around "details" " class= open" (around "summary" [] nameOutline ++
      around "dl" " class=" (labelOutline ++ dice.outline ++ entryOutline ++ entryOutline ++
        entryOutline) ++ outlines extras)
  | .oracle => around "dl" " class=" (labelOutline ++ entryOutline ++ entryOutline ++ entryOutline)
  | .group oracles =>
    around "div" " class=" (nameOutline ++ around "blockquote" [] (outlines oracles))
  | .track =>
    around "dl" " class=" (labelOutline ++ around "dd" " class=" (around "a" " href=" []) ++
      around "dd" " class= data-value=" [])
  | .meter => around "dl" " class=" (labelOutline ++ entryOutline ++ entryOutline ++ entryOutline)

/-- The outlines of the tags of shapes, in order. -/
def outlines : List Shape → List Text
  | [] => []
  | shape :: shapes => shape.outline ++ outlines shapes

end

theorem outlines_append (left right : List Shape) :
    outlines (left ++ right) = outlines left ++ outlines right := by
  induction left with
  | nil => rfl
  | cons shape left inductionHypothesis =>
    rw [List.cons_append, outlines, outlines, inductionHypothesis, List.append_assoc]

theorem outlines_singleton (shape : Shape) : outlines [shape] = shape.outline := by
  rw [outlines, outlines, List.append_nil]

/-! ### Parts -/

theorem lift_eq_ok {Outcome : Type} {result : Except Fault Outcome} {outcome : Outcome} :
    lift result = .ok outcome ↔ result = .ok outcome := by
  cases result <;> simp [lift]

theorem demand_eq_ok {Outcome : Type} {outcome? : Option Outcome} {outcome : Outcome} :
    demand outcome? = .ok outcome ↔ outcome? = some outcome := by
  cases outcome? <;> simp [demand]

theorem shows_gap (spaces : Nat) : (gap spaces).Shows [] := by
  refine Html.shows_verbatim (Html.isClean_iff.2 fun c member => ?_)
  rcases List.mem_cons.1 member with rfl | blank
  · decide
  · rw [List.eq_of_mem_replicate blank]
    decide

theorem shows_lifted {value : Int} {html : Html} (shown : lift (Html.number value) = .ok html) :
    html.Shows [] := Html.shows_number (lift_eq_ok.1 shown)

theorem shows_label (name : Text) : (label name).Shows labelOutline :=
  (Html.shows_plainText name).element (by decide) rfl

theorem shows_entry {content : Html} {inner : List Text} (shows : content.Shows inner)
    {classes : Text} (clean : isClean classes) :
    (entry classes content).Shows (around "dd" " class=" inner) :=
  shows.classed (by decide) clean

/-- A further entry, on a line of its own. -/
theorem shows_nextEntry {left content : Html} {before inner : List Text} (first : left.Shows before)
    (shows : content.Shows inner) {classes : Text} (clean : isClean classes) {spaces : Nat} :
    (left ++ gap spaces ++ entry classes content).Shows
      (before ++ around "dd" " class=" inner) :=
  (first.append_nil (shows_gap spaces)).append (shows_entry shows clean)

theorem shows_name (name : Text) {classes : Text} (clean : isClean classes) :
    (classed "span" classes (shownName name)).Shows nameOutline :=
  (Html.shows_plainText _).classed (by decide) clean

theorem shows_rollOf {node : Node} {roll : Roll} {html : Html}
    (shown : rollOf node = .ok (roll, html)) : html.Shows (diceOf node).outline := by
  rw [rollOf] at shown
  rw [diceOf]
  split at shown
  · rename_i action
    rw [if_pos action]
    obtain ⟨action, -, shown⟩ := bind_eq_ok.1 shown
    obtain ⟨adds, -, shown⟩ := bind_eq_ok.1 shown
    obtain ⟨stat, -, shown⟩ := bind_eq_ok.1 shown
    obtain ⟨first, -, shown⟩ := bind_eq_ok.1 shown
    obtain ⟨second, -, shown⟩ := bind_eq_ok.1 shown
    obtain ⟨actionHtml, actionShown, shown⟩ := bind_eq_ok.1 shown
    obtain ⟨statHtml, statShown, shown⟩ := bind_eq_ok.1 shown
    obtain ⟨addsHtml, addsShown, shown⟩ := bind_eq_ok.1 shown
    obtain ⟨-, rfl⟩ := Prod.mk.inj (Except.ok.inj shown)
    rw [Shape.Dice.outline]
    refine .append_nil ?_ (shows_gap 0)
    refine shows_nextEntry ?_ (shows_lifted addsShown) (by decide)
    refine shows_nextEntry ?_ (Html.shows_plainText _) (by decide)
    refine shows_nextEntry ?_ (shows_lifted statShown) (by decide)
    exact shows_entry (shows_lifted actionShown) (by decide)
  · rename_i progress
    rw [if_neg progress]
    obtain ⟨score, -, shown⟩ := bind_eq_ok.1 shown
    obtain ⟨first, -, shown⟩ := bind_eq_ok.1 shown
    obtain ⟨second, -, shown⟩ := bind_eq_ok.1 shown
    obtain ⟨-, rfl⟩ := Prod.mk.inj (Except.ok.inj shown)
    cases (node.propertyText "name").isEmpty with
    | true => exact Html.shows_nil
    | false => exact (shows_entry (Html.shows_plainText _) (by decide)).append_nil (shows_gap 0)

theorem shows_moveFrame {name : Text} {roll : Roll} {dice extras html : Html}
    {diceOutline extrasOutline : List Text} (diceShows : dice.Shows diceOutline)
    (extrasShow : extras.Shows extrasOutline) (shown : moveFrame name roll dice extras = .ok html) :
    html.Shows (around "details" " class= open" (around "summary" [] nameOutline ++
      around "dl" " class=" (labelOutline ++ diceOutline ++ entryOutline ++ entryOutline ++
        entryOutline) ++ extrasOutline)) := by
  obtain ⟨score, scoreShown, shown⟩ := bind_eq_ok.1 shown
  obtain ⟨first, firstShown, shown⟩ := bind_eq_ok.1 shown
  obtain ⟨second, secondShown, shown⟩ := bind_eq_ok.1 shown
  obtain rfl := Except.ok.inj shown
  have classes : isClean ("move ".toList ++ Text.join " " roll.classes) ∧
      isClean ("roll ".toList ++ Text.join " " roll.classes) := by
    rw [Roll.classes]
    cases roll.outcome <;> cases roll.isMatch <;> decide
  refine Html.Shows.element (by decide) ?_ ?_
  · refine .append_nil ?_ (shows_gap 2)
    refine .append ?_ extrasShow
    refine .append ?_ (Html.Shows.classed (by decide) ?_ classes.2)
    · refine .append_nil ?_ (shows_gap 4)
      exact (shows_gap 4).append ((shows_name name (by decide)).element (by decide) rfl)
    · refine .append_nil ?_ (shows_gap 4)
      refine shows_nextEntry ?_ (Html.shows_number secondShown) (by decide)
      refine shows_nextEntry ?_ (Html.shows_number firstShown) (by decide)
      refine .append ?_ (shows_entry (Html.shows_number scoreShown) (by decide))
      refine .append_nil ?_ (Html.shows_verbatim (by decide))
      refine .append ?_ diceShows
      refine .append_nil ?_ (shows_gap 6)
      exact (shows_gap 6).append (shows_label _)
  · rw [List.all_cons, Html.Attribute.isClean, classes.1]
    decide

theorem shows_trackHtml (base : Text) (index : Index) (node : Node) :
    (trackHtml base index node).Shows Shape.track.outline := by
  rw [Shape.outline, trackHtml]
  refine Html.Shows.classed (by decide) ?_ (by decide)
  refine .append_nil ?_ (shows_gap 2)
  refine .append ?_ ((Html.shows_plainText _).element (by decide) rfl)
  refine .append_nil ?_ (shows_gap 4)
  refine shows_nextEntry ?_ (Link.shows_anchor (by decide) _ _ _) (by decide)
  exact (shows_gap 4).append (shows_label _)

theorem shows_groupFrame {name : Text} {oracles : Html} {oraclesOutline : List Text}
    (shows : oracles.Shows oraclesOutline) : (groupFrame name oracles).Shows
      (around "div" " class=" (nameOutline ++ around "blockquote" [] oraclesOutline)) := by
  rw [groupFrame]
  refine Html.Shows.classed (by decide) ?_ (by decide)
  refine .append_nil ?_ (shows_gap 2)
  refine .append ?_ (shows.element (by decide) rfl)
  refine .append_nil ?_ (shows_gap 4)
  exact (shows_gap 4).append (shows_name name (by decide))

theorem shows_malformedHtml (node : Node) : (malformedHtml node).Shows Shape.malformed.outline := by
  rw [Shape.outline, malformedHtml]
  refine Html.Shows.classed (by decide) ?_ (by decide)
  have beginning := (Html.shows_plainText "Could not parse ").append_nil
    (Html.shows_plainText node.keyword)
  exact (beginning.append_nil (Html.shows_plainText ": ")).append_nil
    (Html.shows_plainText node.source)

theorem demandName_eq_ok {name name' : Text} (known : demandName name = .ok name') :
    name.isEmpty = false := by
  rw [demandName] at known
  split at known
  · exact nomatch known
  · rename_i nonempty
    exact Bool.eq_false_of_not_eq_true nonempty

/-- The three entries of oracles and meters. -/
theorem shows_entries {classes kind first second third : Text} {one two three : Html}
    (cleanClasses : isClean classes) (oneShows : one.Shows []) (cleanFirst : isClean first)
    (twoShows : two.Shows []) (cleanSecond : isClean second) (threeShows : three.Shows [])
    (cleanThird : isClean third) :
    (classed "dl" classes (gap 4 ++ label kind ++ gap 4 ++ entry first one ++ gap 4 ++
      entry second two ++ gap 4 ++ entry third three ++ gap 2)).Shows
      (around "dl" " class=" (labelOutline ++ entryOutline ++ entryOutline ++ entryOutline)) := by
  refine Html.Shows.classed (by decide) ?_ cleanClasses
  refine .append_nil ?_ (shows_gap 2)
  refine shows_nextEntry ?_ threeShows cleanThird
  refine shows_nextEntry ?_ twoShows cleanSecond
  refine shows_nextEntry ?_ oneShows cleanFirst
  exact (shows_gap 4).append (shows_label kind)

theorem shows_oracleHtml {node : Node} {html : Html} (shown : oracleHtml node = .ok html) :
    (propertyName node).isEmpty = false ∧ html.Shows Shape.oracle.outline := by
  obtain ⟨name, known, shown⟩ := bind_eq_ok.1 shown
  obtain rfl := Except.ok.inj shown
  rw [Shape.outline]
  exact ⟨demandName_eq_ok known, shows_entries (by decide) (Html.shows_plainText _) (by decide)
    (Html.shows_plainText _) (by decide) (Html.shows_plainText _) (by decide)⟩

theorem shows_meterHtml {node : Node} {html : Html} (shown : meterHtml node = .ok html) :
    html.Shows Shape.meter.outline := by
  obtain ⟨name, -, shown⟩ := bind_eq_ok.1 shown
  obtain ⟨start, -, shown⟩ := bind_eq_ok.1 shown
  obtain ⟨stop, -, shown⟩ := bind_eq_ok.1 shown
  obtain ⟨startHtml, startShown, shown⟩ := bind_eq_ok.1 shown
  obtain ⟨stopHtml, stopShown, shown⟩ := bind_eq_ok.1 shown
  obtain rfl := Except.ok.inj shown
  rw [Shape.outline]
  refine shows_entries ?_ (Html.shows_plainText _) (by decide) (shows_lifted startShown) (by decide)
    (shows_lifted stopShown) (by decide)
  split
  · decide
  · split <;> decide

/-- What is shown for a node is its own fragment, or the mark of a malformed one. -/
theorem eq_or_shows_malformed {node : Node} {result : Except Trouble Html} {html : Html}
    (shown : orMalformed node result = .ok html) :
    result = .ok html ∨ (∃ trouble, result = .error trouble) ∧ html.Shows Shape.malformed.outline := by
  cases result with
  | ok html' => exact .inl (congrArg Except.ok (Except.ok.inj shown))
  | error trouble =>
    cases trouble with
    | malformed =>
      obtain rfl := Except.ok.inj shown
      exact .inr ⟨⟨_, rfl⟩, shows_malformedHtml node⟩
    | fault cause => exact nomatch shown

theorem propertyName_isEmpty_of_oracleHtml {node : Node} {trouble : Trouble}
    (failed : oracleHtml node = .error trouble) : (propertyName node).isEmpty := by
  by_contra nonempty
  rw [oracleHtml, demandName, if_neg nonempty] at failed
  exact nomatch failed

/-! ### Trees -/

theorem exists_roll_of_moveHead {node : Node} {name : Text} {roll : Roll} {dice : Html}
    (known : moveHead node = .ok (name, roll, dice)) :
    ∃ child, node.children.find? isRoll = some child ∧ rollOf child = .ok (roll, dice) := by
  obtain ⟨_, -, known⟩ := bind_eq_ok.1 known
  obtain ⟨child, found, known⟩ := bind_eq_ok.1 known
  obtain ⟨⟨_, _⟩, rolled, same⟩ := bind_eq_ok.1 known
  obtain ⟨-, same⟩ := Prod.mk.inj (Except.ok.inj same)
  exact ⟨child, demand_eq_ok.1 found, same ▸ rolled⟩

variable (base : Text) (index : Index)

mutual

/-- A node is shown with the outline of its shape. -/
theorem shows_nodeHtml : ∀ (node : Node) {html : Html}, nodeHtml base index node = .ok html →
    html.Shows (outlines (shapeOf node))
  | ⟨keyword, args, properties, source, children⟩, html, shown => by
    rw [nodeHtml] at shown
    rw [shapeOf]
    cases kind : kindOf keyword with
    | move =>
      rw [kind] at shown
      dsimp only at shown ⊢
      cases head : moveHead ⟨keyword, args, properties, source, children⟩ with
      | error trouble =>
        rw [head] at shown
        rcases eq_or_shows_malformed shown with same | ⟨-, malformed⟩
        · exact nomatch same
        · dsimp only
          rwa [outlines_singleton]
      | ok parts =>
        obtain ⟨name, roll, dice⟩ := parts
        rw [head] at shown
        obtain ⟨child, found, rolled⟩ := exists_roll_of_moveHead head
        obtain ⟨extras, extrasShown, shown⟩ := bind_eq_ok.1 shown
        rw [show children.find? isRoll = some child from found]
        dsimp only
        rw [outlines_singleton, Shape.outline]
        exact shows_moveFrame (shows_rollOf rolled) (shows_extrasHtml children extrasShown) shown
    | oracle =>
      rw [kind] at shown
      dsimp only
      rcases eq_or_shows_malformed shown with same | ⟨⟨trouble, failed⟩, malformed⟩
      · obtain ⟨nonempty, shows⟩ := shows_oracleHtml same
        rwa [nonempty, if_neg Bool.false_ne_true, outlines_singleton]
      · rwa [if_pos (propertyName_isEmpty_of_oracleHtml failed), outlines_singleton]
    | oracleGroup =>
      rw [kind] at shown
      obtain ⟨oracles, oraclesShown, shown⟩ := bind_eq_ok.1 shown
      obtain rfl := Except.ok.inj shown
      dsimp only
      rw [outlines_singleton, Shape.outline]
      exact shows_groupFrame (shows_oraclesHtml children oraclesShown)
    | track =>
      rw [kind] at shown
      obtain rfl := Except.ok.inj shown
      dsimp only
      rw [outlines_singleton]
      exact shows_trackHtml base index _
    | meter =>
      rw [kind] at shown
      dsimp only
      rcases eq_or_shows_malformed shown with same | ⟨⟨trouble, failed⟩, malformed⟩
      · rw [same]
        dsimp only
        rw [outlines_singleton]
        exact shows_meterHtml same
      · rw [failed]
        dsimp only
        rwa [outlines_singleton]
    | unknown =>
      rw [kind] at shown
      obtain rfl := Except.ok.inj shown
      exact Html.shows_nil

theorem shows_nodesHtml : ∀ (nodes : List Node) {html : Html}, nodesHtml base index nodes = .ok html →
    html.Shows (outlines (shapesOf nodes))
  | [], html, shown => by
    rw [nodesHtml] at shown
    obtain rfl := Except.ok.inj shown
    exact Html.shows_nil
  | node :: nodes, html, shown => by
    rw [nodesHtml] at shown
    obtain ⟨first, firstShown, shown⟩ := bind_eq_ok.1 shown
    obtain ⟨others, othersShown, shown⟩ := bind_eq_ok.1 shown
    obtain rfl := Except.ok.inj shown
    rw [shapesOf, outlines_append]
    exact (shows_nodeHtml node firstShown).append (shows_nodesHtml nodes othersShown)

theorem shows_extrasHtml : ∀ (nodes : List Node) {html : Html},
    extrasHtml base index nodes = .ok html → html.Shows (outlines (extraShapes nodes))
  | [], html, shown => by
    rw [extrasHtml] at shown
    obtain rfl := Except.ok.inj shown
    exact Html.shows_nil
  | node :: nodes, html, shown => by
    rw [extrasHtml] at shown
    rw [extraShapes]
    split at shown
    · rename_i roll
      rw [if_pos roll]
      exact shows_nodesHtml nodes shown
    · rename_i other
      rw [if_neg other, outlines_append]
      obtain ⟨first, firstShown, shown⟩ := bind_eq_ok.1 shown
      obtain ⟨others, othersShown, shown⟩ := bind_eq_ok.1 shown
      obtain rfl := Except.ok.inj shown
      exact (shows_nodeHtml node firstShown).append (shows_extrasHtml nodes othersShown)

theorem shows_oraclesHtml : ∀ (nodes : List Node) {html : Html},
    oraclesHtml base index nodes = .ok html → html.Shows (outlines (oracleShapes nodes))
  | [], html, shown => by
    rw [oraclesHtml] at shown
    obtain rfl := Except.ok.inj shown
    exact Html.shows_nil
  | node :: nodes, html, shown => by
    rw [oraclesHtml] at shown
    rw [oracleShapes]
    split at shown
    · rename_i oracle
      rw [if_pos oracle, outlines_append]
      obtain ⟨first, firstShown, shown⟩ := bind_eq_ok.1 shown
      obtain ⟨others, othersShown, shown⟩ := bind_eq_ok.1 shown
      obtain rfl := Except.ok.inj shown
      exact (shows_nodeHtml node firstShown).append (shows_oraclesHtml nodes othersShown)
    · rename_i other
      rw [if_neg other]
      exact shows_oraclesHtml nodes shown

end

/-- A block is shown with the outlines of the shapes of its nodes. -/
theorem shows_blockHtml {source : Text} {html : Html} (shown : blockHtml base index source = .ok html) :
    html.Shows (around "div" " class=" (outlines (shapesOf (Node.ofBlock source)))) := by
  obtain ⟨inner, innerShown, shown⟩ := bind_eq_ok.1 shown
  obtain rfl := Except.ok.inj shown
  exact (shows_nodesHtml base index _ innerShown).classed (by decide) (by decide)

end Mechanics

end CampaignPress
