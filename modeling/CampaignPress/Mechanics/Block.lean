/-
This file shows mechanics blocks as HTML. A node of an unknown kind is left out,
and one that lacks something leaves a mark with its source.
-/
import CampaignPress.Index
import CampaignPress.Link
import CampaignPress.Mechanics.Node
import CampaignPress.Mechanics.Roll
import CampaignPress.WikiLink

namespace CampaignPress

namespace Mechanics

open Html (classed plainText element)

/-- What keeps a node from being shown. -/
inductive Trouble where
  /-- Something that its kind needs is missing or no number. -/
  | malformed
  /-- A fault that ends the rendering of the whole note. -/
  | fault (cause : Fault)

/-- The name to show for a reference, which may be a markdown link. -/
def displayName (text : Text) : Text := Text.trim (Link.strip text)

/-! ### Numbers and names -/

def demand {α : Type} (value? : Option α) : Except Trouble α :=
  match value? with
  | some value => .ok value
  | none => .error .malformed

def lift {α : Type} : Except Fault α → Except Trouble α
  | .ok value => .ok value
  | .error cause => .error (.fault cause)

/-- The number of a property that has to be one. -/
def number (node : Node) (key : Text) : Except Trouble Int := do
  lift (← demand ((node.property? key).bind Numeral.read?))

/-- The number of a property, zero where it is missing or none. -/
def numberOrZero (node : Node) (key : Text) : Except Trouble Int :=
  match (node.property? key).bind Numeral.read? with
  | some number => lift number
  | none => .ok 0

/-- The name of moves and meters: the first argument before the property. -/
def argName (node : Node) : Text := node.firstArg?.getD (node.propertyText "name")

/-- The name of oracles and tracks: the property, unless it is empty, before the
first argument. -/
def propertyName (node : Node) : Text :=
  let name := node.propertyText "name"
  if name.isEmpty then node.firstArg?.getD [] else name

def demandName (name : Text) : Except Trouble Text :=
  if name.isEmpty then .error .malformed else .ok name

/-- A track's label: the text of a wiki link, or the name of its file. -/
def trackLabel (name : Text) : Text :=
  match WikiLink.ofWhole? (Text.trim name) with
  | some link => link.shown.getD (Slug.stem link.target)
  | none => displayName name

def trackPath (name : Text) : Text :=
  match WikiLink.ofWhole? (Text.trim name) with
  | some link => link.target
  | none => []

/-! ### Parts -/

def gap (spaces : Nat) : Html := [.verbatim ('\n' :: List.replicate spaces ' ')]

def entry (classes : Text) (content : Html) : Html := classed "dd" classes content

def label (name : Text) : Html := element "dt" [] (plainText name)

def shownName (name : Text) : Html := plainText (displayName name)

/-! ### Moves -/

def isRoll (node : Node) : Bool := node.keyword = "roll".toList || node.keyword = "progress-roll".toList

/-- The roll of a move, and the dice that it was made of. -/
def rollOf (node : Node) : Except Trouble (Roll × Html) := do
  if node.keyword = "roll".toList then
    let action ← number node "action"
    let adds ← numberOrZero node "adds"
    let stat ← number node "stat"
    let first ← number node "vs1"
    let second ← number node "vs2"
    let dice :=
      entry "action-die" (← lift (Html.number action)) ++ gap 6 ++
        entry "stat" (← lift (Html.number stat)) ++ gap 6 ++
        entry "stat-name" (plainText (node.firstArg?.getD [])) ++ gap 6 ++
        entry "adds" (← lift (Html.number adds)) ++ gap 0
    return (⟨action + stat + adds, first, second⟩, dice)
  else
    let score ← number node "score"
    let first ← number node "vs1"
    let second ← number node "vs2"
    let track := node.propertyText "name"
    let dice :=
      if track.isEmpty then []
      else entry "progress-track" (plainText (trackLabel track)) ++ gap 0
    return (⟨score, first, second⟩, dice)

def moveFrame (name : Text) (roll : Roll) (dice extras : Html) : Except Fault Html := do
  let classes := Text.join " " roll.classes
  let results :=
    gap 6 ++ label "Roll" ++ gap 6 ++ dice ++ [.verbatim "      "] ++
      entry "score" (← Html.number roll.score) ++ gap 6 ++
      entry "challenge-die vs1" (← Html.number roll.first) ++ gap 6 ++
      entry "challenge-die vs2" (← Html.number roll.second) ++ gap 4
  return element "details" [.verbatim "class" ("move " ++ classes), .flag "open"]
    (gap 4 ++ element "summary" [] (classed "span" "move-name" (shownName name)) ++
      gap 4 ++ classed "dl" ("roll " ++ classes) results ++ extras ++ gap 2)

/-! ### Other kinds -/

def oracleHtml (node : Node) : Except Trouble Html := do
  let name ← demandName (propertyName node)
  return classed "dl" "oracle"
    (gap 4 ++ label "Oracle" ++ gap 4 ++ entry "name" (shownName name) ++ gap 4 ++
      entry "roll" (plainText (node.propertyText "roll")) ++ gap 4 ++
      entry "result" (plainText (node.propertyText "result")) ++ gap 2)

def groupName (node : Node) : Text :=
  let name := node.propertyText "name"
  if name.isEmpty then node.firstArg?.getD "Oracle Group" else name

def groupFrame (name : Text) (oracles : Html) : Html :=
  classed "div" "oracle-group"
    (gap 4 ++ classed "span" "group-name" (shownName name) ++ gap 4 ++
      element "blockquote" [] oracles ++ gap 2)

def trackHtml (base : Text) (index : Index) (node : Node) : Html :=
  let name := propertyName node
  let status := (node.property? "status").getD "added"
  classed "dl" "track-status"
    (gap 4 ++ label "Track" ++ gap 4 ++
      entry "track-name"
        (Link.anchor base [] (trackLabel name) (index.slugOfPath (trackPath name))) ++
      gap 4 ++
      element "dd" [.verbatim "class" "track-status", .escaped "data-value" status]
        (plainText status) ++
      gap 2)

def meterHtml (node : Node) : Except Trouble Html := do
  let name ← demandName (argName node)
  let start ← number node "from"
  let stop ← number node "to"
  let direction : Text :=
    if start < stop then " meter-increase" else if stop < start then " meter-decrease" else []
  return classed "dl" ("meter" ++ direction)
    (gap 4 ++ label "Meter" ++ gap 4 ++ entry "meter-name" (shownName name) ++ gap 4 ++
      entry "from" (← lift (Html.number start)) ++ gap 4 ++
      entry "to" (← lift (Html.number stop)) ++ gap 2)

/-- What stands for a malformed node. -/
def malformedHtml (node : Node) : Html :=
  classed "div" "iv-parse-error"
    (plainText "Could not parse " ++ plainText node.keyword ++ plainText ": " ++
      plainText node.source)

def orMalformed (node : Node) : Except Trouble Html → Except Fault Html
  | .ok html => .ok html
  | .error .malformed => .ok (malformedHtml node)
  | .error (.fault cause) => .error cause

/-! ### Trees -/

inductive Kind where
  | move
  | oracle
  | oracleGroup
  | track
  | meter
  | unknown
  deriving DecidableEq, Repr

def kindOf (keyword : Text) : Kind :=
  if keyword = "move".toList then .move
  else if keyword = "oracle".toList then .oracle
  else if keyword = "oracle-group".toList then .oracleGroup
  else if keyword = "track".toList then .track
  else if keyword = "meter".toList then .meter
  else .unknown

/-- The name of a move and its first roll, both of which it needs. -/
def moveHead (node : Node) : Except Trouble (Text × Roll × Html) := do
  let name ← demandName (argName node)
  let roll ← demand (node.children.find? isRoll)
  return (name, ← rollOf roll)

mutual

def nodeHtml (base : Text) (index : Index) : Node → Except Fault Html
  | ⟨keyword, args, properties, source, children⟩ =>
    let node : Node := ⟨keyword, args, properties, source, children⟩
    match kindOf keyword with
    | .move =>
      match moveHead node with
      | .error trouble => orMalformed node (.error trouble)
      | .ok (name, roll, dice) => do
        let extras ← extrasHtml base index children
        moveFrame name roll dice extras
    | .oracle => orMalformed node (oracleHtml node)
    | .oracleGroup => do return groupFrame (groupName node) (← oraclesHtml base index children)
    | .track => .ok (trackHtml base index node)
    | .meter => orMalformed node (meterHtml node)
    | .unknown => .ok []

def nodesHtml (base : Text) (index : Index) : List Node → Except Fault Html
  | [] => .ok []
  | node :: nodes => do
    let first ← nodeHtml base index node
    return first ++ (← nodesHtml base index nodes)

/-- The children of a move but for its first roll. -/
def extrasHtml (base : Text) (index : Index) : List Node → Except Fault Html
  | [] => .ok []
  | node :: nodes =>
    if isRoll node then nodesHtml base index nodes
    else do
      let first ← nodeHtml base index node
      return first ++ (← extrasHtml base index nodes)

/-- The children of a group that are oracles. -/
def oraclesHtml (base : Text) (index : Index) : List Node → Except Fault Html
  | [] => .ok []
  | node :: nodes =>
    if kindOf node.keyword = .oracle then do
      let first ← nodeHtml base index node
      return first ++ (← oraclesHtml base index nodes)
    else oraclesHtml base index nodes

end

/-- The language of the fences that hold mechanics blocks. -/
def language : Text := "iron-vault-mechanics"

def blockHtml (base : Text) (index : Index) (source : Text) : Except Fault Html := do
  return classed "div" language (← nodesHtml base index (Node.ofBlock source))

end Mechanics

end CampaignPress
