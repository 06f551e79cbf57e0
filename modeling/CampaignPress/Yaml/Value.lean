/-
This file gives nodes their values. Mappings take over the entries of others
first; of several faults the one nearest to the root counts.
-/
import CampaignPress.Yaml.Node
import CampaignPress.Yaml.Scalars

namespace CampaignPress.Yaml

namespace Node

/-! ### Taking over entries -/

/-- A node without a value, in place of entries that cannot be taken over. -/
def unusable : Node := .scalar .unknown []

def kind : Node → Kind
  | .scalar kind _ => kind
  | .sequence kind _ => kind
  | .mapping kind _ => kind

def entries? : Node → Option (List (Node × Node))
  | .mapping _ entries => some entries
  | _ => none

/-- The entries that a value offers: its own, or those of several mappings, of which the first
has the last word. -/
def offered? : Node → Option (List (Node × Node))
  | .mapping _ entries => some entries
  | .sequence _ items => (items.reverse.mapM entries?).map List.flatten
  | .scalar _ _ => none

/-- The key of a stand-in is plain text in a mapping. -/
def plainKey : Node → Node
  | .scalar .standIn content => .scalar .string content
  | node => node

/-- The entries of a mapping behind those that it takes over. -/
def takeOver (entries : List (Node × Node)) : List (Node × Node) :=
  let (taken, own) := entries.partition fun entry => entry.1.kind = .merge
  match taken.mapM fun entry => offered? entry.2 with
  | some offers => offers.flatten ++ own.map fun (key, value) => (plainKey key, value)
  | none => [(unusable, unusable)]

mutual

/-- The node in which all mappings have the entries that they take over. -/
def merged : Node → Node
  | .scalar kind content => .scalar kind content
  | .sequence kind items => .sequence kind (mergedItems items)
  | .mapping kind entries => .mapping kind (takeOver (mergedEntries entries))

def mergedItems : List Node → List Node
  | [] => []
  | item :: items => merged item :: mergedItems items

def mergedEntries : List (Node × Node) → List (Node × Node)
  | [] => []
  | (key, value) :: entries => (merged key, merged value) :: mergedEntries entries

end

/-! ### Values -/

/-- An error with its distance from the root. -/
abbrev Attempt (α : Type) := Except (Nat × Error) α

/-- Two results together. Of two errors the nearer counts, and the first if they are equally
near. -/
def both {α β : Type} (first : Attempt α) (second : Attempt β) : Attempt (α × β) :=
  match first, second with
  | .ok a, .ok b => .ok (a, b)
  | .error near, .ok _ => .error near
  | .ok _, .error far => .error far
  | .error near, .error far => .error (if far.1 < near.1 then far else near)

def malformedAt {α : Type} (depth : Nat) : Attempt α := .error (depth, .malformed)

/-- The key of an entry; what can change is none. -/
def keyOf (depth : Nat) (key : Attempt Value) : Attempt Value :=
  match key with
  | .ok value => if value.isKey then .ok value else malformedAt depth
  | .error (near, error) => if depth < near then malformedAt depth else .error (near, error)

def mappingOf (entries : List (Value × Value)) : List (Value × Value) :=
  entries.foldl (fun known (key, value) => Value.putEntry key value known) []

def setOf (entries : List (Value × Value)) : List Value :=
  entries.foldl (fun known (key, _) => Value.putItem key known) []

mutual

/-- The value of a node at a distance from the root. -/
def value (depth : Nat) : Node → Attempt Value
  | .scalar kind content =>
    match kind with
    | .sequence => malformedAt (depth + 1)
    | .mapping => malformedAt (depth + 1)
    | .set => malformedAt (depth + 1)
    | .pairs => malformedAt (depth + 1)
    | kind => (Scalar.value kind content).mapError (depth, ·)
  | .sequence kind items =>
    match kind with
    | .sequence => (values (depth + 1) items).map .list
    | .pairs => (pairs (depth + 1) items).map .list
    | .mapping => malformedAt (depth + 1)
    | .set => malformedAt (depth + 1)
    | _ => malformedAt depth
  | .mapping kind entries =>
    match kind with
    | .mapping => (entryValues (depth + 1) entries).map fun list => .mapping (mappingOf list)
    | .set => (entryValues (depth + 1) entries).map fun list => .set (setOf list)
    | .sequence => malformedAt (depth + 1)
    | .pairs => malformedAt (depth + 1)
    | _ => malformedAt depth

def values (depth : Nat) : List Node → Attempt (List Value)
  | [] => .ok []
  | item :: items => (both (value depth item) (values depth items)).map fun (v, vs) => v :: vs

/-- Items that are mappings of one entry each. -/
def pairs (depth : Nat) : List Node → Attempt (List Value)
  | [] => .ok []
  | .mapping _ [(key, content)] :: items =>
    (both (both (value depth key) (value depth content)) (pairs depth items)).map
      fun ((k, v), vs) => .tuple [k, v] :: vs
  | _ :: _ => malformedAt depth

def entryValues (depth : Nat) : List (Node × Node) → Attempt (List (Value × Value))
  | [] => .ok []
  | (key, content) :: entries =>
    (both (both (keyOf depth (value depth key)) (value depth content))
      (entryValues depth entries)).map fun (entry, others) => entry :: others

end

end Node

/-- What reads the value that a text writes. -/
abbrev Loader := Text → Except Error Value

/-- The value that a text writes; a text without content is worth nothing. -/
def read (text : Text) : Except Error Value := do
  match ← nodeOf text with
  | none => return .null
  | some node => (node.merged.value 0).mapError (·.2)

end CampaignPress.Yaml
