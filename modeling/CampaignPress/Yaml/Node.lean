/-
This file puts tokens together to nodes: scalars, sequences and mappings, each
with the kind that its tag or its looks give it.
-/
import CampaignPress.Yaml.Kind
import CampaignPress.Yaml.Lexer

namespace CampaignPress.Yaml

inductive Node where
  | scalar (kind : Kind) (content : Text)
  | sequence (kind : Kind) (items : List Node)
  | mapping (kind : Kind) (entries : List (Node × Node))

/-- The tokens that are left, the beginnings of tags by their handles, and the anchors so far;
an anchor without a node is one that is still open. -/
structure Reading where
  tokens : List Token
  handles : List (Text × Text) := []
  anchors : List (Text × Option Node) := []

/-- A reader of a part of the tokens. -/
abbrev Reader (α : Type) := StateT Reading (Except Error) α

namespace Reader

/-! ### Single tokens -/

def malformed {α : Type} : Reader α := throw .malformed

def next? : Reader (Option Token) := do return (← get).tokens.head?

def advance : Reader Unit := modify fun reading => { reading with tokens := reading.tokens.tail }

/-- Takes a token, or leaves everything as it is. -/
def accept (token : Token) : Reader Bool := do
  if (← next?) = some token then
    advance
    return true
  else return false

def expect (token : Token) : Reader Unit := do
  if !(← accept token) then malformed

/-- Whether one of some tokens is next. -/
def isNext (tokens : List Token) : Reader Bool := do
  return (← next?).any tokens.contains

/-- What stands where nothing is written. -/
def absent : Node := .scalar .null []

/-- A node, unless one of some tokens stands in its place. -/
def orAbsent (ends : List Token) (node : Reader Node) : Reader Node := do
  if ← isNext ends then return absent else node

/-! ### Properties -/

structure Properties where
  anchor : Option Text := none
  tag : Option TagName := none

/-- An anchor and a tag, in either order. -/
def properties : Reader Properties := do
  match ← next? with
  | some (.anchor name) =>
    advance
    match ← next? with
    | some (.tag tag) =>
      advance
      return { anchor := some name, tag := some tag }
    | _ => return { anchor := some name }
  | some (.tag tag) =>
    advance
    match ← next? with
    | some (.anchor name) =>
      advance
      return { anchor := some name, tag := some tag }
    | _ => return { tag := some tag }
  | _ => return {}

/-- The tag in full. -/
def fullTag (tag : TagName) : Reader Text := do
  match tag.handle with
  | none => return tag.suffix
  | some handle =>
    match (← get).handles.lookup handle with
    | some beginning => return beginning ++ tag.suffix
    | none => malformed

/-- The kind that a tag gives; the tag of one exclamation mark leaves it open. -/
def kindOf (tag : Option Text) (otherwise : Kind) : Kind :=
  match tag with
  | none => otherwise
  | some tag => if tag = ['!'] then otherwise else Kind.ofTag tag

def scalarOf (tag : Option Text) (plain : Bool) (content : Text) : Node :=
  let isOpen : Bool := tag = some ['!'] || (plain && tag.isNone)
  .scalar (kindOf tag (if isOpen then Kind.ofPlain content else .string)) content

/-- Opens the anchor of a node. No two nodes of a document have one anchor. -/
def openAnchor (anchor : Option Text) : Reader Unit := do
  match anchor with
  | none => return ()
  | some name =>
    if (← get).anchors.any (·.1 = name) then malformed
    else modify fun reading => { reading with anchors := (name, none) :: reading.anchors }

def closeAnchor (anchor : Option Text) (node : Node) : Reader Node := do
  match anchor with
  | none => return node
  | some name =>
    modify fun reading => { reading with anchors := (name, some node) :: reading.anchors }
    return node

/-- The node of an anchor that is closed. A value that holds itself is none that could be given. -/
def aliased (name : Text) : Reader Node := do
  match (← get).anchors.lookup name with
  | some (some node) => return node
  | _ => malformed

/-! ### Collections -/

/-- The items of a block, each after a dash; `room` bounds their count. -/
def blockItems (node : Reader Node) (ends : List Token) : (room : Nat) → Reader (List Node)
  | 0 => return []
  | room + 1 => do
    if ← accept .entry then
      let item ← orAbsent ends node
      return item :: (← blockItems node ends room)
    else return []

/-- The entries of a block; a key or a value may be left out. -/
def blockEntries (node : Reader Node) : (room : Nat) → Reader (List (Node × Node))
  | 0 => return []
  | room + 1 => do
    let ends := [.key, .value, .blockEnd]
    if ← accept .key then
      let key ← orAbsent ends node
      let value ← if ← accept .value then orAbsent ends node else pure absent
      return (key, value) :: (← blockEntries node room)
    else return []

/-- A mapping with one entry that stands in brackets as an item, behind its mark. -/
def pairItem (node : Reader Node) : Reader Node := do
  let ends := [.flowEntry, .flowSequenceEnd]
  let key ← orAbsent (.value :: ends) node
  let value ← if ← accept .value then orAbsent ends node else pure absent
  return .mapping .mapping [(key, value)]

/-- The items in brackets, between commas. -/
def flowItems (node : Reader Node) : (room : Nat) → (first : Bool) → Reader (List Node)
  | 0, _ => return []
  | room + 1, first => do
    if ← accept .flowSequenceEnd then return []
    else
      if !first then expect .flowEntry
      if ← accept .flowSequenceEnd then return []
      else
        let item ← if ← accept .key then pairItem node else node
        return item :: (← flowItems node room false)

/-- The entries in braces, between commas. -/
def flowEntries (node : Reader Node) : (room : Nat) → (first : Bool) → Reader (List (Node × Node))
  | 0, _ => return []
  | room + 1, first => do
    if ← accept .flowMappingEnd then return []
    else
      if !first then expect .flowEntry
      if ← accept .flowMappingEnd then return []
      else
        let ends := [.flowEntry, .flowMappingEnd]
        let entry ←
          if ← accept .key then do
            let key ← orAbsent (.value :: ends) node
            let value ← if ← accept .value then orAbsent ends node else pure absent
            pure (key, value)
          else do pure (← node, absent)
        return entry :: (← flowEntries node room false)

/-! ### Nodes -/

/-- Where a node stands: between brackets, in a block, or as the value of a block's entry, where
the dashes of a sequence need no deeper indentation. -/
inductive Position where
  | flow
  | block
  | entry
  deriving DecidableEq

/-- What follows the properties of a node; `room` bounds the items and entries. -/
def body (node : Position → Reader Node) (position : Position) (properties : Properties)
    (tag : Option Text) (room : Nat) : Reader Node := do
  let inBlock : Bool := position ≠ .flow
  let bare : Bool := properties.anchor.isNone && tag.isNone
  match ← next? with
  | some (.scalar plain content) =>
    advance
    return scalarOf tag plain content
  | some .flowSequence =>
    advance
    return .sequence (kindOf tag .sequence) (← flowItems (node .flow) room true)
  | some .flowMapping =>
    advance
    return .mapping (kindOf tag .mapping) (← flowEntries (node .flow) room true)
  | some .entry =>
    if position = .entry then
      let ends := [.entry, .key, .value, .blockEnd]
      return .sequence (kindOf tag .sequence) (← blockItems (node .block) ends room)
    else if bare then malformed
    else return scalarOf tag true []
  | some .blockSequence =>
    if inBlock then
      advance
      let items ← blockItems (node .block) [.entry, .blockEnd] room
      expect .blockEnd
      return .sequence (kindOf tag .sequence) items
    else if bare then malformed
    else return scalarOf tag true []
  | some .blockMapping =>
    if inBlock then
      advance
      let entries ← blockEntries (node .entry) room
      expect .blockEnd
      return .mapping (kindOf tag .mapping) entries
    else if bare then malformed
    else return scalarOf tag true []
  | _ => if bare then malformed else return scalarOf tag true []

/-- A node, with nodes in nodes to a depth. -/
def node : (depth : Nat) → Position → Reader Node
  | 0, _ => malformed
  | depth + 1, position => do
    match ← next? with
    | some (.alias name) =>
      advance
      aliased name
    | _ =>
      let given ← properties
      let tag ← given.tag.mapM fullTag
      openAnchor given.anchor
      let content ← body (node depth) position given tag ((← get).tokens.length + 1)
      closeAnchor given.anchor content

/-! ### Documents -/

/-- The handles that every document has. -/
def standardHandles : List (Text × Text) := [(['!'], ['!']), ("!!", Kind.standardTags)]

/-- The handles that the directives of a document define; `versioned` says that its version
has been told. -/
def handles : (room : Nat) → (versioned : Bool) → List (Text × Text) → Reader (List (Text × Text))
  | 0, _, known => return known
  | room + 1, versioned, known => do
    match ← next? with
    | some (.directive (.version major)) =>
      if versioned || major ≠ 1 then malformed
      else
        advance
        handles room true known
    | some (.directive (.tag handle beginning)) =>
      if known.any (·.1 = handle) then malformed
      else
        advance
        handles room versioned ((handle, beginning) :: known)
    | some (.directive .other) =>
      advance
      handles room versioned known
    | _ => return known ++ standardHandles

/-- Passes over marks that end a document. -/
def skipEnds : (room : Nat) → Reader Unit
  | 0 => return ()
  | room + 1 => do if ← accept .documentEnd then skipEnds room

/-- The node of the single document in a text, if there is one. -/
def document : Reader (Option Node) := do
  let room := (← get).tokens.length + 1
  let isMarked ← do
    match ← next? with
    | some (.directive _) => pure true
    | some token => pure (token = .documentStart)
    | none => return none
  if isMarked then
    let known ← handles room false []
    modify fun reading => { reading with handles := known }
    expect .documentStart
  else modify fun reading => { reading with handles := standardHandles }
  let isEmpty ← do
    match ← next? with
    | some (.directive _) => pure isMarked
    | some token => pure (isMarked && (token = .documentStart || token = .documentEnd))
    | none => pure isMarked
  let content ← if isEmpty then pure absent else node room .block
  skipEnds room
  if (← next?).isSome then malformed
  return some content

end Reader

/-- The node of a text; a text without content has none. -/
def nodeOf (text : Text) : Except Error (Option Node) := do
  return (← Reader.document.run { tokens := ← tokensOf text }).1

end CampaignPress.Yaml
