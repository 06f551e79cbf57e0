/-
This file reads settings out of values of any kind. A setting of the wrong kind
is refused with a word on what cannot be done with it.
-/
import CampaignPress.Path
import CampaignPress.Pattern.Parser
import CampaignPress.Value.Basic

namespace CampaignPress

namespace Setting

/-! ### Refusals -/

inductive Error where
  | malformedPattern
  | notIterable (kind : Text)
  /-- A value stands where the name of a folder should. -/
  | notJoinable (left right : Text)
  | notPattern
  | notHashable (kind : Text)
  | noMethod (kind method : Text)
  | notBytes
  | notComparable (kind : Text)
  /-- A value stands where a path should. -/
  | notPath (kind : Text)
  /-- Bytes stand where a path should. -/
  | bytesPath
  deriving DecidableEq, Repr

def quote (name : Text) : Text := "\x27" ++ name ++ "\x27"

def Error.message : Error → Text
  | .malformedPattern => []
  | .notIterable kind => quote kind ++ " object is not iterable"
  | .notJoinable left right =>
    "unsupported operand type(s) for /: " ++ quote left ++ " and " ++ quote right
  | .notPattern => "first argument must be string or compiled pattern"
  | .notHashable kind => "unhashable type: " ++ quote kind
  | .noMethod kind method => quote kind ++ " object has no attribute " ++ quote method
  | .notBytes => "a bytes-like object is required, not " ++ quote "str"
  | .notComparable kind =>
    quote ">" ++ " not supported between instances of " ++ quote kind ++ " and " ++ quote "int"
  | .notPath kind => "expected str, bytes or os.PathLike object, not " ++ kind
  | .bytesPath =>
    "argument should be a str object or an os.PathLike object returning str, not <class " ++
      quote "bytes" ++ ">"

/-! ### Paths -/

/-- The last part of a dotted name. -/
def lastPart (name : Text) : Text := ((Text.cutAtLast '.' name).map (·.2)).getD name

def path : Value → Except Error Path
  | .text content => .ok (Path.ofText content)
  | .bytes _ => .error .bytesPath
  | value => .error (.notPath (lastPart value.kindName))

/-- The path of what a value names in a folder. -/
def below (folder : Path) : Value → Except Error Path
  | .text content => .ok (folder.append (Path.ofText content))
  | value => .error (.notJoinable "PosixPath" value.kindName)

/-! ### Lists -/

/-- The parts that a value consists of; those of a text are its characters. -/
def items : Value → Except Error (List Value)
  | .text content => .ok (content.map fun c => .text [c])
  | .list items => .ok items
  | .tuple items => .ok items
  | .set items => .ok items
  | .bytes content => .ok (content.map fun byte => .int byte.toNat)
  | .mapping entries => .ok (entries.map (·.1))
  | value => .error (.notIterable value.kindName)

def pattern : Value → Except Error Pattern
  | .text content =>
    match Pattern.ofText? content with
    | some pattern => .ok pattern
    | none => .error .malformedPattern
  | value => .error (if value.isKey then .notPattern else .notHashable value.kindName)

/-! ### Texts and numbers -/

/-- A text of which a given method cuts off the ends. -/
def text (method : Text) : Value → Except Error Text
  | .text content => .ok content
  | .bytes _ => .error .notBytes
  | value => .error (.noMethod value.kindName method)

/-- A value that can be compared with numbers. -/
def quantity (value : Value) : Except Error Value.Quantity :=
  match value.quantity? with
  | some quantity => .ok quantity
  | none => .error (.notComparable value.kindName)

end Setting

end CampaignPress
