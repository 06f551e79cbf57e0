/-
This file reads what stands before a value, its anchor and its tag, and the
directives at the head of a document.
-/
import CampaignPress.Yaml.Scalar
import CampaignPress.Yaml.Token

namespace CampaignPress.Yaml

/-! ### Anchors -/

def endsAnchor (c : Char) : Bool := isGapOrBreak c || "?:,]\x7d%@\x60".toList.elem c

/-- The name of an anchor behind its sign. -/
def anchorName (cursor : Cursor) : Except Error (Text × Cursor) :=
  let (name, after) := cursor.take isNameChar
  if name.isEmpty || !after.endsAt endsAnchor 0 then .error .malformed else .ok (name, after)

/-! ### Tags -/

/-- The handle of a tag: a name between exclamation marks, or one such mark before a space. -/
def tagHandle (cursor : Cursor) : Except Error (Text × Cursor) :=
  if cursor.here? ≠ some '!' then .error .malformed
  else if cursor.at? 1 = some ' ' then .ok (['!'], cursor.step)
  else
    let (name, after) := cursor.step.take isNameChar
    if after.here? = some '!' then .ok ('!' :: name ++ ['!'], after.step) else .error .malformed

def isUriChar (c : Char) : Bool :=
  Text.isAsciiAlphanumeric c || "-;/?:@&=+$,_.!~*'()[]".toList.elem c

/-- The bytes that percent signs and two digits each write. -/
def percentBytes : (room : Nat) → Cursor → Except Error (List UInt8 × Cursor)
  | 0, cursor => .ok ([], cursor)
  | room + 1, cursor =>
    match cursor.rest with
    | '%' :: high :: low :: _ =>
      if Text.isHexDigit high && Text.isHexDigit low then do
        let (bytes, after) ← percentBytes room (cursor.skip 3)
        return ((16 * Text.hexValue high + Text.hexValue low).toUInt8 :: bytes, after)
      else .error .malformed
    | '%' :: _ => .error .malformed
    | _ => .ok ([], cursor)

/-- The rest of a tag. -/
def uriFrom : (room : Nat) → Cursor → Except Error (Text × Cursor)
  | 0, cursor => .ok ([], cursor)
  | room + 1, cursor =>
    match cursor.here? with
    | none => .ok ([], cursor)
    | some c =>
      if c = '%' then do
        let (bytes, after) ← percentBytes room cursor
        match String.fromUTF8? (ByteArray.mk bytes.toArray) with
        | none => throw .malformed
        | some part =>
          let (rest, after) ← uriFrom room after
          return (part.toList ++ rest, after)
      else if isUriChar c then do
        let (rest, after) ← uriFrom room cursor.step
        return (c :: rest, after)
      else .ok ([], cursor)

def uri (cursor : Cursor) : Except Error (Text × Cursor) := do
  let (text, after) ← uriFrom (cursor.rest.length + 1) cursor
  if text.isEmpty then throw .malformed
  return (text, after)

/-- Whether a second exclamation mark stands in a tag. -/
def hasHandle (cursor : Cursor) : Bool :=
  (cursor.step.rest.takeWhile (!isSpaceOrBreak ·)).elem '!'

/-- A tag, from its exclamation mark on. -/
def tagName (cursor : Cursor) : Except Error (TagName × Cursor) := do
  let (name, after) : TagName × Cursor ←
    if cursor.at? 1 = some '<' then do
      let (suffix, after) ← uri (cursor.skip 2)
      if after.here? ≠ some '>' then throw .malformed
      pure (⟨none, suffix⟩, after.step)
    else if cursor.endsAt isGapOrBreak 1 then pure (⟨none, ['!']⟩, cursor.step)
    else do
      let (handle, after) ←
        if hasHandle cursor then tagHandle cursor else pure (['!'], cursor.step)
      let (suffix, after) ← uri after
      pure (⟨some handle, suffix⟩, after)
  if !after.endsAt isSpaceOrBreak 0 then throw .malformed
  return (name, after)

/-! ### Directives -/

def skipSpaces (cursor : Cursor) : Cursor := cursor.skipWhile (· = ' ')

/-- A number of a version. -/
def versionNumber (cursor : Cursor) : Except Error (Nat × Cursor) :=
  let (digits, after) := cursor.take Text.isAsciiDigit
  if digits.isEmpty then .error .malformed
  else .ok (Numeral.ofDigits 10 (digits.map Text.hexValue), after)

def version (cursor : Cursor) : Except Error (Directive × Cursor) := do
  let (major, cursor) ← versionNumber (skipSpaces cursor)
  if cursor.here? ≠ some '.' then throw .malformed
  let (_, cursor) ← versionNumber cursor.step
  if !cursor.endsAt isSpaceOrBreak 0 then throw .malformed
  return (.version major, cursor)

def tagDirective (cursor : Cursor) : Except Error (Directive × Cursor) := do
  let (handle, cursor) ← tagHandle (skipSpaces cursor)
  if cursor.here? ≠ some ' ' then throw .malformed
  let (beginning, cursor) ← uri (skipSpaces cursor)
  if !cursor.endsAt isSpaceOrBreak 0 then throw .malformed
  return (.tag handle beginning, cursor)

/-- A directive behind its sign. -/
def directive (cursor : Cursor) : Except Error (Directive × Cursor) := do
  let (name, cursor) := cursor.take isNameChar
  if name.isEmpty || !cursor.endsAt isSpaceOrBreak 0 then throw .malformed
  let (directive, cursor) ←
    if name = "YAML".toList then version cursor
    else if name = "TAG".toList then tagDirective cursor
    else pure (.other, cursor.skipWhile (!isBreak ·))
  return (directive, ← skipLineEnd cursor)

end CampaignPress.Yaml
