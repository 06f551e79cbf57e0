/-
This file holds the rules of running text that look at no more than a stretch of
it: plain text, line breaks, escapes, code, addresses in brackets, raw HTML and
entities.
-/
import CampaignPress.Markdown.Inline.State
import CampaignPress.Markdown.Tag

namespace CampaignPress.Markdown.Inline

open InlineState (attempt)

/-! ### Text and breaks -/

/-- The characters that may begin something other than plain text. -/
def isSignal (c : Char) : Bool :=
  "\n!#$%&*+-:<=>@[\\]^_\x60\x7b\x7d~".toList.elem c

def text : InlineRule := fun silent state =>
  let plain := (state.rest state.place).takeWhile (!isSignal ·)
  attempt state <|
    if plain.isEmpty then none
    else
      let state := if silent then state else state.addPending plain
      some (state.moveTo (state.place + plain.length))

def softBreak : Token := { kind := .softBreak, tag := "br" }

def hardBreak : Token := { kind := .hardBreak, tag := "br" }

/-- Two spaces before a line break make it a hard one; one is dropped. -/
def breakLine (state : InlineState) : InlineState :=
  match state.pending with
  | ' ' :: ' ' :: rest =>
    ({ state with pending := rest.dropWhile (· = ' ') } : InlineState).push hardBreak
  | ' ' :: rest => ({ state with pending := rest } : InlineState).push softBreak
  | _ => state.push softBreak

def newline : InlineRule := fun silent state =>
  attempt state <|
    if state.here? = some '\n' then
      let state := if silent then state else breakLine state
      some (state.moveTo (state.skipWhile isGap (state.place + 1)))
    else none

/-! ### Escapes and entities -/

def special (content : Text) : Token := { kind := .special, content }

def escape : InlineRule := fun silent state =>
  attempt state <|
    if state.here? = some '\\' && state.place + 1 < state.limit then
      match state.charAt? (state.place + 1) with
      | none => none
      | some c =>
        if c = '\n' then
          let state := if silent then state else state.push hardBreak
          some (state.moveTo (state.skipWhile isGap (state.place + 2)))
        else
          let content := if isAsciiPunctuation c then [c] else ['\\', c]
          let state := if silent then state else state.push (special content)
          some (state.moveTo (state.place + 2))
    else none

def entity : InlineRule := fun silent state =>
  attempt state <|
    if state.here? = some '&' && state.place + 1 < state.limit then
      (Entity.cut? (state.rest state.place)).map fun (content, length) =>
        let state := if silent then state else state.push (special content)
        state.moveTo (state.place + length)
    else none

/-! ### Code -/

/-- Code loses one space at each end, unless it is made of blanks. -/
def codeContent (raw : Text) : Text :=
  let content := Text.replaceChar '\n' ' ' raw
  if Text.startsWith content " " && Text.endsWith content " " && !isBlankText content then
    (content.drop 1).dropLast
  else content

def setBackticks (length place : Nat) (known : List (Nat × Nat)) : List (Nat × Nat) :=
  (length, place) :: known.filter (·.1 ≠ length)

/-- Searches from a place on for a run of exactly `length` backticks, and notes the other runs;
`room` bounds their count. -/
def findCloser (length : Nat) : (room : Nat) → (place : Nat) → InlineState →
    Option (Nat × Nat) × InlineState
  | 0, _, state => (none, state)
  | room + 1, place, state =>
    let before := (state.rest place).takeWhile (· ≠ '`')
    let start := place + before.length
    if state.source.size ≤ start then (none, { state with backticksKnown := true })
    else
      let stop := start + 1 + ((state.within (start + 1)).takeWhile (· = '`')).length
      if stop - start = length then (some (start, stop), state)
      else
        findCloser length room stop
          { state with backticks := setBackticks (stop - start) start state.backticks }

def code : InlineRule := fun silent state =>
  if state.here? = some '`' then
    let start := state.place
    let stop := state.skipWhile (· = '`') (start + 1)
    let length := stop - start
    let asText (state : InlineState) : Bool × InlineState :=
      let state := if silent then state else state.addPending (List.replicate length '`')
      (true, state.moveTo stop)
    if state.backticksKnown && (state.backticks.lookup length).getD 0 ≤ start then asText state
    else
      match findCloser length (state.source.size + 1) stop state with
      | (some (close, after), state) =>
        let token : Token :=
          { kind := .code, tag := "code", content := codeContent (state.slice stop close) }
        let state := if silent then state else state.push token
        (true, state.moveTo after)
      | (none, state) => asText state
  else (false, state)

/-! ### Addresses in brackets -/

def openLink (address title : Text) : Token :=
  let titled := if title.isEmpty then [] else [("title".toList, title)]
  { kind := .tag, tag := "a", nesting := .opens, attributes := ("href".toList, address) :: titled }

def closeLink : Token := { kind := .tag, tag := "a", nesting := .closes }

def isSchemeChar (c : Char) : Bool :=
  Text.isAsciiAlphanumeric c || c = '+' || c = '.' || c = '-'

/-- A text without a line break at its very end, which is passed over. -/
def dropLastBreak (text : Text) : Text :=
  if Text.endsWith text "\n" then text.dropLast else text

/-- A scheme of 2 to 32 characters, a colon, and no blanks or controls. -/
def isAddress (text : Text) : Bool :=
  match Text.cutAt ':' text with
  | some (scheme, rest) =>
    scheme.head?.any Text.isAsciiLetter && scheme.all isSchemeChar && 2 ≤ scheme.length &&
      scheme.length ≤ 32 && (dropLastBreak rest).all fun c => 32 < c.toNat
  | none => false

def isMailChar (c : Char) : Bool :=
  Text.isAsciiAlphanumeric c || ".!#$%&'*+/=?^_\x60\x7b|\x7d~-".toList.elem c

/-- A label of at most 63 letters, digits and hyphens, with no hyphen at either end. -/
def isMailLabel (label : Text) : Bool :=
  1 ≤ label.length && label.length ≤ 63 &&
    label.all (fun c => Text.isAsciiAlphanumeric c || c = '-') &&
    label.head?.any Text.isAsciiAlphanumeric && label.getLast?.any Text.isAsciiAlphanumeric

def isMail (text : Text) : Bool :=
  match Text.cutAt '@' text with
  | some (user, host) =>
    !user.isEmpty && user.all isMailChar &&
      (Text.splitOn '.' (dropLastBreak host)).all isMailLabel
  | none => false

/-- The address that stands in brackets for a text, if it may be linked to. -/
def bracketed? (text : Text) : Option Text := do
  let address ←
    if isAddress text then some (Address.normalize text)
    else if isMail text then some (Address.normalize ("mailto:" ++ text))
    else none
  guard (Address.isAllowed address)
  return address

def autolink : InlineRule := fun silent state =>
  attempt state <|
    if state.here? = some '<' then
      let inside := (state.within (state.place + 1)).takeWhile fun c => c ≠ '<' && c ≠ '>'
      let stop := state.place + 1 + inside.length
      if state.has stop '>' then
        (bracketed? inside).map fun address =>
          let shown : Token := { kind := .text, content := Address.readable inside }
          let linked :=
            if silent then state
            else ((state.push (openLink address [])).push shown).push closeLink
          linked.moveTo (stop + 1)
      else none
    else none

/-! ### Raw HTML -/

def html : InlineRule := fun silent state =>
  attempt state <|
    if state.here? = some '<' && state.place + 2 < state.limit then
      let text := state.rest state.place
      (Tag.afterAny? text).map fun rest =>
        let length := text.length - rest.length
        let token : Token := { kind := .htmlInline, content := text.take length }
        let state := if silent then state else state.push token
        state.moveTo (state.place + length)
    else none

end CampaignPress.Markdown.Inline
