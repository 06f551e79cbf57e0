/-
This file reads emphasis. Marks are written as plain text first and kept as
delimiters; when the text is read to its end, delimiters that belong together
are paired, and the marks of a pair become tags.
-/
import CampaignPress.Markdown.Inline.State

namespace CampaignPress.Markdown.Inline

open InlineState (Run)

/-! ### Marks -/

def plainToken (content : Text) : Token := { kind := .text, content }

/-- Writes a mark as text that may become a tag. -/
def pushMark (mark : Char) (content : Text) (length : Nat) (run : Run) (state : InlineState) :
    InlineState :=
  let state := state.push (plainToken content)
  state.addDelimiter
    { mark, length, token := state.tokens.size - 1, closer := none, opens := run.opens,
      closes := run.closes }

def repeated (count : Nat) (change : InlineState → InlineState) (state : InlineState) :
    InlineState :=
  count.repeat change state

/-- Marks of strong and weak emphasis stand one by one. -/
def emphasis : InlineRule := fun silent state =>
  match state.here? with
  | some mark =>
    if !silent && (mark = '*' || mark = '_') then
      let run := state.run mark (mark = '*')
      let state := repeated run.length (pushMark mark [mark] run.length run) state
      (true, state.moveTo (state.place + run.length))
    else (false, state)
  | none => (false, state)

/-- Marks of deletion stand in pairs, after an odd one. -/
def deletion : InlineRule := fun silent state =>
  if !silent && state.here? = some '~' then
    let run := state.run '~' true
    if run.length < 2 then (false, state)
    else
      let started := if run.length % 2 = 1 then state.push (plainToken "~") else state
      let marked := repeated (run.length / 2) (pushMark '~' "~~" 0 run) started
      (true, marked.moveTo (state.place + run.length))
  else (false, state)

/-! ### Pairs -/

structure Pairing where
  delimiters : Array Delimiter
  /-- How far to jump back from a delimiter in the search for an opener. -/
  jumps : Array Nat := #[]
  /-- Where the run of the present delimiter begins. -/
  start : Nat := 0
  /-- The token of the last delimiter, if the next one may continue its run. -/
  last : Option Nat := none
  /-- Below these places no opener is left, for a mark and a kind of closer. -/
  floors : List ((Char × Nat) × Int) := []

def delimiterAt (delimiters : Array Delimiter) (place : Nat) : Delimiter :=
  delimiters.getD place default

/-- Runs do not pair when one of them could do both, and the lengths add up to a multiple of
three without being multiples themselves. -/
def isOdd (opener closer : Delimiter) : Bool :=
  (opener.closes || closer.opens) && (opener.length + closer.length) % 3 = 0 &&
    (opener.length % 3 ≠ 0 || closer.length % 3 ≠ 0)

/-- The nearest opener above a floor; `room` bounds the jumps. -/
def findOpener (pairing : Pairing) (closer : Delimiter) (floor : Int) :
    (room : Nat) → (place : Int) → Option Nat
  | 0, _ => none
  | room + 1, place =>
    if place ≤ floor || place < 0 then none
    else
      let opener := delimiterAt pairing.delimiters place.toNat
      if opener.mark = closer.mark && opener.opens && opener.closer.isNone &&
          !isOdd opener closer then
        some place.toNat
      else
        findOpener pairing closer floor room (place - pairing.jumps.getD place.toNat 0 - 1)

/-- Tries to pair the delimiter at a place with an opener before it. -/
def Pairing.step (pairing : Pairing) (place : Nat) : Pairing :=
  let closer := delimiterAt pairing.delimiters place
  let first := delimiterAt pairing.delimiters pairing.start
  let continues := first.mark = closer.mark &&
    pairing.last.any fun last => last + 1 = closer.token
  let pairing := { pairing with
    jumps := pairing.jumps.push 0
    start := if continues then pairing.start else place
    last := some closer.token }
  if !closer.closes then pairing
  else
    let key := (closer.mark, (if closer.opens then 3 else 0) + closer.length % 3)
    let floor := (pairing.floors.lookup key).getD (-1)
    let above : Int := Int.ofNat pairing.start - pairing.jumps.getD pairing.start 0 - 1
    match findOpener pairing closer floor (place + 1) above with
    | some found =>
      let opener := delimiterAt pairing.delimiters found
      let back :=
        if 0 < found && !(delimiterAt pairing.delimiters (found - 1)).opens then
          pairing.jumps.getD (found - 1) 0 + 1
        else 0
      { pairing with
        jumps := (pairing.jumps.set! place (place - found + back)).set! found back
        delimiters := (pairing.delimiters.set! place { closer with opens := false }).set! found
          { opener with closer := some place, closes := false }
        last := none }
    | none =>
      if above = -1 then pairing
      else { pairing with floors := (key, above) :: pairing.floors }

/-- Pairs the delimiters of a group. -/
def pair (delimiters : Array Delimiter) : Array Delimiter :=
  ((List.range delimiters.size).foldl Pairing.step { delimiters }).delimiters

/-! ### Tags -/

def asTag (tag : Text) (nesting : Nesting) (token : Token) : Token :=
  { token with kind := .tag, tag, nesting, content := [] }

def tagAt (tag : Text) (opener closer : Nat) (tokens : Array Token) : Array Token :=
  (tokens.modify opener (asTag tag .opens)).modify closer (asTag tag .closes)

/-- The places before closing tags where an odd mark of deletion was left. -/
def deletionTags (delimiters : Array Delimiter) (tokens : Array Token) :
    Array Token × List Nat :=
  delimiters.toList.foldl (fun (tokens, odd) opener =>
    match opener.closer with
    | some closer =>
      if opener.mark = '~' then
        let stop := (delimiterAt delimiters closer).token
        let tokens := tagAt "s" opener.token stop tokens
        let before := tokens.getD (stop - 1) default
        if before.kind = .text && before.content = ['~'] then (tokens, (stop - 1) :: odd)
        else (tokens, odd)
      else (tokens, odd)
    | none => (tokens, odd)) (tokens, [])

/-- Moves an odd mark behind the closing tags that follow it. -/
def moveOdd (tokens : Array Token) (place : Nat) : Array Token :=
  let closes (token : Token) :=
    token.kind = .tag && token.tag = ['s'] && token.nesting = .closes
  let target := place + ((tokens.toList.drop (place + 1)).takeWhile closes).length
  let odd := tokens.getD place default
  let other := tokens.getD target default
  if place = target then tokens else (tokens.set! place other).set! target odd

def strikeOut (delimiters : Array Delimiter) (tokens : Array Token) : Array Token :=
  let (tokens, odd) := deletionTags delimiters tokens
  odd.foldl moveOdd tokens

/-- Whether a delimiter and the one before it are the marks of strong emphasis. -/
def isStrong (delimiters : Array Delimiter) (place closer : Nat) : Bool :=
  let opener := delimiterAt delimiters place
  let before := delimiterAt delimiters (place - 1)
  0 < place && before.closer = some (closer + 1) && before.mark = opener.mark &&
    before.token + 1 = opener.token &&
    (delimiterAt delimiters (closer + 1)).token =
      (delimiterAt delimiters closer).token + 1

/-- Turns marks of emphasis into tags, from the last on; `taken` says that the delimiter at hand
belongs to strong emphasis already. -/
def emphasize (delimiters : Array Delimiter) : (count : Nat) → (taken : Bool) → Array Token →
    Array Token
  | 0, _, tokens => tokens
  | count + 1, true, tokens => emphasize delimiters count false tokens
  | count + 1, false, tokens =>
    let opener := delimiterAt delimiters count
    match opener.closer with
    | some closer =>
      if opener.mark = '~' then emphasize delimiters count false tokens
      else
        let strong := isStrong delimiters count closer
        let tag : Text := if strong then "strong" else "em"
        let stop := (delimiterAt delimiters closer).token
        let tokens := tagAt tag opener.token stop tokens
        let blank (token : Token) : Token := { token with content := [] }
        let tokens :=
          if strong then
            (tokens.modify (opener.token - 1) blank).modify (stop + 1) blank
          else tokens
        emphasize delimiters count strong tokens
    | none => emphasize delimiters count false tokens

/-! ### Fragments -/

/-- Joins neighbouring texts, and counts the levels anew. -/
def joinFragments : (level : Int) → List Token → List Token
  | _, [] => []
  | level, token :: rest =>
    let level := if token.nesting = .closes then level - 1 else level
    let token := { token with level }
    let next := if token.nesting = .opens then level + 1 else level
    match joinFragments next rest with
    | [] => [token]
    | other :: others =>
      if token.kind = .text && other.kind = .text then
        { other with content := token.content ++ other.content } :: others
      else token :: other :: others

/-- The tokens of a text that has been read to its end. -/
def finish (state : InlineState) : List Token :=
  let groups := state.groups.map pair
  let struck := groups.foldl (fun tokens group => strikeOut group tokens) state.tokens
  let marked := groups.foldl (fun tokens group => emphasize group group.size false tokens) struck
  joinFragments 0 marked.toList

end CampaignPress.Markdown.Inline
