/-
This file holds the rules of blocks that hold no other blocks: code, fences,
thematic breaks, HTML, headings and paragraphs.
-/
import CampaignPress.Markdown.Block.Start

namespace CampaignPress.Markdown.Block

/-! ### Code -/

/-- The line behind the last indented one; `number` lines have been looked at, and code
reaches to `last`. -/
def codeEnd (state : BlockState) (stop : Nat) : (room last number : Nat) → Nat
  | 0, last, _ => last
  | room + 1, last, number =>
    let line := state.lineAt number
    if stop ≤ number then last
    else if line.isEmpty then codeEnd state stop room last (number + 1)
    else if state.isCode line then codeEnd state stop room (number + 1) (number + 1)
    else last

def code : BlockRule := fun stop state =>
  if state.isCode state.here then
    let after := codeEnd state stop (stop - state.line) (state.line + 1) (state.line + 1)
    let content := Text.unlines (state.outdented state.line after (4 + state.indent)) ++ "\n"
    some ((state.push { kind := .codeBlock, tag := "code", content }).moveTo after)
  else none

/-! ### Fences -/

/-- The line where a fence ends, and whether it is closed there. -/
def fenceEnd (state : BlockState) (fence : FenceMark) (stop : Nat) :
    (room number : Nat) → Nat × Bool
  | 0, number => (number, false)
  | room + 1, number =>
    let line := state.lineAt number
    if stop ≤ number then (number, false)
    else if !line.isEmpty && line.indent < state.indent then (number, false)
    else if !state.isCode line && fence.isClosedBy line.content then (number, true)
    else fenceEnd state fence stop room (number + 1)

/-- The lines of a fence lose the indentation of its first line. -/
def fence : BlockRule := fun stop state => do
  let line := state.here
  guard (!state.isCode line)
  let opened ← openedFence? line.content
  let (after, closed) := fenceEnd state opened stop (stop - state.line) (state.line + 1)
  let content := state.textBetween (state.line + 1) after line.indent
  let token : Token := { kind := .fence, tag := "code", info := opened.info, content }
  return (state.push token).moveTo (if closed then after + 1 else after)

/-! ### Breaks and HTML -/

def thematicBreak : BlockRule := fun _ state =>
  if !state.isCode state.here && isBreak state.here.content then
    some ((state.push { kind := .tag, tag := "hr" }).moveTo (state.line + 1))
  else none

/-- The line behind an HTML block that is open before a line. -/
def htmlEnd (state : BlockState) (region : Tag.Region) (stop : Nat) : (room number : Nat) → Nat
  | 0, number => number
  | room + 1, number =>
    let line := state.lineAt number
    if stop ≤ number || (!line.isEmpty && line.indent < state.indent) then number
    else if region.endsAt line.content then
      if line.content.isEmpty then number else number + 1
    else htmlEnd state region stop room (number + 1)

def html : BlockRule := fun stop state => do
  let line := state.here
  guard (!state.isCode line && line.content.head? = some '<')
  let region ← Tag.regionOf? line.content
  let after :=
    if region.endsAt line.content then state.line + 1
    else htmlEnd state region stop (stop - state.line) (state.line + 1)
  let content := state.textBetween state.line after state.indent
  return (state.push { kind := .htmlBlock, content }).moveTo after

/-! ### Headings and paragraphs -/

def headingTag (rank : Nat) : Text := 'h' :: Nat.toDigits 10 rank

def heading : BlockRule := fun _ state => do
  guard (!state.isCode state.here)
  let (rank, content) ← heading? state.here.content
  return (state.pushElement (headingTag rank) content).moveTo (state.line + 1)

/-- The line that underlines the paragraph before it, and the rank of the heading. -/
def underlineAt? (state : BlockState) (stop : Nat) : (room number : Nat) → Option (Nat × Nat)
  | 0, _ => none
  | room + 1, number =>
    let line := state.lineAt number
    if stop ≤ number || line.isEmpty then none
    else if state.isCode line then underlineAt? state stop room (number + 1)
    else
      match (underline? line.content).filter fun _ => state.indent ≤ line.indent with
      | some rank => some (number, rank)
      | none =>
        if line.indent < 0 || !endsParagraph state true stop number then
          underlineAt? state stop room (number + 1)
        else none

/-- The trimmed text of a paragraph between two lines. -/
def paragraphText (state : BlockState) (start stop : Nat) : Text :=
  trim (Text.unlines (state.outdented start stop state.indent))

def underlinedHeading : BlockRule := fun stop state => do
  guard (!state.isCode state.here)
  let (under, rank) ← underlineAt? state stop (stop - state.line) (state.line + 1)
  let content := paragraphText state state.line under
  return (state.pushElement (headingTag rank) content).moveTo (under + 1)

/-- Whatever is no other block is a paragraph. -/
def paragraph (state : BlockState) : BlockState :=
  let after := paragraphEnd state true (state.limit - state.line) (state.line + 1)
  (state.pushElement "p" (paragraphText state state.line after)).moveTo after

end CampaignPress.Markdown.Block
