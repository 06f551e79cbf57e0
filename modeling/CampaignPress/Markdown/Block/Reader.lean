/-
This file reads a text into blocks: at every line that is not empty the first
rule that applies reads its block, and what no rule takes is a paragraph.
-/
import CampaignPress.Markdown.Block.Container
import CampaignPress.Markdown.Block.Leaf
import CampaignPress.Markdown.Block.Reference
import CampaignPress.Markdown.Block.Table

namespace CampaignPress.Markdown

/-- A block at this level or deeper is dropped with all that follows it in the block around. -/
def deepestBlock : Int := 20

namespace Block

/-- The rules in the order in which they are tried; `inner` reads the blocks inside a block. -/
def rules (inner : BlockReader) : List BlockRule :=
  [table, code, fence, quote inner, thematicBreak, list inner, definition inner, reference, html,
    heading, underlinedHeading]

/-- The block at the present line. -/
def readBlock (rules : List BlockRule) (stop : Nat) (state : BlockState) : BlockState :=
  (rules.findSome? fun rule => rule stop state).getD (paragraph state)

/-- Reads the blocks up to a line, or up to one that the block around does not reach. Blocks
are loose once an empty line has stood between them; `room` bounds the blocks left. -/
def readFrom (rules : List BlockRule) (stop : Nat) : (room : Nat) → (loose : Bool) →
    BlockState → BlockState
  | 0, _, state => state
  | room + 1, loose, state =>
    if stop ≤ state.line then state
    else
      let state := state.moveTo (state.skipEmpty (state.limit - state.line) state.line)
      if stop ≤ state.line || state.here.indent < state.indent then state
      else if deepestBlock ≤ state.level then state.moveTo stop
      else
        let read := { readBlock rules stop state with tight := !loose }
        let loose := loose || (read.line ≤ stop && (read.lineAt (read.line - 1)).isEmpty)
        if read.line < stop && read.here.isEmpty then
          readFrom rules stop room true (read.moveTo (read.line + 1))
        else readFrom rules stop room loose read

/-- Reads the blocks up to a line, with blocks in blocks to a depth. -/
def read : (depth : Nat) → BlockReader
  | 0 => fun stop state => state.moveTo stop
  | depth + 1 => fun stop state => readFrom (rules (read depth)) stop (stop + 1) false state

/-- The tokens of a text, with the references and the footnotes that it defines. -/
def stateOf (text : Text) : BlockState :=
  let state := BlockState.ofText text
  read (deepestBlock.toNat + 1) state.limit state

end Block

end CampaignPress.Markdown
