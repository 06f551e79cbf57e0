/-
This file holds the rule of tables: a row of heads, a line of rulings, and rows
of cells.
-/
import CampaignPress.Markdown.Block.Start

namespace CampaignPress.Markdown.Block

/-- A table ends before the row with which it would lack more cells than this. -/
def mostMissingCells : Int := 65536

def Alignment.attributes : Alignment → List (Text × Text)
  | .none => []
  | .left => [("style", "text-align:left")]
  | .right => [("style", "text-align:right")]
  | .center => [("style", "text-align:center")]

def pushCell (tag : Text) (state : BlockState) (cell : Alignment × Text) : BlockState :=
  (((state.openTag tag cell.1.attributes).pushInline (trim cell.2)).closeTag tag)

/-- A row has as many cells as the table has columns. -/
def pushRow (tag : Text) (alignments : List Alignment) (cells : List Text) (state : BlockState) :
    BlockState :=
  let cells := alignments.zip (cells ++ List.replicate alignments.length [])
  (cells.foldl (pushCell tag) (state.openTag "tr" [])).closeTag "tr"

/-- The rows from a line on, where `missing` cells have been missing so far. -/
def rowsFrom (state : BlockState) (columns stop : Nat) : (room : Nat) → (missing : Int) →
    (number : Nat) → List (List Text)
  | 0, _, _ => []
  | room + 1, missing, number =>
    let line := state.lineAt number
    let content := trim line.content
    if stop ≤ number || line.indent < state.indent || endsQuote state false line ||
        content.isEmpty || state.isCode line then []
    else
      let cells := rowCells content
      let missing := missing + (columns : Int) - (cells.length : Int)
      if mostMissingCells < missing then []
      else cells :: rowsFrom state columns stop room missing (number + 1)

def table : BlockRule := fun stop state => do
  let (alignments, heads) ← tableAt? state state.line stop
  let rows := rowsFrom state alignments.length stop (stop - state.line) 0 (state.line + 2)
  let headed := (pushRow "th" alignments heads
    ((state.openTag "table" []).openTag "thead" [])).closeTag "thead"
  let filled :=
    if rows.isEmpty then headed
    else
      (rows.foldl (fun state cells => pushRow "td" alignments cells state)
        (headed.openTag "tbody" [])).closeTag "tbody"
  return (filled.closeTag "table").moveTo (state.line + 2 + rows.length)

end CampaignPress.Markdown.Block
