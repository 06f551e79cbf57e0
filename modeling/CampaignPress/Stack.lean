/-
This file says what there is room for on the stack. Folders, values and the nodes
of a block are followed as deep as they nest, unless the stack is full before. When
that is depends on where the library is called from, so it is left open.
-/
import CampaignPress.Mechanics.Block

namespace CampaignPress

structure Stack where
  /-- Whether folders are searched that lie so many folders below the first one. -/
  reaches : (depth : Nat) → Bool
  /-- Whether the text of a value can be written. -/
  writes : (value : Value) → Bool
  /-- Whether a fence in a reserved language can be shown. -/
  shows : (language source : Text) → Bool

namespace Stack

/-- The calls that a stack has room for, but for those that are made already. -/
def calls : Nat := 960

/-- A stack with room for that many calls. A folder or a value takes one call a level, and a node
takes three. -/
def standard : Stack where
  reaches depth := depth < calls
  writes value := value.depth < calls
  shows language source :=
    language ≠ Mechanics.language || 3 * Mechanics.depthAll (Node.ofBlock source) < calls

end Stack

end CampaignPress
