/-
This file holds the rule of references: a label in brackets, a colon, an address
and perhaps a title, over several lines if need be.
-/
import CampaignPress.Markdown.Block.Start

namespace CampaignPress.Markdown.Block

/-- The label whose opening bracket stands just before a text, as it is written, and what
follows the closing one. -/
def cutLabel? : Text → Option (Text × Text)
  | [] => none
  | ']' :: rest => some ([], rest)
  | '[' :: _ => none
  | '\\' :: c :: rest => (cutLabel? rest).map fun (label, after) => ('\\' :: c :: label, after)
  | c :: rest => (cutLabel? rest).map fun (label, after) => (c :: label, after)

/-- What follows the end of a line on which only gaps are left. -/
def lineEnd? (text : Text) : Option Text :=
  match text.dropWhile isGap with
  | [] => some []
  | '\n' :: rest => some ('\n' :: rest)
  | _ => none

/-- The title after an address, and what follows it. Gaps must stand before a title that ends
on the line on which it begins. -/
def titleAfter? (text : Text) : Option (Text × Text) :=
  let gap := text.takeWhile isGapOrBreak
  let text := text.drop gap.length
  match Target.readTitle? text with
  | some (title, rest) =>
    let broken := (text.take (text.length - rest.length)).elem '\n'
    if gap.isEmpty && !broken then none
    else (lineEnd? rest).map fun rest => (title, rest)
  | none => none

/-- Whether a title stands after an address although something follows it; one that is empty
spoils the reference. -/
def isSpoiled (text : Text) : Bool :=
  let gap := text.takeWhile isGapOrBreak
  match Target.readTitle? (text.drop gap.length) with
  | some ([], rest) => !gap.isEmpty && (lineEnd? rest).isNone
  | _ => false

/-- The reference at the beginning of a text, and what follows it. -/
def cutReference? (text : Text) : Option (Reference × Text) := do
  let rest ← Text.after? "[" text
  let (label, rest) ← cutLabel? rest
  let rest ← Text.after? ":" rest
  let (raw, rest) ← Target.cutAddress? (rest.dropWhile isGapOrBreak)
  let address := Address.normalize raw
  guard (Address.isAllowed address)
  let label := referenceLabel label
  guard (!label.isEmpty)
  match titleAfter? rest with
  | some (title, after) => return (⟨label, address, title⟩, after)
  | none =>
    guard (!isSpoiled rest)
    let after ← lineEnd? rest
    return (⟨label, address, []⟩, after)

/-- The lines that a reference at the present line may take. -/
def referenceText (state : BlockState) : Text :=
  let after := paragraphEnd state false (state.limit - state.line) (state.line + 1)
  (List.range' state.line (after - state.line)).flatMap fun number =>
    let line := state.lineAt number
    line.content ++ line.lineBreak

/-- A reference leaves no token. Of two with one label the first counts. -/
def reference : BlockRule := fun _ state => do
  guard (!state.isCode state.here && state.here.content.head? = some '[')
  let text := referenceText state
  let (found, after) ← cutReference? text
  let taken := (text.take (text.length - after.length)).count '\n'
  return { state with
    line := state.line + 1 + taken
    references :=
      if state.references.any (·.label = found.label) then state.references
      else state.references ++ [found] }

end CampaignPress.Markdown.Block
