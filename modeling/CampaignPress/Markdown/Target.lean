/-
This file reads the two parts of a link's target, the address and the title.
Each reader takes its part off the beginning of a text.
-/
import CampaignPress.Markdown.Address
import CampaignPress.Markdown.Entity

namespace CampaignPress.Markdown

namespace Target

/-! ### Addresses -/

/-- An address whose opening bracket stands just before, and what follows it. -/
def cutBracketed? : Text → Option (Text × Text)
  | [] => none
  | '>' :: rest => some ([], rest)
  | '\\' :: c :: rest =>
    (cutBracketed? rest).map fun (address, after) => ('\\' :: c :: address, after)
  | c :: rest =>
    if c = '\n' || c = '<' then none
    else (cutBracketed? rest).map fun (address, after) => (c :: address, after)

/-- An address without brackets, up to a blank, a control or a parenthesis that closes none
of its own; it may open at most 32 at a time. -/
def cutBare? : (depth : Nat) → Text → Option (Text × Text)
  | depth, [] => if depth = 0 then some ([], []) else none
  | depth, '\\' :: c :: rest =>
    if c = ' ' then if depth = 0 then some ([], '\\' :: c :: rest) else none
    else (cutBare? depth rest).map fun (address, after) => ('\\' :: c :: address, after)
  | depth, c :: rest =>
    let stop : Option (Text × Text) := if depth = 0 then some ([], c :: rest) else none
    if c.toNat ≤ 32 || c.toNat = 127 then stop
    else if c = ')' && depth = 0 then stop
    else if c = '(' && 32 ≤ depth then none
    else
      let depth := if c = '(' then depth + 1 else if c = ')' then depth - 1 else depth
      (cutBare? depth rest).map fun (address, after) => (c :: address, after)

/-- The address at the beginning of a text, and what follows it. -/
def cutAddress? (text : Text) : Option (Text × Text) :=
  match text with
  | '<' :: rest => (cutBracketed? rest).map fun (address, after) => (Entity.decode address, after)
  | _ =>
    match cutBare? 0 text with
    | some ([], _) => none
    | some (address, after) => some (Entity.decode address, after)
    | none => none

/-! ### Titles -/

/-- The body of a title up to its closing mark, and what follows that; an opening parenthesis has no
place in one that a parenthesis closes. -/
def cutTitle? (mark : Char) : (body : Text) → Text → Option (Text × Text)
  | _, [] => none
  | body, '\\' :: c :: rest => cutTitle? mark (c :: '\\' :: body) rest
  | body, c :: rest =>
    if c = mark then some (Entity.decode body.reverse, rest)
    else if c = '(' && mark = ')' then none
    else cutTitle? mark (c :: body) rest

/-- The title at the beginning of a text, and what follows it. -/
def readTitle? (text : Text) : Option (Text × Text) :=
  match text with
  | '"' :: rest => cutTitle? '"' [] rest
  | '\x27' :: rest => cutTitle? '\x27' [] rest
  | '(' :: rest => cutTitle? ')' [] rest
  | _ => none

end Target

/-! ### References -/

/-- The target of a reference, under its label. -/
structure Reference where
  label : Text
  address : Text
  title : Text

/-- Labels agree when they do so without regard to case and to the width of blanks. -/
def referenceLabel (text : Text) : Text :=
  Text.upper (Text.lower (Text.join " " (words text)))

end CampaignPress.Markdown
