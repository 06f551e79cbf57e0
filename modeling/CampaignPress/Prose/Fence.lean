/-
This file finds fenced code. A fence line opens a block that runs to the next
line with the same mark, at least as long, and nothing else on it; the lines of
a text fall into fenced and prose segments.
-/
import CampaignPress.Text.Basic

namespace CampaignPress

/-- A fence is a run of backticks or tildes. -/
structure Fence where
  mark : Char
  length : Nat
  deriving DecidableEq, Repr

namespace Fence

def toText (fence : Fence) : Text := List.replicate fence.length fence.mark

/-! ### Fence lines -/

/-- The run of three or more marks that a line begins with, after blanks, and the rest. -/
def cutRun? (line : Text) : Option (Fence × Text) :=
  match Text.trimStart line with
  | [] => none
  | c :: rest =>
    let run := rest.takeWhile (· = c)
    if (c = '`' || c = '~') && 2 ≤ run.length then
      some (⟨c, run.length + 1⟩, rest.dropWhile (· = c))
    else none

/-- The fence that a line opens. After backticks the line holds no other backtick. -/
def opened? (line : Text) : Option Fence :=
  match cutRun? line with
  | some (fence, rest) => if fence.mark = '`' && rest.elem '`' then none else some fence
  | none => none

/-- Whether a line closes a fence: the same mark, at least as often, and nothing else. -/
def closes (fence : Fence) (line : Text) : Bool :=
  match cutRun? line with
  | some (run, rest) =>
    Text.isBlankText rest && run.mark = fence.mark && fence.length ≤ run.length
  | none => false

end Fence

/-! ### Segments -/

structure Segment where
  fenced : Bool
  lines : List Text
  deriving DecidableEq, Repr

namespace Segment

def toText (segment : Segment) : Text := Text.unlines segment.lines

def prose (lines : List Text) : List Segment := if lines.isEmpty then [] else [⟨false, lines⟩]

/-- The segments of the remaining lines, given the open fence and the lines of the segment
so far. -/
def groupFrom : (fence : Option Fence) → (lines : List Text) → List Text → List Segment
  | none, lines, [] => prose lines
  | some _, lines, [] => [⟨true, lines⟩]
  | none, lines, line :: rest =>
    match Fence.opened? line with
    | some fence => prose lines ++ groupFrom (some fence) [line] rest
    | none => groupFrom none (lines ++ [line]) rest
  | some fence, lines, line :: rest =>
    if fence.closes line then ⟨true, lines ++ [line]⟩ :: groupFrom none [] rest
    else groupFrom (some fence) (lines ++ [line]) rest

/-- The segments of a text. A fence that is not closed runs to the end. -/
def ofText (text : Text) : List Segment := groupFrom none [] (Text.lines text)

def unite (segments : List Segment) : Text := Text.unlines (segments.map toText)

end Segment

end CampaignPress
