/-
This file keeps the footnotes of a text while it is read: which labels have a
definition, and which notes have been mentioned, in the order of their first
mention.
-/
import CampaignPress.Markdown.Token

namespace CampaignPress.Markdown

inductive Footnote where
  /-- A note that stands where it is mentioned. -/
  | inline (content : Text) (tokens : List Token)
  /-- A note that is defined under a label, and the number of its mentions. -/
  | defined (label : Text) (mentions : Nat)
  deriving Inhabited

structure Footnotes where
  /-- The labels with a definition, and the numbers of those that have been mentioned. -/
  labels : List (Text × Option Nat) := []
  list : List Footnote := []
  deriving Inhabited

namespace Footnotes

/-- A definition under a label; the label has not been mentioned then. -/
def define (label : Text) (notes : Footnotes) : Footnotes :=
  if notes.labels.any (·.1 = label) then
    { notes with labels := notes.labels.map fun entry =>
        if entry.1 = label then (label, none) else entry }
  else { notes with labels := notes.labels ++ [(label, none)] }

/-- Puts a note under its number, which is new or taken over. -/
def put (number : Nat) (note : Footnote) (notes : Footnotes) : Footnotes :=
  if number < notes.list.length then { notes with list := notes.list.set number note }
  else { notes with list := notes.list ++ [note] }

/-- The mentions of a note so far. -/
def mentionsOf (number : Nat) (notes : Footnotes) : Nat :=
  match notes.list[number]? with
  | some (.defined _ mentions) => mentions
  | _ => 0

/-- Mentions a label that has a definition, and tells the number and the mention. -/
def mention (label : Text) (notes : Footnotes) : NoteMark × Footnotes :=
  match (notes.labels.lookup label).join with
  | some number =>
    let mentions := notes.mentionsOf number
    (⟨number, mentions, label⟩,
      match notes.list[number]? with
      | some (.defined label _) => notes.put number (.defined label (mentions + 1))
      | _ => notes)
  | none =>
    let number := notes.list.length
    let labels := notes.labels.map fun entry =>
      if entry.1 = label then (label, some number) else entry
    (⟨number, 0, label⟩, { labels, list := notes.list ++ [.defined label 1] })

end Footnotes

end CampaignPress.Markdown
