/-
This file gathers footnotes: their definitions leave the place where they stand,
and the notes that have been mentioned follow the text as a list.
-/
import CampaignPress.Markdown.Footnote

namespace CampaignPress.Markdown

namespace NoteList

/-! ### Definitions -/

/-- Tokens with the definitions taken out of them. -/
structure Sorting where
  kept : Array Token := #[]
  /-- The definitions by their labels, the latest first. -/
  definitions : List (Text × List Token) := []
  label : Text := []
  isInside : Bool := false
  /-- What the present definition holds so far. -/
  inside : Array Token := #[]

def Sorting.add (sorting : Sorting) (token : Token) : Sorting :=
  match token.kind, token.nesting with
  | .noteDefinition, .opens =>
    { sorting with label := token.mark.label, isInside := true, inside := #[] }
  | .noteDefinition, _ =>
    { sorting with
      isInside := false
      definitions := (sorting.label, sorting.inside.toList) :: sorting.definitions }
  | _, _ =>
    if sorting.isInside then { sorting with inside := sorting.inside.push token }
    else { sorting with kept := sorting.kept.push token }

/-! ### The list -/

/-- The paragraph of a note that stands where it is mentioned. -/
def paragraphOf (content : Text) (children : List Token) : List Token :=
  [{ kind := .tag, tag := "p", nesting := .opens, block := true },
    { kind := .inline, content, children := some children },
    { kind := .tag, tag := "p", nesting := .closes, block := true }]

def contentOf (definitions : List (Text × List Token)) : Footnote → List Token
  | .inline content tokens => paragraphOf content tokens
  | .defined label _ => (definitions.lookup label).getD []

def mentionsOf : Footnote → Nat
  | .inline _ _ => 1
  | .defined _ mentions => max mentions 1

/-- The links back to every mention of a note. -/
def anchors (number : Nat) (note : Footnote) : List Token :=
  (List.range (mentionsOf note)).map fun mention =>
    { kind := .noteAnchor, mark := { number, mention } }

/-- A note ends with the links back, inside its last paragraph if it ends with one. -/
def item (definitions : List (Text × List Token)) (number : Nat) (note : Footnote) :
    List Token :=
  let content := contentOf definitions note
  let (body, last) :=
    if content.getLast?.any Token.closesParagraph then
      (content.dropLast, content.getLast?.toList)
    else (content, [])
  { kind := .note, nesting := .opens, mark := { number } } :: body ++ anchors number note ++ last ++
    [{ kind := .note, nesting := .closes }]

/-- The tokens of a text with the list of its notes, if any has been mentioned. -/
def gather (footnotes : Footnotes) (tokens : List Token) : List Token :=
  let sorted := tokens.foldl Sorting.add {}
  if footnotes.list.isEmpty then sorted.kept.toList
  else
    let items := footnotes.list.zipIdx.flatMap fun (note, number) =>
      item sorted.definitions number note
    sorted.kept.toList ++ { kind := .noteList, nesting := .opens } :: items ++
      [{ kind := .noteList, nesting := .closes }]

end NoteList

end CampaignPress.Markdown
