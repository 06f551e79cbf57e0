/-
This file holds what a markdown text is read into: a list of tokens, in which
the tags of blocks open and close, and a line of running text holds the tokens
of its own.
-/
import CampaignPress.Text.Basic

namespace CampaignPress.Markdown

/-- Whether a token begins an element, ends one, or stands for itself. -/
inductive Nesting where
  | opens
  | stands
  | closes
  deriving DecidableEq, Repr, Inhabited

inductive Kind where
  /-- An element that is written as its tag. -/
  | tag
  /-- A line of running text. -/
  | inline
  | text
  /-- A character that was escaped, or that an entity stood for. -/
  | special
  | softBreak
  | hardBreak
  | code
  | codeBlock
  | fence
  | htmlBlock
  | htmlInline
  | image
  | noteReference
  | noteAnchor
  | noteDefinition
  | noteList
  | note
  /-- A kind that this library does not produce. -/
  | other (name : Text)
  deriving DecidableEq, Repr, Inhabited

/-- Which footnote a token speaks of: its number from zero, and which mention of it. -/
structure NoteMark where
  number : Nat := 0
  mention : Nat := 0
  label : Text := []
  deriving DecidableEq, Repr, Inhabited

structure Token where
  kind : Kind
  tag : Text := []
  nesting : Nesting := .stands
  attributes : List (Text × Text) := []
  level : Int := 0
  content : Text := []
  info : Text := []
  block : Bool := false
  /-- The paragraphs of tight lists are hidden. -/
  hidden : Bool := false
  children : Option (List Token) := none
  mark : NoteMark := {}
  deriving Inhabited

namespace Token

def isParagraph (token : Token) : Bool := token.kind = .tag && token.tag = "p".toList

def opensParagraph (token : Token) : Bool := token.isParagraph && token.nesting = .opens

def closesParagraph (token : Token) : Bool := token.isParagraph && token.nesting = .closes

def opensItem (token : Token) : Bool :=
  token.kind = .tag && token.tag = "li".toList && token.nesting = .opens

/-- Sets an attribute, in its old place if it is there already. -/
def setAttribute (name value : Text) (token : Token) : Token :=
  if token.attributes.any (·.1 = name) then
    { token with attributes := token.attributes.map fun entry =>
        if entry.1 = name then (name, value) else entry }
  else { token with attributes := token.attributes ++ [(name, value)] }

end Token

end CampaignPress.Markdown
