/-
This file holds the tokens of YAML: the marks and scalars of a text, with the
beginnings and ends of blocks that only its indentation shows.
-/
import CampaignPress.Text.Basic

namespace CampaignPress.Yaml

/-- A tag as it is written: a short name for its beginning, if it has one, and the rest. -/
structure TagName where
  handle : Option Text
  suffix : Text
  deriving DecidableEq, Repr

inductive Directive where
  | version (major : Nat)
  | tag (handle beginning : Text)
  /-- Other directives mean nothing. -/
  | other
  deriving DecidableEq, Repr

inductive Token where
  | directive (directive : Directive)
  | documentStart
  | documentEnd
  | blockSequence
  | blockMapping
  | blockEnd
  | flowSequence
  | flowSequenceEnd
  | flowMapping
  | flowMappingEnd
  | flowEntry
  /-- The dash before an item. -/
  | entry
  | key
  | value
  | alias (name : Text)
  | anchor (name : Text)
  | tag (name : TagName)
  /-- Plain scalars stand without quotes. -/
  | scalar (plain : Bool) (content : Text)
  deriving DecidableEq, Repr

end CampaignPress.Yaml
