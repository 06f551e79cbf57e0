/-
This file answers queries: the notes that lie in every scope and meet every
condition, in the order that the query asks for.
-/
import CampaignPress.Query.Basic
import CampaignPress.Query.Field

namespace CampaignPress

namespace Query

/-! ### Scopes -/

/-- Whether a note bears a tag, which is compared as it is written. -/
def bearsTag (tag : Text) (note : Note) : Except Fault Bool := do
  let value := (note.frontmatter.field? "tags").getD .null
  if value.isSomething then
    match value with
    | .list items => return (← items.mapM Value.toText).elem tag
    | .tuple items => return (← items.mapM Value.toText).elem tag
    | single => return (← single.toText) = tag
  else return false

/-- Whether a note lies in a folder or is the file itself, in any case and with either
slash. -/
def liesIn (folder : Text) (note : Note) : Bool :=
  let folder := Text.lower (Text.dropEnds (· == '/') (Slug.forward folder))
  let path := Text.lower (Slug.forward note.path)
  path = folder || Text.startsWith path (folder ++ "/")

def inScope (scope : Scope) (note : Note) : Except Fault Bool :=
  if scope.isTag then bearsTag scope.tag note else .ok (liesIn scope.folder note)

/-! ### Conditions -/

def meets (condition : Condition) (note : Note) : Except Fault Bool := do
  let same ← agrees condition.value (resolve note condition.field)
  return match condition.comparison with
    | .equal => same
    | .unequal => !same

/-! ### Order -/

/-- What notes are ordered by: numbers come before texts, and missing values last. -/
inductive Rank where
  | quantity (number : Value.Quantity)
  | text (content : Text)
  | missing

def Rank.ofValue : Value → Except Fault Rank
  | .null => .ok .missing
  | .int number => .ok (.quantity (.whole number))
  | .float number => .ok (.quantity (.real number))
  | .list items => do return .text (Text.join ", " (← items.mapM plainText))
  | .tuple items => do return .text (Text.join ", " (← items.mapM plainText))
  | value => do return .text (← plainText value)

/-- Whether one number is less than another; a number that is undefined is not. -/
def lessReal : Binary64 → Binary64 → Bool
  | .undefined, _ => false
  | _, .undefined => false
  | .infinite a, .infinite b => a && !b
  | .infinite a, _ => a
  | _, .infinite b => !b
  | a, b =>
    match a.units?, b.units? with
    | some a, some b => a < b
    | _, _ => false

def lessQuantity : Value.Quantity → Value.Quantity → Bool
  | .whole a, .whole b => a < b
  | .real a, .real b => lessReal a b
  | .whole a, .real b =>
    match b with
    | .undefined => false
    | .infinite negative => !negative
    | b => b.units?.any (Binary64.unitsOfInt a < ·)
  | .real a, .whole b =>
    match a with
    | .undefined => false
    | .infinite negative => negative
    | a => a.units?.any (· < Binary64.unitsOfInt b)

def Rank.less : Rank → Rank → Bool
  | .quantity a, .quantity b => lessQuantity a b
  | .quantity _, _ => true
  | .text a, .text b => Text.before a b
  | .text _, .missing => true
  | _, _ => false

/-- Whether the first of two ranks may stay before the second. -/
def Rank.mayPrecede (direction : Direction) (left right : Rank) : Bool :=
  match direction with
  | .ascending => !right.less left
  | .descending => !left.less right

/-- The notes in order of a field; notes of one rank keep their order. A single note is in
order whatever its value. -/
def sort (order : Order) (notes : List Note) : Except Fault (List Note) :=
  match notes with
  | [] => .ok []
  | [note] => .ok [note]
  | notes => do
    let ranked ← notes.mapM fun note => do
      return (← Rank.ofValue (resolve note order.field), note)
    return (ranked.mergeSort fun a b => a.1.mayPrecede order.direction b.1).map (·.2)

/-! ### Answers -/

/-- The elements that a test lets pass, in order. -/
def select {α : Type} (test : α → Except Fault Bool) : List α → Except Fault (List α)
  | [] => .ok []
  | item :: items => do
    let passes ← test item
    let others ← select test items
    return if passes then item :: others else others

/-- The notes that answer a query: scopes first, then conditions, then the order. -/
def run (query : Query) (notes : List Note) : Except Fault (List Note) := do
  let within ← query.scopes.foldlM (fun notes scope => select (inScope scope) notes) notes
  let met ← query.conditions.foldlM (fun notes condition => select (meets condition) notes) within
  match query.order with
  | some order => sort order met
  | none => return met

end Query

end CampaignPress
