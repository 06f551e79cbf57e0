/-
This file holds the values that the head of a note and a configuration are made
of, with their texts: the plain text of a value, in which a text stands as it
is, and the quoted form, in which nested values are written.
-/
import CampaignPress.Text.Quoted
import CampaignPress.Value.Binary64
import CampaignPress.Value.Calendar

namespace CampaignPress

inductive Value where
  | null
  | bool (flag : Bool)
  | int (number : Int)
  | float (number : Binary64)
  | text (content : Text)
  | date (day : Date)
  | moment (time : Moment)
  | bytes (content : List UInt8)
  | list (items : List Value)
  | tuple (items : List Value)
  | set (items : List Value)
  | mapping (entries : List (Value × Value))
  deriving Inhabited

namespace Value

/-! ### Tests -/

/-- Zero, empty and absent values count as nothing. -/
def isSomething : Value → Bool
  | .null => false
  | .bool flag => flag
  | .int number => number ≠ 0
  | .float (.finite _ mantissa _) => mantissa ≠ 0
  | .float _ => true
  | .text content => !content.isEmpty
  | .date _ => true
  | .moment _ => true
  | .bytes content => !content.isEmpty
  | .list items => !items.isEmpty
  | .tuple items => !items.isEmpty
  | .set items => !items.isEmpty
  | .mapping entries => !entries.isEmpty

/-- The numeric value of numbers and truth values. -/
inductive Quantity where
  | whole (number : Int)
  | real (number : Binary64)

def quantity? : Value → Option Quantity
  | .bool flag => some (.whole (if flag then 1 else 0))
  | .int number => some (.whole number)
  | .float number => some (.real number)
  | _ => none

def Quantity.isSame : Quantity → Quantity → Bool
  | .whole a, .whole b => a = b
  | .whole a, .real b => b.units? = some (Binary64.unitsOfInt a)
  | .real a, .whole b => a.units? = some (Binary64.unitsOfInt b)
  | .real (.infinite a), .real (.infinite b) => a = b
  | .real a, .real b => a.units?.isSome && a.units? = b.units?

/-- What a value is called in messages. -/
def kindName : Value → Text
  | .null => "NoneType"
  | .bool _ => "bool"
  | .int _ => "int"
  | .float _ => "float"
  | .text _ => "str"
  | .date _ => "datetime.date"
  | .moment _ => "datetime.datetime"
  | .bytes _ => "bytes"
  | .list _ => "list"
  | .tuple _ => "tuple"
  | .set _ => "set"
  | .mapping _ => "dict"

mutual

/-- Whether two values are the same key of a mapping: numbers compare by value,
so one and true are one key. -/
def isSameKey : Value → Value → Bool
  | .tuple left, .tuple right => isSameKeys left right
  | .null, .null => true
  | .text left, .text right => left = right
  | .date left, .date right => left = right
  | .moment left, .moment right => left.isSame right
  | .bytes left, .bytes right => left = right
  | left, right =>
    match quantity? left, quantity? right with
    | some a, some b => a.isSame b
    | _, _ => false

def isSameKeys : List Value → List Value → Bool
  | [], [] => true
  | a :: left, b :: right => isSameKey a b && isSameKeys left right
  | _, _ => false

end

mutual

/-- Only values that cannot change may be keys. -/
def isKey : Value → Bool
  | .list _ => false
  | .set _ => false
  | .mapping _ => false
  | .tuple items => areKeys items
  | _ => true

def areKeys : List Value → Bool
  | [] => true
  | item :: items => isKey item && areKeys items

end

/-- The entries with one more: a known key keeps its place and its first spelling,
and takes the new value. -/
def putEntry (key value : Value) : List (Value × Value) → List (Value × Value)
  | [] => [(key, value)]
  | entry :: entries =>
    if isSameKey entry.1 key then (entry.1, value) :: entries
    else entry :: putEntry key value entries

/-- The elements with one more, unless it is there already. -/
def putItem (item : Value) (items : List Value) : List Value :=
  if items.any (isSameKey · item) then items else items ++ [item]

/-! ### Depth -/

mutual

/-- The levels of values within a value. -/
def depth : Value → Nat
  | .list items => depthAll items + 1
  | .tuple items => depthAll items + 1
  | .set items => depthAll items + 1
  | .mapping entries => depthEntries entries + 1
  | _ => 0

def depthAll : List Value → Nat
  | [] => 0
  | item :: items => max (depth item) (depthAll items)

def depthEntries : List (Value × Value) → Nat
  | [] => 0
  | (key, value) :: entries => max (max (depth key) (depth value)) (depthEntries entries)

end

/-! ### Quoted form -/

private def bracketed (opening closing : Text) (parts : List Text) : Text :=
  opening ++ Text.join ", " parts ++ closing

private def zoneQuoted (minutes : Int) : Text :=
  if minutes = 0 then "datetime.timezone.utc"
  else
    let delta : Text :=
      if minutes < 0 then
        "days=-1, seconds=" ++ Numeral.digits ((minutes + 24 * 60) * 60)
      else "seconds=" ++ Numeral.digits (minutes * 60)
    "datetime.timezone(datetime.timedelta(" ++ delta ++ "))"

private def momentQuoted (time : Moment) : Text :=
  let fields := time.listed.map (Nat.toDigits 10)
  let zone := (time.zone.map fun minutes => "tzinfo=" ++ zoneQuoted minutes).toList
  bracketed "datetime.datetime(" ")" (fields ++ zone)

mutual

/-- The form of a value inside another one; a number beyond the limit is a fault. -/
def quoted : Value → Except Fault Text
  | .null => .ok "None"
  | .bool flag => .ok (if flag then "True" else "False")
  | .int number => Numeral.write number
  | .float number => .ok number.write
  | .text content => .ok (Text.quoted content)
  | .date day => .ok (bracketed "datetime.date(" ")" (day.listed.map (Nat.toDigits 10)))
  | .moment time => .ok (momentQuoted time)
  | .bytes content => .ok (Text.quotedBytes content)
  | .list items => do return bracketed "[" "]" (← quotedAll items)
  | .tuple items => do
    match ← quotedAll items with
    | [single] => return "(" ++ single ++ ",)"
    | several => return bracketed "(" ")" several
  | .set items => do
    match ← quotedAll items with
    | [] => return "set()"
    | several => return bracketed ['\x7b'] ['\x7d'] several
  | .mapping entries => do return bracketed ['\x7b'] ['\x7d'] (← quotedEntries entries)

def quotedAll : List Value → Except Fault (List Text)
  | [] => .ok []
  | item :: items => do
    let first ← quoted item
    return first :: (← quotedAll items)

def quotedEntries : List (Value × Value) → Except Fault (List Text)
  | [] => .ok []
  | (key, value) :: entries => do
    let first := (← quoted key) ++ ": " ++ (← quoted value)
    return first :: (← quotedEntries entries)

end

/-! ### Plain text -/

/-- The text of a value that stands alone. -/
def toText : Value → Except Fault Text
  | .text content => .ok content
  | .date day => .ok day.write
  | .moment time => .ok time.write
  | value => quoted value

end Value

/-! ### Heads of notes -/

/-- The head of a note holds its fields in the order in which they are written. -/
abbrev Frontmatter := List (Value × Value)

namespace Frontmatter

/-- The value of a field, by the text of its name. -/
def field? (name : Text) (fields : Frontmatter) : Option Value :=
  (fields.find? fun entry => entry.1.isSameKey (.text name)).map (·.2)

end Frontmatter

end CampaignPress
