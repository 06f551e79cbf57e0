/-
This file reads directives, the mechanics that are written inside a line: a
mark, the kind, a colon, and the fields of that kind between bars.
-/
import CampaignPress.Mechanics.Roll
import CampaignPress.Numeral
import CampaignPress.Text.Case

namespace CampaignPress

namespace Directive

/-! ### Kinds -/

inductive Kind where
  | move
  | oracle
  | meter
  | initiative
  | trackCreate
  | trackAdvance
  | progress
  | noRoll
  | entityCreate
  deriving DecidableEq, Repr

def Kind.name : Kind → Text
  | .move => "move"
  | .oracle => "oracle"
  | .meter => "meter"
  | .initiative => "initiative"
  | .trackCreate => "track-create"
  | .trackAdvance => "track-advance"
  | .progress => "progress"
  | .noRoll => "noroll"
  | .entityCreate => "entity-create"

def Kind.all : List Kind :=
  [.move, .oracle, .meter, .initiative, .trackCreate, .trackAdvance, .progress, .noRoll,
    .entityCreate]

def Kind.ofName? (name : Text) : Option Kind := Kind.all.find? (·.name = name)

/-! ### Records -/

structure Move where
  name : Text
  stat : Text
  action : Int
  statValue : Int
  adds : Int
  first : Int
  second : Int
  ref : Text
  deriving DecidableEq, Repr

def Move.roll (move : Move) : Roll :=
  ⟨move.action + move.statValue + move.adds, move.first, move.second⟩

structure Oracle where
  name : Text
  roll : Text
  result : Text
  ref : Text
  deriving DecidableEq, Repr

structure Meter where
  name : Text
  start : Int
  stop : Int
  deriving DecidableEq, Repr

def Meter.change (meter : Meter) : Int := meter.stop - meter.start

structure Initiative where
  label : Text
  start : Text
  stop : Text
  deriving DecidableEq, Repr

/-- The state that holds in the end. -/
def Initiative.state (initiative : Initiative) : Text :=
  if initiative.stop.isEmpty then initiative.start else initiative.stop

def Initiative.inControl (initiative : Initiative) : Bool :=
  Text.contains "control" (Text.lower initiative.state)

structure TrackCreate where
  name : Text
  path : Text
  deriving DecidableEq, Repr

/-- A box of a track holds four ticks, and a track has ten boxes. -/
def ticksPerBox : Int := 4

def boxesPerTrack : Nat := 10

structure TrackAdvance where
  name : Text
  path : Text
  start : Int
  stop : Int
  rank : Text
  steps : Int
  deriving DecidableEq, Repr

/-- The boxes that are full in the end. -/
def TrackAdvance.boxes (track : TrackAdvance) : Int := track.stop.fdiv ticksPerBox

structure Progress where
  name : Text
  score : Int
  first : Int
  second : Int
  path : Text
  deriving DecidableEq, Repr

def Progress.roll (progress : Progress) : Roll :=
  ⟨progress.score, progress.first, progress.second⟩

structure NoRoll where
  name : Text
  ref : Text
  deriving DecidableEq, Repr

structure EntityCreate where
  entity : Text
  name : Text
  path : Text
  deriving DecidableEq, Repr

end Directive

inductive Directive where
  | move (record : Directive.Move)
  | oracle (record : Directive.Oracle)
  | meter (record : Directive.Meter)
  | initiative (record : Directive.Initiative)
  | trackCreate (record : Directive.TrackCreate)
  | trackAdvance (record : Directive.TrackAdvance)
  | progress (record : Directive.Progress)
  | noRoll (record : Directive.NoRoll)
  | entityCreate (record : Directive.EntityCreate)
  deriving DecidableEq, Repr

namespace Directive

def kind : Directive → Kind
  | .move _ => .move
  | .oracle _ => .oracle
  | .meter _ => .meter
  | .initiative _ => .initiative
  | .trackCreate _ => .trackCreate
  | .trackAdvance _ => .trackAdvance
  | .progress _ => .progress
  | .noRoll _ => .noRoll
  | .entityCreate _ => .entityCreate

/-! ### Fields -/

/-- The text of a field; a missing field is empty. -/
def textAt (fields : List Text) (position : Nat) : Text :=
  Text.trim (fields[position]?.getD [])

/-- The number of a field; a missing or unreadable one is the given number. -/
def numberAt (fields : List Text) (position : Nat) (otherwise : Int) : Int :=
  Numeral.readLeading otherwise (textAt fields position)

/-- What may be wrong with the fields of a known kind. -/
inductive Error where
  /-- A field that has to be there is blank; fields count from one. -/
  | missingField (position : Nat)
  deriving DecidableEq, Repr

def Error.message : Error → Text
  | .missingField position => "missing field " ++ Nat.toDigits 10 position

/-- The positions that have to hold text. -/
def Kind.required : Kind → List Nat
  | .entityCreate => [0, 1]
  | _ => [0]

def ofFields (kind : Kind) (fields : List Text) : Directive :=
  let text := textAt fields
  let number (position : Nat) := numberAt fields position 0
  match kind with
  | .move =>
    .move ⟨text 0, text 1, number 2, number 3, number 4, number 5, number 6, text 7⟩
  | .oracle => .oracle ⟨text 0, text 1, text 2, text 3⟩
  | .meter => .meter ⟨text 0, number 1, number 2⟩
  | .initiative => .initiative ⟨text 0, text 1, text 2⟩
  | .trackCreate => .trackCreate ⟨text 0, text 1⟩
  | .trackAdvance =>
    let steps := numberAt fields 5 1
    .trackAdvance ⟨text 0, text 1, number 2, number 3, text 4, if steps = 0 then 1 else steps⟩
  | .progress => .progress ⟨text 0, number 1, number 2, number 3, text 4⟩
  | .noRoll => .noRoll ⟨text 0, text 1⟩
  | .entityCreate => .entityCreate ⟨text 0, text 1, text 2⟩

/-! ### Reading -/

/-- The mark that sets directives apart from other code. -/
def mark : Text := "iv-"

/-- The name of the kind and the fields, if the mark and a colon are there. -/
def split? (code : Text) : Option (Text × List Text) := do
  let rest ← Text.after? mark code
  let (name, fields) ← Text.cutAt ':' rest
  return (name, Text.splitOn '|' fields)

/-- Code that is no directive reads as nothing, a known kind without its fields as an error. -/
def read? (code : Text) : Option (Except Error Directive) := do
  let (name, fields) ← split? code
  let kind ← Kind.ofName? name
  match kind.required.find? fun position => (textAt fields position).isEmpty with
  | some position => some (.error (.missingField (position + 1)))
  | none => some (.ok (ofFields kind fields))

end Directive

end CampaignPress
