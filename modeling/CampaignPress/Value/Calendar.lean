/-
This file holds dates and moments of the Gregorian calendar as they are written
in the head of a note.
-/
import CampaignPress.Numeral

namespace CampaignPress

structure Date where
  year : Nat
  month : Nat
  day : Nat
  deriving DecidableEq, Repr

namespace Date

def isLeap (year : Nat) : Bool := year % 4 = 0 && (year % 100 ≠ 0 || year % 400 = 0)

def daysIn (year month : Nat) : Nat :=
  if month = 2 then if isLeap year then 29 else 28
  else if month = 4 || month = 6 || month = 9 || month = 11 then 30
  else 31

/-- Years run from 1 to 9999. -/
def exists? (date : Date) : Bool :=
  1 ≤ date.year && date.year ≤ 9999 && 1 ≤ date.month && date.month ≤ 12 &&
    1 ≤ date.day && date.day ≤ daysIn date.year date.month

def write (date : Date) : Text :=
  Numeral.padded 4 date.year ++ "-" ++ Numeral.padded 2 date.month ++ "-" ++
    Numeral.padded 2 date.day

def listed (date : Date) : List Nat := [date.year, date.month, date.day]

/-- The number of days up to a date. -/
def dayNumber (date : Date) : Nat :=
  let past := date.year - 1
  let months := (List.range (date.month - 1)).map fun m => daysIn date.year (m + 1)
  past * 365 + past / 4 - past / 100 + past / 400 + months.foldl (· + ·) 0 + date.day

end Date

/-- A time of a day, with the distance of its zone from the prime meridian in minutes. -/
structure Moment where
  date : Date
  hour : Nat
  minute : Nat
  second : Nat
  micro : Nat
  zone : Option Int
  deriving DecidableEq, Repr

namespace Moment

def writeZone (minutes : Int) : Text :=
  (if minutes < 0 then '-' else '+') :: Numeral.padded 2 (minutes.natAbs / 60) ++ ":" ++
    Numeral.padded 2 (minutes.natAbs % 60)

def write (moment : Moment) : Text :=
  moment.date.write ++ " " ++ Numeral.padded 2 moment.hour ++ ":" ++
    Numeral.padded 2 moment.minute ++ ":" ++ Numeral.padded 2 moment.second ++
    (if moment.micro = 0 then [] else '.' :: Numeral.padded 6 moment.micro) ++
    ((moment.zone.map writeZone).getD [])

/-- The fields that the quoted form lists; zero seconds and fractions are left out. -/
def listed (moment : Moment) : List Nat :=
  moment.date.listed ++ [moment.hour, moment.minute] ++
    if moment.micro ≠ 0 then [moment.second, moment.micro]
    else if moment.second ≠ 0 then [moment.second]
    else []

/-- Microseconds since the calendar began, at the prime meridian where a zone is given. -/
def instant (moment : Moment) : Int :=
  let minutes : Int :=
    (moment.date.dayNumber * 24 + moment.hour) * 60 + moment.minute - moment.zone.getD 0
  (minutes * 60 + moment.second) * 1000000 + moment.micro

/-- Moments agree when they are the same instant, with a zone on both sides or on neither. -/
def isSame (left right : Moment) : Bool :=
  left.zone.isSome = right.zone.isSome && left.instant = right.instant

end Moment

end CampaignPress
