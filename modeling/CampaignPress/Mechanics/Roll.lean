/-
This file judges rolls: a score is held against two challenge dice.
-/
import CampaignPress.Text.Basic

namespace CampaignPress

inductive Outcome where
  | strongHit
  | weakHit
  | miss
  deriving DecidableEq, Repr

def Outcome.name : Outcome → Text
  | .strongHit => "strong-hit"
  | .weakHit => "weak-hit"
  | .miss => "miss"

structure Roll where
  score : Int
  first : Int
  second : Int
  deriving DecidableEq, Repr

namespace Roll

/-- A score that beats both dice is a strong hit, one that beats a single die a weak one. -/
def outcome (roll : Roll) : Outcome :=
  if roll.first < roll.score ∧ roll.second < roll.score then .strongHit
  else if roll.first < roll.score ∨ roll.second < roll.score then .weakHit
  else .miss

/-- Equal dice are a match, whatever the outcome. -/
def isMatch (roll : Roll) : Bool := roll.first = roll.second

def classes (roll : Roll) : List Text :=
  roll.outcome.name :: if roll.isMatch then ["match"] else []

end Roll

end CampaignPress
