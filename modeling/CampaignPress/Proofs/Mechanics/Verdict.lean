/-
This file reads the verdict of a roll out of HTML. What shows a roll may name its
elements as it likes; a vocabulary gives the classes of the score, of the dice
and of the element that holds them, which has the classes of the outcome beside
its own. Where all other elements mean nothing to the vocabulary, the verdict
read is that of the roll.
-/
import CampaignPress.Mechanics.Roll
import CampaignPress.Proofs.Html.Class

namespace CampaignPress

/-! ### Outcomes -/

namespace Roll

/-- The classes that a roll is to have: those of its outcome, and of a match. -/
structure IsJudged (roll : Roll) (classes : List Text) : Prop where
  strong : "strong-hit".toList ∈ classes ↔ roll.first < roll.score ∧ roll.second < roll.score
  miss : "miss".toList ∈ classes ↔ ¬ roll.first < roll.score ∧ ¬ roll.second < roll.score
  weak : "weak-hit".toList ∈ classes ↔ (roll.first < roll.score ↔ ¬ roll.second < roll.score)
  matched : "match".toList ∈ classes ↔ roll.first = roll.second
  only : ∀ name ∈ classes, name ∈ List.map String.toList ["strong-hit", "miss", "weak-hit", "match"]

theorem name_mem_classes_iff (roll : Roll) (outcome : Outcome) :
    outcome.name ∈ roll.classes ↔ roll.outcome = outcome := by
  rw [classes]
  cases roll.outcome <;> cases roll.isMatch <;> cases outcome <;> decide

theorem match_mem_classes_iff (roll : Roll) :
    "match".toList ∈ roll.classes ↔ roll.first = roll.second := by
  have isMatch : roll.isMatch = true ↔ roll.first = roll.second := decide_eq_true_iff
  rw [← isMatch, classes]
  cases roll.outcome <;> cases roll.isMatch <;> decide

theorem isJudged_classes (roll : Roll) : roll.IsJudged roll.classes where
  strong := by
    rw [show "strong-hit".toList = Outcome.strongHit.name from rfl, name_mem_classes_iff, outcome]
    by_cases first : roll.first < roll.score <;> by_cases second : roll.second < roll.score <;>
      simp [first, second]
  miss := by
    rw [show "miss".toList = Outcome.miss.name from rfl, name_mem_classes_iff, outcome]
    by_cases first : roll.first < roll.score <;> by_cases second : roll.second < roll.score <;>
      simp [first, second]
  weak := by
    rw [show "weak-hit".toList = Outcome.weakHit.name from rfl, name_mem_classes_iff, outcome]
    by_cases first : roll.first < roll.score <;> by_cases second : roll.second < roll.score <;>
      simp [first, second]
  matched := roll.match_mem_classes_iff
  only := by
    rw [classes]
    cases roll.outcome <;> cases roll.isMatch <;> decide

end Roll

/-! ### Changes -/

/-- The classes of a change from one number to another. -/
def changeClasses (start stop : Int) : List Text :=
  if start < stop then ["meter-increase"] else if stop < start then ["meter-decrease"] else []

theorem changeClasses_eq (start stop : Int) :
    changeClasses start stop = ["meter-increase".toList] ∨
      changeClasses start stop = ["meter-decrease".toList] ∨ changeClasses start stop = [] := by
  rw [changeClasses]
  split
  · exact .inl rfl
  · split
    · exact .inr (.inl rfl)
    · exact .inr (.inr rfl)

/-- The classes that a change is to have. -/
structure IsChange (start stop : Int) (classes : List Text) : Prop where
  increase : "meter-increase".toList ∈ classes ↔ start < stop
  decrease : "meter-decrease".toList ∈ classes ↔ stop < start
  only : ∀ name ∈ classes, name ∈ List.map String.toList ["meter-increase", "meter-decrease"]

theorem isChange_changeClasses (start stop : Int) :
    IsChange start stop (changeClasses start stop) := by
  rw [changeClasses]
  split
  · rename_i rises
    exact ⟨iff_of_true (by decide) rises, iff_of_false (by decide) (Int.lt_asymm rises), by decide⟩
  · rename_i notRises
    split
    · rename_i falls
      exact ⟨iff_of_false (by decide) notRises, iff_of_true (by decide) falls, by decide⟩
    · rename_i notFalls
      exact ⟨iff_of_false (by decide) notRises, iff_of_false (by decide) notFalls, by decide⟩

/-! ### Verdicts -/

namespace Html

/-- The classes that elements go by: of what holds a roll, of its score and of its dice. -/
structure Vocabulary where
  root : Text
  score : Text
  first : Text
  second : Text

/-- What a reader learns of rolls: their scores, their dice, and the classes of their outcomes. -/
structure Verdict where
  scores : List Text
  firsts : List Text
  seconds : List Text
  classes : List (List Text)

def verdict (vocabulary : Vocabulary) (html : Html) : Verdict where
  scores := textsIn vocabulary.score html
  firsts := textsIn vocabulary.first html
  seconds := textsIn vocabulary.second html
  classes := classesBeside vocabulary.root html

/-- The verdict of a single roll. -/
def Verdict.single (roll : Roll) (classes : List Text) : Verdict where
  scores := [Numeral.digits roll.score]
  firsts := [Numeral.digits roll.first]
  seconds := [Numeral.digits roll.second]
  classes := [classes]

/-- Classes without a meaning for a verdict. -/
def Vocabulary.isOther (vocabulary : Vocabulary) (classes : Text) : Bool :=
  classes ≠ vocabulary.score && classes ≠ vocabulary.first && classes ≠ vocabulary.second &&
    beside? vocabulary.root classes = none

/-- A vocabulary in which the score and the dice are told from each other and from what holds
them. -/
def Vocabulary.isClear (vocabulary : Vocabulary) : Bool :=
  vocabulary.score ≠ vocabulary.first && vocabulary.score ≠ vocabulary.second &&
    vocabulary.first ≠ vocabulary.second && beside? vocabulary.root vocabulary.score = none &&
    beside? vocabulary.root vocabulary.first = none &&
    beside? vocabulary.root vocabulary.second = none

/-- The entries of the score and the dice of a roll. -/
def Vocabulary.entries (vocabulary : Vocabulary) (roll : Roll) : List (Text × Text) :=
  [(vocabulary.score, Numeral.digits roll.score), (vocabulary.first, Numeral.digits roll.first),
    (vocabulary.second, Numeral.digits roll.second)]

section Verdict

variable {vocabulary : Vocabulary}

theorem filter_eq_nil_of_isOther {entries : List (Text × Text)}
    (others : ∀ classes ∈ entries.map Prod.fst, vocabulary.isOther classes) {wanted : Text}
    (known : wanted ∈ [vocabulary.score, vocabulary.first, vocabulary.second]) :
    entries.filter (·.1 = wanted) = [] := by
  refine List.filter_eq_nil_iff.2 fun entry member => ?_
  have other := others entry.1 (List.mem_map_of_mem member)
  simp only [Vocabulary.isOther, Bool.and_eq_true, decide_eq_true_eq] at other
  simp only [List.mem_cons, List.not_mem_nil, or_false] at known
  rw [decide_eq_true_eq]
  rcases known with rfl | rfl | rfl
  · exact other.1.1.1
  · exact other.1.1.2
  · exact other.1.2

theorem filterMap_eq_nil_of_isOther {entries : List (Text × Text)}
    (others : ∀ classes ∈ entries.map Prod.fst, vocabulary.isOther classes) :
    (entries.filterMap fun entry => beside? vocabulary.root entry.1) = [] := by
  refine List.filterMap_eq_nil_iff.2 fun entry member => ?_
  have other := others entry.1 (List.mem_map_of_mem member)
  simp only [Vocabulary.isOther, Bool.and_eq_true, decide_eq_true_eq] at other
  exact other.2

/-- A roll among other entries is the verdict. -/
theorem verdict_eq_single (clear : vocabulary.isClear) (before : List (Text × Text)) (text : Text)
    (between after : List (Text × Text)) (names : List Text) {holder : Text} {classes : List Text}
    {roll : Roll} {html : Html}
    (shown : html.entries =
      before ++ (holder, text) :: (between ++ (vocabulary.entries roll ++ after)))
    (named : (before ++ between ++ after).map Prod.fst = names)
    (others : ∀ classes ∈ names, vocabulary.isOther classes)
    (held : beside? vocabulary.root holder = some classes) :
    html.verdict vocabulary = .single roll classes := by
  rw [← named] at others
  simp only [List.map_append, List.forall_mem_append] at others
  obtain ⟨⟨othersBefore, othersBetween⟩, othersAfter⟩ := others
  simp only [Vocabulary.isClear, Bool.and_eq_true, decide_eq_true_eq] at clear
  obtain ⟨⟨⟨⟨⟨scoreFirst, scoreSecond⟩, firstSecond⟩, score⟩, first⟩, second⟩ := clear
  have apart {wanted : Text} (none' : beside? vocabulary.root wanted = none) : holder ≠ wanted := by
    rintro rfl
    rw [none'] at held
    exact nomatch held
  have picked {wanted : Text} (known : wanted ∈ [vocabulary.score, vocabulary.first, vocabulary.second])
      (none' : beside? vocabulary.root wanted = none) :
      textsIn wanted html =
        ((vocabulary.entries roll).filter (·.1 = wanted)).map Prod.snd := by
    rw [textsIn, shown, List.filter_append,
      List.filter_cons_of_neg (by simpa using apart none'), List.filter_append, List.filter_append,
      filter_eq_nil_of_isOther othersBefore known, filter_eq_nil_of_isOther othersBetween known,
      filter_eq_nil_of_isOther othersAfter known, List.append_nil, List.nil_append,
      List.nil_append]
  have scores : textsIn vocabulary.score html = [Numeral.digits roll.score] := by
    rw [picked (by simp) score]
    simp [Vocabulary.entries, Ne.symm scoreFirst, Ne.symm scoreSecond]
  have firsts : textsIn vocabulary.first html = [Numeral.digits roll.first] := by
    rw [picked (by simp) first]
    simp [Vocabulary.entries, scoreFirst, Ne.symm firstSecond]
  have seconds : textsIn vocabulary.second html = [Numeral.digits roll.second] := by
    rw [picked (by simp) second]
    simp [Vocabulary.entries, scoreSecond, firstSecond]
  have single : classesBeside vocabulary.root html = [classes] := by
    rw [classesBeside, shown, List.filterMap_append, List.filterMap_cons, held,
      List.filterMap_append, List.filterMap_append, filterMap_eq_nil_of_isOther othersBefore,
      filterMap_eq_nil_of_isOther othersBetween, filterMap_eq_nil_of_isOther othersAfter]
    simp [Vocabulary.entries, score, first, second]
  rw [verdict, scores, firsts, seconds, single, Verdict.single]

end Verdict

end Html

end CampaignPress
