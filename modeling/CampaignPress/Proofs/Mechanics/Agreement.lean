/-
This file shows that rolls and meters look alike inside a line and in a block.
The fields between bars and the properties of a block are read as the same
numbers, so both forms show the same roll, each with its own vocabulary. No
number is beyond the limit as long as the three that make up a score are one
digit shorter than it.
-/
import CampaignPress.Proofs.Mechanics.BlockView
import CampaignPress.Proofs.Mechanics.InlineView
import CampaignPress.Proofs.Mechanics.Line

namespace CampaignPress

/-! ### Short numbers -/

namespace Numeral

/-- One digit less than the limit. -/
def shortLimit : Nat := 4299

/-- A number that can be added to two others within the limit. -/
def IsShort (number : Int) : Prop := number.natAbs < 10 ^ shortLimit

theorem pow_digitLimit : 10 ^ digitLimit = 10 * 10 ^ shortLimit := by
  have longer : digitLimit = shortLimit + 1 := rfl
  rw [longer, Nat.pow_succ']

theorem IsShort.isSmall {number : Int} (short : IsShort number) : IsSmall number := by
  rw [IsShort] at short
  rw [IsSmall, pow_digitLimit]
  omega

theorem IsShort.isSmall_sum {first second third : Int} (one : IsShort first) (two : IsShort second)
    (three : IsShort third) : IsSmall (first + second + third) := by
  rw [IsShort] at one two three
  rw [IsSmall, pow_digitLimit]
  omega

/-- A bound that is evaluated at once. -/
theorem isShort_of_lt {number : Int} (few : number.natAbs < 10 ^ 9) : IsShort number :=
  few.trans_le (Nat.pow_le_pow_right (by decide) (by decide))

end Numeral

/-! ### Both forms -/

namespace Directive

open Mechanics (IsTame)

/-- A move that both forms can be written of: its name and stat are tame, and its numbers short. -/
structure Move.IsPlain (move : Move) : Prop where
  name : IsTame move.name
  named : move.name ≠ []
  stat : IsTame move.stat
  numbers : ∀ number ∈ [move.action, move.adds, move.statValue, move.first, move.second],
    Numeral.IsShort number
  ref : (Field.text move.ref).IsWritable

structure Progress.IsPlain (progress : Progress) : Prop where
  name : IsTame progress.name
  named : progress.name ≠ []
  numbers : ∀ number ∈ [progress.score, progress.first, progress.second], Numeral.IsShort number
  path : (Field.text progress.path).IsWritable

structure Meter.IsPlain (meter : Meter) : Prop where
  name : IsTame meter.name
  named : meter.name ≠ []
  numbers : ∀ number ∈ [meter.start, meter.stop], Numeral.IsShort number

theorem Move.IsPlain.writable {move : Move} (plain : move.IsPlain) :
    (Directive.move move).Writable where
  fields := by
    have numbers := plain.numbers
    simp only [List.forall_mem_cons] at numbers
    simp only [Directive.fields, List.forall_mem_cons]
    exact ⟨⟨plain.name.trimmed, plain.name.bar⟩, ⟨plain.stat.trimmed, plain.stat.bar⟩,
      numbers.1.isSmall, numbers.2.2.1.isSmall, numbers.2.1.isSmall, numbers.2.2.2.1.isSmall,
      numbers.2.2.2.2.1.isSmall, plain.ref, List.forall_mem_nil _⟩
  required := by
    have named := plain.named
    simpa [Directive.fields, kind, Kind.required] using named
  steps := nofun

theorem Progress.IsPlain.writable {progress : Progress} (plain : progress.IsPlain) :
    (Directive.progress progress).Writable where
  fields := by
    have numbers := plain.numbers
    simp only [List.forall_mem_cons] at numbers
    simp only [Directive.fields, List.forall_mem_cons]
    exact ⟨⟨plain.name.trimmed, plain.name.bar⟩, numbers.1.isSmall, numbers.2.1.isSmall,
      numbers.2.2.1.isSmall, plain.path, List.forall_mem_nil _⟩
  required := by
    have named := plain.named
    simpa [Directive.fields, kind, Kind.required] using named
  steps := nofun

theorem Meter.IsPlain.writable {meter : Meter} (plain : meter.IsPlain) :
    (Directive.meter meter).Writable where
  fields := by
    have numbers := plain.numbers
    simp only [List.forall_mem_cons] at numbers
    simp only [Directive.fields, List.forall_mem_cons]
    exact ⟨⟨plain.name.trimmed, plain.name.bar⟩, numbers.1.isSmall, numbers.2.1.isSmall,
      List.forall_mem_nil _⟩
  required := by
    have named := plain.named
    simpa [Directive.fields, kind, Kind.required] using named
  steps := nofun

end Directive

namespace Mechanics

/-! ### The lines of a block -/

def moveLine (name : Text) : Text := writeLine "move" [name] []

def rollLine (move : Directive.Move) : Text :=
  writeLine "roll" [move.stat] [("action", move.action), ("adds", move.adds),
    ("stat", move.statValue), ("vs1", move.first), ("vs2", move.second)]

def progressLine (progress : Directive.Progress) : Text :=
  writeLine "progress-roll" [] [("score", progress.score), ("vs1", progress.first),
    ("vs2", progress.second)]

def meterLine (meter : Directive.Meter) : Text :=
  writeLine "meter" [meter.name] [("from", meter.start), ("to", meter.stop)]

/-- A line whose keyword and keys are known words. -/
theorem isLine_of_words {keyword : Text} {args : List Text} {numbers : List (Text × Int)}
    (keys : List Text) (named : keyword ≠ []) (word : keyword.all isKeywordChar)
    (tame : ∀ arg ∈ args, IsTame arg) (same : numbers.map Prod.fst = keys)
    (words : keys.all fun key => !key.isEmpty && key.all isPropertyChar) (distinct : keys.Nodup) :
    IsLine keyword args numbers where
  named := named
  word := List.all_eq_true.1 word
  args := tame
  keys entry member := by
    have known := List.all_eq_true.1 words entry.1 (same ▸ List.mem_map_of_mem member)
    rw [Bool.and_eq_true, List.all_eq_true, Bool.not_eq_true', List.isEmpty_eq_false_iff] at known
    exact known
  distinct := same ▸ distinct

section Lines

variable {name : Text} (tame : IsTame name)
include tame

theorem isLine_move : IsLine "move" [name] [] :=
  isLine_of_words [] (by decide) (by decide) (List.forall_mem_singleton.2 tame) rfl (by decide)
    (by decide)

theorem isLine_roll (action adds stat first second : Int) : IsLine "roll" [name]
    [("action", action), ("adds", adds), ("stat", stat), ("vs1", first), ("vs2", second)] :=
  isLine_of_words ["action", "adds", "stat", "vs1", "vs2"] (by decide) (by decide)
    (List.forall_mem_singleton.2 tame) rfl (by decide) (by decide)

theorem isLine_meter (start stop : Int) :
    IsLine "meter" [name] [("from", start), ("to", stop)] :=
  isLine_of_words ["from", "to"] (by decide) (by decide)
    (List.forall_mem_singleton.2 tame) rfl (by decide) (by decide)

end Lines

theorem isLine_progress (score first second : Int) :
    IsLine "progress-roll" [] [("score", score), ("vs1", first), ("vs2", second)] :=
  isLine_of_words ["score", "vs1", "vs2"] (by decide) (by decide) (by simp) rfl
    (by decide) (by decide)

/-- A block with a line inside a move is read as the move with one node. -/
theorem exists_ofBlock_move {name innerKeyword source : Text} {innerArgs : List Text}
    {innerNumbers : List (Text × Int)} (tame : IsTame name)
    (inner : IsLine innerKeyword innerArgs innerNumbers)
    (encloses : Encloses (moveLine name) (writeLine innerKeyword innerArgs innerNumbers) source) :
    ∃ text innerText, Node.ofBlock source = [⟨"move", [name], [], text, [⟨innerKeyword, innerArgs,
      innerNumbers.map fun entry => (entry.1, Numeral.digits entry.2), innerText, []⟩]⟩] := by
  have outer := isLine_move tame
  obtain ⟨text, read⟩ := encloses.ofBlock_eq outer.tidy inner.tidy
  have blank : ∀ c ∈ [' '], c = ' ' := by simp
  obtain ⟨header, headerRead⟩ := outer.ofHeader_eq blank
  obtain ⟨innerText, innerRead⟩ := inner.ofUnit_eq
  rw [headerRead, innerRead] at read
  exact ⟨text, innerText, read⟩

/-! ### Agreement -/

/-- Code and a block that are both shown, with the same verdict: the score and the dice of a roll,
and the classes of its outcome. -/
def RollsAgree (site : Site) (base : Text) (index : Index) (code source : Text) (roll : Roll) :
    Prop :=
  ∃ inline block classes, Directive.renderCode? site code = some (.ok inline) ∧
    blockHtml base index source = .ok block ∧
    inline.verdict Directive.vocabulary = .single roll classes ∧
    (∀ root ∈ roots, block.verdict (vocabulary root) = .single roll classes) ∧
    roll.IsJudged classes

/-- Code and a block that are both shown, with the same numbers and classes of a change. -/
def MetersAgree (site : Site) (base : Text) (index : Index) (code source : Text)
    (start stop : Int) : Prop :=
  ∃ inline block classes, Directive.renderCode? site code = some (.ok inline) ∧
    blockHtml base index source = .ok block ∧
    inline.textsIn "iv-inline-meter-change" =
      [Numeral.digits start ++ " → " ++ Numeral.digits stop] ∧
    block.textsIn "from" = [Numeral.digits start] ∧ block.textsIn "to" = [Numeral.digits stop] ∧
    inline.classesBeside Directive.mechanics = [classes] ∧ block.classesBeside "meter" = [classes] ∧
    IsChange start stop classes

variable (site : Site) (base : Text) (index : Index) {source : Text} {count : Nat}

theorem rollsAgree_move {move : Directive.Move} (plain : move.IsPlain)
    (rest : ∀ field ∈ (Directive.move move).fields.drop count, field.IsDefault)
    (encloses : Encloses (moveLine move.name) (rollLine move) source) :
    RollsAgree site base index ((Directive.move move).write count) source move.roll := by
  have numbers := plain.numbers
  simp only [List.forall_mem_cons] at numbers
  obtain ⟨action, adds, stat, first, second, -⟩ := numbers
  have small : move.roll.IsSmall := ⟨action.isSmall_sum stat adds, first.isSmall, second.isSmall⟩
  obtain ⟨inline, inlineShown, inlineVerdict⟩ := Directive.Move.exists_html small
  obtain ⟨text, innerText, read⟩ :=
    exists_ofBlock_move plain.name (isLine_roll plain.stat _ _ _ _ _) encloses
  obtain ⟨dice, rolled, inDice⟩ := exists_rollOf move.stat innerText fun number member =>
    (plain.numbers number member).isSmall
  obtain ⟨block, blockShown, blockVerdict⟩ :=
    exists_blockHtml_move base index plain.named rfl rolled small inDice read
  exact ⟨inline, block, move.roll.classes,
    (Directive.renderCode?_write site plain.writable rest).trans (congrArg some inlineShown),
    blockShown, inlineVerdict, blockVerdict, move.roll.isJudged_classes⟩

theorem rollsAgree_progress {progress : Directive.Progress} (plain : progress.IsPlain)
    (rest : ∀ field ∈ (Directive.progress progress).fields.drop count, field.IsDefault)
    (encloses : Encloses (moveLine progress.name) (progressLine progress) source) :
    RollsAgree site base index ((Directive.progress progress).write count) source progress.roll := by
  have numbers : ∀ number ∈ [progress.score, progress.first, progress.second],
      Numeral.IsSmall number := fun number member => (plain.numbers number member).isSmall
  have small : progress.roll.IsSmall :=
    ⟨numbers _ (by simp [Directive.Progress.roll]), numbers _ (by simp [Directive.Progress.roll]),
      numbers _ (by simp [Directive.Progress.roll])⟩
  obtain ⟨inline, inlineShown, inlineVerdict⟩ := Directive.Progress.exists_html small
  obtain ⟨text, innerText, read⟩ :=
    exists_ofBlock_move plain.name (isLine_progress _ _ _) encloses
  have other : "progress-roll".toList ≠ "roll".toList := by decide
  have rolled : rollOf ⟨"progress-roll", [], [("score", Numeral.digits progress.score),
      ("vs1", Numeral.digits progress.first), ("vs2", Numeral.digits progress.second)],
      innerText, []⟩ = .ok (progress.roll, []) := rollOf_progress other rfl rfl rfl rfl numbers
  obtain ⟨block, blockShown, blockVerdict⟩ :=
    exists_blockHtml_move base index plain.named rfl rolled small (by simp) read
  exact ⟨inline, block, progress.roll.classes,
    (Directive.renderCode?_write site plain.writable rest).trans (congrArg some inlineShown),
    blockShown, inlineVerdict, blockVerdict, progress.roll.isJudged_classes⟩

theorem metersAgree_meter {meter : Directive.Meter} (plain : meter.IsPlain)
    (rest : ∀ field ∈ (Directive.meter meter).fields.drop count, field.IsDefault)
    (padded : Text.Padded (meterLine meter) source) :
    MetersAgree site base index ((Directive.meter meter).write count) source meter.start
      meter.stop := by
  have start := (plain.numbers meter.start (by simp)).isSmall
  have stop := (plain.numbers meter.stop (by simp)).isSmall
  obtain ⟨inline, inlineShown, inlineChange, inlineClasses⟩ :=
    Directive.Meter.exists_html start stop
  have line := isLine_meter plain.name meter.start meter.stop
  obtain ⟨text, unit⟩ := line.ofUnit_eq
  have read := line.tidy.ofBlock_eq padded
  rw [unit] at read
  obtain ⟨block, blockShown, blockStart, blockStop, blockClasses⟩ :=
    exists_blockHtml_meter base index plain.named rfl rfl start stop read
  exact ⟨inline, block, changeClasses meter.start meter.stop,
    (Directive.renderCode?_write site plain.writable rest).trans (congrArg some inlineShown),
    blockShown, inlineChange, blockStart, blockStop, inlineClasses, blockClasses,
    isChange_changeClasses meter.start meter.stop⟩

/-- Moves, progress rolls and meters look alike in both forms: a roll has the same score, the same
dice and the classes of its outcome, a meter has the same values and the class of its change.
Fields at the end of the code may be left out if they are what a missing field stands for. -/
theorem forms_agree (site : Site) (base : Text) (index : Index) :
    (∀ move : Directive.Move, move.IsPlain →
      ∀ count, (∀ field ∈ (Directive.move move).fields.drop count, field.IsDefault) →
      ∀ source, Encloses (moveLine move.name) (rollLine move) source →
        RollsAgree site base index ((Directive.move move).write count) source move.roll) ∧
    (∀ progress : Directive.Progress, progress.IsPlain →
      ∀ count, (∀ field ∈ (Directive.progress progress).fields.drop count, field.IsDefault) →
      ∀ source, Encloses (moveLine progress.name) (progressLine progress) source →
        RollsAgree site base index ((Directive.progress progress).write count) source
          progress.roll) ∧
    (∀ meter : Directive.Meter, meter.IsPlain →
      ∀ count, (∀ field ∈ (Directive.meter meter).fields.drop count, field.IsDefault) →
      ∀ source, Text.Padded (meterLine meter) source →
        MetersAgree site base index ((Directive.meter meter).write count) source meter.start
          meter.stop) :=
  ⟨fun _ plain _ rest _ encloses => rollsAgree_move site base index plain rest encloses,
    fun _ plain _ rest _ encloses => rollsAgree_progress site base index plain rest encloses,
    fun _ plain _ rest _ padded => metersAgree_meter site base index plain rest padded⟩

/-- A move on one line with a brace in its name and a negative number, a progress roll over three
lines, and a meter that falls below zero. -/
theorem forms_agree_kira :
    RollsAgree {} [] .empty "iv-move:Face \x7b Danger|wits|3|2|-1|4|4".toList
        "move \"Face \x7b Danger\" \x7b roll \"wits\" action=3 adds=-1 stat=2 vs1=4 vs2=4 \x7d".toList
        ⟨4, 4, 4⟩ ∧
      RollsAgree {} [] .empty "iv-progress:Fulfill|8|3|9".toList
        "move \"Fulfill\" \x7b\n  progress-roll score=8 vs1=3 vs2=9\n\x7d".toList ⟨8, 3, 9⟩ ∧
      MetersAgree {} [] .empty "iv-meter:Momentum|2|-3".toList
        "meter \"Momentum\" from=2 to=-3".toList 2 (-3) := by
  obtain ⟨moves, progresses, meters⟩ := forms_agree {} [] .empty
  have short {numbers : List Int} (few : ∀ number ∈ numbers, number.natAbs < 10 ^ 9) :
      ∀ number ∈ numbers, Numeral.IsShort number :=
    fun number member => Numeral.isShort_of_lt (few number member)
  refine ⟨?_, ?_, ?_⟩
  · let move : Directive.Move := ⟨"Face \x7b Danger", "wits", 3, 2, -1, 4, 4, []⟩
    have plain : move.IsPlain := ⟨⟨by decide, by decide, by decide, by decide, by decide⟩,
      by decide, ⟨by decide, by decide, by decide, by decide, by decide⟩, short (by decide),
      by decide, by decide⟩
    have text : moveLine move.name ++ " \x7b " ++ rollLine move ++ " \x7d" =
        "move \"Face \x7b Danger\" \x7b roll \"wits\" action=3 adds=-1 stat=2 vs1=4 vs2=4 \x7d".toList := by
      decide +kernel
    have code : (Directive.move move).write 7 =
        "iv-move:Face \x7b Danger|wits|3|2|-1|4|4".toList := by decide +kernel
    rw [← text, ← code]
    exact moves move plain 7 (by decide) _ (.line (.refl _))
  · let progress : Directive.Progress := ⟨"Fulfill", 8, 3, 9, []⟩
    have plain : progress.IsPlain := ⟨⟨by decide, by decide, by decide, by decide, by decide⟩,
      by decide, short (by decide), by decide, by decide⟩
    have indented : Text.Padded (progressLine progress) ("  ".toList ++ progressLine progress) :=
      ⟨"  ".toList, [], (List.append_nil _).symm, by simp [Text.isBlank]⟩
    have text : Text.unlines [moveLine progress.name ++ " \x7b", "  ".toList ++ progressLine progress,
        "\x7d"] = "move \"Fulfill\" \x7b\n  progress-roll score=8 vs1=3 vs2=9\n\x7d".toList := by
      decide +kernel
    have code : (Directive.progress progress).write 4 = "iv-progress:Fulfill|8|3|9".toList := by
      decide +kernel
    rw [← text, ← code]
    exact progresses progress plain 4 (by decide) _ (.lines (.refl _) indented (.refl _))
  · let meter : Directive.Meter := ⟨"Momentum", 2, -3⟩
    have plain : meter.IsPlain :=
      ⟨⟨by decide, by decide, by decide, by decide, by decide⟩, by decide, short (by decide)⟩
    have text : meterLine meter = "meter \"Momentum\" from=2 to=-3".toList := by decide +kernel
    have code : (Directive.meter meter).write 3 = "iv-meter:Momentum|2|-3".toList := by
      decide +kernel
    rw [← text, ← code]
    exact meters meter plain 3 (by decide) _ (.refl _)

end Mechanics

end CampaignPress
