/-
This file tells what a reader learns of rolls and meters inside a line. Each
template is a list of elements, and of those with classes only the score, the
dice and what holds them mean something to the vocabulary.
-/
import CampaignPress.Proofs.Mechanics.Directive
import CampaignPress.Proofs.Mechanics.Inline
import CampaignPress.Proofs.Mechanics.Verdict

namespace CampaignPress

namespace Directive

open Html (plainText entries leadingText)

/-- The classes of rolls inside a line. -/
def vocabulary : Html.Vocabulary :=
  ⟨mechanics, "iv-inline-score", "iv-inline-challenge-die vs1", "iv-inline-challenge-die vs2"⟩

@[simp]
theorem entries_bare_append (content : Text) (rest : Html) :
    entries (bare content ++ rest) = entries rest :=
  Html.entries_element_append "span" [] [.text content] rest

/-- What holds a roll has the classes of its outcome. -/
theorem beside?_classList (roll : Roll) :
    Html.beside? mechanics (classList (mechanics :: roll.classes)) = some roll.classes := by
  rw [Roll.classes]
  cases roll.outcome <;> cases roll.isMatch <;> decide

theorem exists_dice {roll : Roll} (small : roll.IsSmall) (score versus : Text) :
    ∃ html, dice roll score versus = .ok html ∧
      ∀ rest, entries (html ++ rest) = vocabulary.entries roll ++ entries rest := by
  refine ⟨bare score ++ span "iv-inline-score" (plainText (Numeral.digits roll.score)) ++
    bare versus ++ span "iv-inline-challenge-die vs1" (plainText (Numeral.digits roll.first)) ++
    bare "|" ++ span "iv-inline-challenge-die vs2" (plainText (Numeral.digits roll.second)), ?_, ?_⟩
  · rw [dice, Html.number_eq small.score, Html.number_eq small.first, Html.number_eq small.second]
    rfl
  · intro rest
    simp only [span, List.append_assoc, entries_bare_append, Html.entries_classed_append,
      Html.leadingText_plainText, Html.entries_plainText, List.nil_append]
    rfl

theorem Move.exists_html {move : Move} (small : move.roll.IsSmall) :
    ∃ html, move.toHtml = .ok html ∧
      html.verdict vocabulary = .single move.roll move.roll.classes := by
  obtain ⟨diceHtml, diceShown, diceEntries⟩ := exists_dice small ";" "vs"
  refine ⟨_, by rw [toHtml, diceShown]; rfl, ?_⟩
  refine Html.verdict_eq_single (by decide) [] []
    [("iv-inline-move-name iv-inline-link", move.name),
      ("iv-inline-stat", "(" ++ move.stat ++ ")"), ("iv-inline-outcome-icon", [])]
    (if move.roll.isMatch then [("iv-inline-match", "match")] else [])
    ("iv-inline-move-name iv-inline-link" :: "iv-inline-stat" :: "iv-inline-outcome-icon" ::
      if move.roll.isMatch then ["iv-inline-match"] else [])
    ?_ ?_ ?_ (beside?_classList move.roll)
  · simp only [span, List.append_assoc, Html.entries_classed, Html.leadingText_classed_append,
      Html.entries_classed_append, Html.leadingText_plainText, Html.entries_plainText,
      List.nil_append, Html.leadingText_nil, Html.entries_nil, diceEntries]
    cases move.roll.isMatch <;> rfl
  · cases move.roll.isMatch <;> rfl
  · cases move.roll.isMatch <;> decide

theorem Progress.exists_html {progress : Progress} (small : progress.roll.IsSmall) :
    ∃ html, progress.toHtml = .ok html ∧
      html.verdict vocabulary = .single progress.roll progress.roll.classes := by
  obtain ⟨diceHtml, diceShown, diceEntries⟩ := exists_dice small "; " " vs "
  refine ⟨_, by rw [toHtml, diceShown]; rfl, ?_⟩
  refine Html.verdict_eq_single (by decide) [] []
    [("iv-inline-progress-name iv-inline-link", progress.name), ("iv-inline-outcome-icon", [])] []
    ["iv-inline-progress-name iv-inline-link", "iv-inline-outcome-icon"] ?_ rfl
    (by decide) (beside?_classList progress.roll)
  have whole := diceEntries []
  rw [List.append_nil] at whole
  simp only [span, List.append_assoc, Html.entries_classed, Html.leadingText_classed_append,
    Html.entries_classed_append, Html.leadingText_plainText, Html.entries_plainText,
    List.nil_append, Html.leadingText_nil, Html.entries_nil, whole]
  rfl

theorem Meter.exists_html {meter : Meter} (start : Numeral.IsSmall meter.start)
    (stop : Numeral.IsSmall meter.stop) : ∃ html, meter.toHtml = .ok html ∧
      html.textsIn "iv-inline-meter-change" =
        [Numeral.digits meter.start ++ " → " ++ Numeral.digits meter.stop] ∧
      html.classesBeside mechanics = [changeClasses meter.start meter.stop] := by
  have joined : leadingText (plainText (Numeral.digits meter.start) ++ plainText " → " ++
      plainText (Numeral.digits meter.stop)) =
        Numeral.digits meter.start ++ " → " ++ Numeral.digits meter.stop := by
    simp [leadingText, plainText]
  have direction : (if 0 < meter.change then ["meter-increase"] else if meter.change < 0 then
      ["meter-decrease"] else [] : List Text) = changeClasses meter.start meter.stop := by
    simp only [changeClasses, change, Int.sub_pos, sub_neg]
  obtain ⟨html, shown, read⟩ : ∃ html, meter.toHtml = .ok html ∧ entries html =
      [(classList (mechanics :: changeClasses meter.start meter.stop), []),
        ("iv-inline-meter-name", meter.name ++ ":".toList),
        ("iv-inline-meter-change",
          Numeral.digits meter.start ++ " → ".toList ++ Numeral.digits meter.stop)] := by
    refine ⟨_, by rw [toHtml, Html.number_eq start, Html.number_eq stop]; rfl, ?_⟩
    simp only [span, Html.entries_classed, Html.leadingText_classed_append,
      Html.entries_classed_append, Html.leadingText_plainText, Html.entries_plainText,
      List.nil_append, joined, direction]
    rfl
  refine ⟨html, shown, ?_, ?_⟩
  · rw [Html.textsIn, read]
    rcases changeClasses_eq meter.start meter.stop with same | same | same <;> rw [same] <;> rfl
  · rw [Html.classesBeside, read]
    rcases changeClasses_eq meter.start meter.stop with same | same | same <;> rw [same] <;> rfl

/-- Code that can be written is shown as its directive. -/
theorem renderCode?_write (site : Site) {directive : Directive} (writable : directive.Writable)
    {count : Nat} (rest : ∀ field ∈ directive.fields.drop count, field.IsDefault) :
    renderCode? site (directive.write count) = some (directive.toHtml site) := by
  have complete : directive.kind.required.find? (fun position =>
      (textAt ((directive.fields.take count).map Field.write) position).isEmpty) = none :=
    List.find?_eq_none.2 fun position needed => by
      rw [List.isEmpty_iff]
      exact writable.textAt_ne_nil rest needed
  refine renderCode?_of_read? site ?_
  rw [read?, writable.split?_write rest]
  simp only [Option.bind_eq_bind, Option.bind_some, Kind.ofName?_name, complete]
  exact congrArg (fun directive => some (Except.ok directive))
    (ofFields_eq writable.steps fun position field there =>
      Field.isReadAt_take writable.fields rest there)

end Directive

end CampaignPress
