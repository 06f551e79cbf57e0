/-
This file tells which directives can be shown. No number beyond the limit is
read from a field, so every directive can be but for a move whose score, a sum of
three numbers, passes the limit.
-/
import CampaignPress.Mechanics.Inline
import CampaignPress.Proofs.Numeral
import CampaignPress.Proofs.Value.Text

namespace CampaignPress

namespace Html

theorem number_eq {value : Int} (small : Numeral.IsSmall value) :
    number value = .ok (plainText (Numeral.digits value)) := by
  rw [number, Numeral.write_eq small]
  rfl

theorem succeeds_number {value : Int} (small : Numeral.IsSmall value) : Succeeds (number value) :=
  ⟨_, number_eq small⟩

theorem exists_of_number {value : Int} {html : Html} (shown : number value = .ok html) :
    ∃ content, Numeral.write value = .ok content ∧ html = plainText content := by
  obtain ⟨content, written, same⟩ := bind_eq_ok.1 shown
  exact ⟨content, written, (Except.ok.inj same).symm⟩

end Html

/-- A roll whose score and dice can be written. -/
structure Roll.IsSmall (roll : Roll) : Prop where
  score : Numeral.IsSmall roll.score
  first : Numeral.IsSmall roll.first
  second : Numeral.IsSmall roll.second

namespace Directive

/-! ### Numbers -/

/-- The numbers that a directive holds. -/
def numbers : Directive → List Int
  | .move record => [record.action, record.statValue, record.adds, record.first, record.second]
  | .meter record => [record.start, record.stop]
  | .trackAdvance record => [record.start, record.stop, record.steps]
  | .progress record => [record.score, record.first, record.second]
  | _ => []

theorem isSmall_numberAt {otherwise : Int} (few : otherwise.natAbs < 10 ^ 9) (fields : List Text)
    (position : Nat) : Numeral.IsSmall (numberAt fields position otherwise) :=
  Numeral.isSmall_readLeading (Numeral.isSmall_of_lt few) _

theorem isSmall_of_mem_numbers_ofFields (kind : Kind) (fields : List Text) :
    ∀ number ∈ (ofFields kind fields).numbers, Numeral.IsSmall number := by
  have zero (position : Nat) : Numeral.IsSmall (numberAt fields position 0) :=
    isSmall_numberAt (by decide) fields position
  have one (position : Nat) : Numeral.IsSmall (numberAt fields position 1) :=
    isSmall_numberAt (by decide) fields position
  have steps : Numeral.IsSmall (if numberAt fields 5 1 = 0 then 1 else numberAt fields 5 1) := by
    split
    · exact Numeral.isSmall_of_lt (by decide)
    · exact one 5
  cases kind <;> simp [ofFields, numbers, zero, steps]

theorem exists_of_read? {code : Text} {directive : Directive}
    (read : read? code = some (.ok directive)) :
    ∃ kind fields, directive = ofFields kind fields := by
  rw [read?] at read
  obtain ⟨⟨name, fields⟩, -, read⟩ := Option.bind_eq_some_iff.1 read
  obtain ⟨kind, -, read⟩ := Option.bind_eq_some_iff.1 read
  split at read
  · exact nomatch Option.some.inj read
  · exact ⟨kind, fields, (Except.ok.inj (Option.some.inj read)).symm⟩

/-- The numbers of a directive that is read can be written. -/
theorem isSmall_of_read? {code : Text} {directive : Directive}
    (read : read? code = some (.ok directive)) :
    ∀ number ∈ directive.numbers, Numeral.IsSmall number := by
  obtain ⟨kind, fields, rfl⟩ := exists_of_read? read
  exact isSmall_of_mem_numbers_ofFields kind fields

theorem TrackAdvance.isSmall_boxes {track : TrackAdvance} (small : Numeral.IsSmall track.stop) :
    Numeral.IsSmall track.boxes := by
  have fewer : track.boxes.natAbs ≤ track.stop.natAbs := by
    rw [boxes, ticksPerBox, Int.fdiv_eq_ediv_of_nonneg _ (by decide)]
    omega
  exact fewer.trans_lt small

/-! ### Showing -/

theorem succeeds_dice {roll : Roll} {score versus : Text} (scoreSmall : Numeral.IsSmall roll.score)
    (firstSmall : Numeral.IsSmall roll.first) (secondSmall : Numeral.IsSmall roll.second) :
    Succeeds (dice roll score versus) :=
  (Html.succeeds_number scoreSmall).bind fun _ => (Html.succeeds_number firstSmall).bind fun _ =>
    (Html.succeeds_number secondSmall).bind fun _ => .ok _

/-- A directive with numbers within the limit can be shown if the score of a move is. -/
theorem succeeds_toHtml (site : Site) {directive : Directive}
    (small : ∀ number ∈ directive.numbers, Numeral.IsSmall number)
    (score : ∀ move, directive = .move move → Numeral.IsSmall move.roll.score) :
    Succeeds (directive.toHtml site) := by
  cases directive with
  | move record =>
    simp only [numbers, List.forall_mem_cons] at small
    obtain ⟨-, -, -, first, second, -⟩ := small
    exact (succeeds_dice (score record rfl) first second).bind fun _ => .ok _
  | meter record =>
    simp only [numbers, List.forall_mem_cons] at small
    obtain ⟨start, stop, -⟩ := small
    exact (Html.succeeds_number start).bind fun _ => (Html.succeeds_number stop).bind fun _ => .ok _
  | trackAdvance record =>
    simp only [numbers, List.forall_mem_cons] at small
    obtain ⟨-, stop, steps, -⟩ := small
    exact (Html.succeeds_number steps).bind fun _ =>
      (Html.succeeds_number (TrackAdvance.isSmall_boxes stop)).bind fun _ => .ok _
  | progress record =>
    simp only [numbers, List.forall_mem_cons] at small
    obtain ⟨whole, first, second, -⟩ := small
    exact (succeeds_dice whole first second).bind fun _ => .ok _
  | oracle | initiative | trackCreate | noRoll | entityCreate => exact .ok _

/-- Code that reads as a directive is shown as the directive. -/
theorem renderCode?_of_read? (site : Site) {code : Text} {directive : Directive}
    (read : read? code = some (.ok directive)) :
    renderCode? site code = some (directive.toHtml site) := by
  rw [renderCode?, read]
  rfl

end Directive

end CampaignPress
