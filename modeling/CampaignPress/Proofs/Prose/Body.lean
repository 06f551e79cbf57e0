/-
This file says which characters the preparation of a text may bring in.
-/
import CampaignPress.Proofs.Text.Cut
import CampaignPress.Prose.Body

namespace CampaignPress

namespace Text

theorem mem_of_mem_joinBreaks {c : Char} {text : Text} (member : c ∈ joinBreaks text) :
    c ∈ text := by
  fun_induction joinBreaks text with
  | case1 => exact member
  | case2 rest inductionHypothesis =>
    rcases List.mem_cons.1 member with rfl | later
    · exact List.mem_cons_of_mem _ List.mem_cons_self
    · exact List.mem_cons_of_mem _ (List.mem_cons_of_mem _ (inductionHypothesis later))
  | case3 d rest _ inductionHypothesis =>
    rcases List.mem_cons.1 member with rfl | later
    · exact List.mem_cons_self
    · exact List.mem_cons_of_mem _ (inductionHypothesis later)

theorem mem_normalizeBreaks {c : Char} {text : Text} (member : c ∈ normalizeBreaks text) :
    c = '\n' ∨ (c ∈ text ∧ c ≠ '\r') := by
  obtain ⟨d, inJoined, same⟩ := List.mem_map.1 member
  by_cases isReturn : d = '\r'
  · rw [if_pos isReturn] at same
    exact .inl same.symm
  · rw [if_neg isReturn] at same
    obtain rfl := same
    exact .inr ⟨mem_of_mem_joinBreaks inJoined, isReturn⟩

end Text

namespace Prose

theorem mem_separateFences {c : Char} {text : Text} (member : c ∈ separateFences text) :
    c = '\n' ∨ c ∈ text := by
  fun_induction separateFences text with
  | case1 => exact .inr member
  | case2 rest inductionHypothesis =>
    rcases List.mem_cons.1 member with rfl | later
    · exact .inr List.mem_cons_self
    · exact (inductionHypothesis later).imp_right (List.mem_cons_of_mem _)
  | case3 d rest isOther after found inductionHypothesis =>
    have split := Text.after?_eq_some_iff.1 found
    rcases List.mem_cons.1 member with rfl | later
    · exact .inr List.mem_cons_self
    · rcases List.mem_cons.1 later with rfl | later
      · exact .inl rfl
      · rw [split]
        rcases List.mem_append.1 later with inFence | inAfter
        · exact .inr (List.mem_cons_of_mem _ (List.mem_append_left _ inFence))
        · exact (inductionHypothesis inAfter).imp_right fun inside =>
            List.mem_cons_of_mem _ (List.mem_append_right _ inside)
  | case4 d rest isOther found inductionHypothesis =>
    rcases List.mem_cons.1 member with rfl | later
    · exact .inr List.mem_cons_self
    · exact (inductionHypothesis later).imp_right (List.mem_cons_of_mem _)

/-- A prepared text holds no carriage returns, and nothing but line breaks that was not there
before. -/
theorem mem_prepare {c : Char} {text : Text} (member : c ∈ prepare text) :
    c = '\n' ∨ (c ∈ text ∧ c ≠ '\r') := by
  rcases mem_separateFences member with isBreak | inNormal
  · exact .inl isBreak
  · exact Text.mem_normalizeBreaks inNormal

theorem return_not_mem_prepare (text : Text) : '\r' ∉ prepare text := fun member =>
  (mem_prepare member).elim (by decide) fun found => found.2 rfl

end Prose

end CampaignPress
