/-
This file says what the last name of a path is made of. Its stem and its ending
are the name together, and the name is part of the text: what follows the last dot
of a text, if no slash follows that dot, is the ending of the text as a path.
-/
import CampaignPress.Path
import CampaignPress.Proofs.Text.Cut
import CampaignPress.Proofs.Text.Lines

namespace CampaignPress

namespace Text

/-- What follows the last separator is the end of the last piece. -/
theorem exists_splitOn_append {separator : Char} (before : Text) {last : Text}
    (single : separator ∉ last) :
    ∃ pieces start, splitOn separator (before ++ last) = pieces ++ [start ++ last] := by
  induction before with
  | nil => exact ⟨[], [], splitOn_of_not_mem single⟩
  | cons c before inductionHypothesis =>
    obtain ⟨pieces', start, same⟩ := inductionHypothesis
    rw [splitOn, splitWhere] at same
    rw [splitOn, splitWhere, List.cons_append, pieces]
    dsimp only at same ⊢
    split
    · exact ⟨[] :: pieces', start, congrArg ([] :: ·) same⟩
    · cases pieces' with
      | nil =>
        obtain ⟨first, others⟩ := List.cons.inj same
        exact ⟨[], c :: start, by rw [first, others]; rfl⟩
      | cons piece pieces' =>
        obtain ⟨first, others⟩ := List.cons.inj same
        exact ⟨(c :: piece) :: pieces', start, by rw [first, others]; rfl⟩

end Text

namespace Path

theorem stem_append_ending (path : Path) : path.stem ++ path.ending = path.name := by
  rw [stem, ending, cutEnding]
  split
  · rename_i before after cut
    split
    · exact List.append_nil _
    · exact (Text.cutAtLast_eq_some_iff.1 cut).1.symm
  · exact List.append_nil _

/-- The last name of a path is part of the path. -/
theorem mem_of_mem_name {c : Char} {text : Text} (member : c ∈ (ofText text).name) : c ∈ text := by
  rw [name] at member
  cases found : (ofText text).names.getLast? with
  | none =>
    rw [found] at member
    exact absurd member List.not_mem_nil
  | some last =>
    rw [found] at member
    exact Text.mem_of_mem_splitOn (List.mem_filter.1 (List.mem_of_getLast? found)).1 member

/-- The last name of a path ends as the path does. -/
theorem exists_name_ofText (before : Text) {last : Text} (single : '/' ∉ last)
    (long : 2 ≤ last.length) : ∃ start, (ofText (before ++ last)).name = start ++ last := by
  obtain ⟨pieces, start, same⟩ := Text.exists_splitOn_append before single
  have named : isName (start ++ last) := by
    have longer : 2 ≤ (start ++ last).length := by
      rw [List.length_append]
      omega
    rw [isName, Bool.and_eq_true, Bool.not_eq_true', List.isEmpty_eq_false_iff,
      decide_eq_true_eq]
    constructor <;> intro short <;> rw [short] at longer <;> exact absurd longer (by decide)
  refine ⟨start, ?_⟩
  rw [name, ofText]
  dsimp only
  rw [same, List.filter_append, List.filter_cons_of_pos named, List.filter_nil,
    List.getLast?_concat]
  rfl

/-- The ending of a path is what follows its last dot, unless the dot comes first. -/
theorem ending_ofText (before : Text) {ending' : Text} (noSlash : '/' ∉ ending')
    (noDot : '.' ∉ ending') (nonempty : ending' ≠ []) :
    (ofText (before ++ '.' :: ending')).ending = [] ∨
      (ofText (before ++ '.' :: ending')).ending = '.' :: ending' := by
  have single : '/' ∉ '.' :: ending' := by simpa using noSlash
  have long : 2 ≤ ('.' :: ending').length := by
    have := List.length_pos_of_ne_nil nonempty
    rw [List.length_cons]
    omega
  obtain ⟨start, same⟩ := exists_name_ofText before single long
  rw [ending, same, cutEnding, Text.cutAtLast_eq_some_iff.2 ⟨rfl, noDot⟩]
  dsimp only
  split
  · exact .inl rfl
  · exact .inr rfl

end Path

end CampaignPress
