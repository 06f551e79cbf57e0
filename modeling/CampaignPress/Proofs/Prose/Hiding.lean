/-
This file says what becomes of code while a pass goes over a text. A pass sees
the text with its code hidden and the code is put back into what it gives. What
is hidden is the code of markdown exactly if that stays on its lines and no run of
backticks that is text has a shorter one behind it. Elsewhere a pass may change
code, or miss what is none.
-/
import CampaignPress.Proofs.Prose.Backtick

namespace CampaignPress

namespace CodeSpan

/-- A pass over a text without fences sees the text with its code hidden, and gets the code back. -/
theorem map_eq_of_plain {text : Text} (plain : ∀ line ∈ Text.lines text, Fence.opened? line = none)
    (pass : Text → Text × List Text) :
    Prose.map pass text = (restore (hide text).2 (pass (hide text).1).1).map
      fun restored => (restored, (pass (hide text).1).2) := by
  have source : Segment.toText ⟨false, Text.lines text⟩ = text := Text.unlines_lines text
  rw [Prose.map, Segment.ofText_of_plain plain, List.mapM_cons, List.mapM_nil, Prose.mapSegment,
    if_neg Bool.false_ne_true, source]
  dsimp only
  cases restore (hide text).2 (pass (hide text).1).1 with
  | error fault => rfl
  | ok restored =>
    exact congrArg Except.ok (Prose.assemble_singleton (restored, (pass (hide text).1).2))

/-- The code that is hidden from the passes is the code of markdown exactly if no code goes beyond
its line, and no run that is text has a shorter one behind it on its line. Then a pass over a text
without fences sees the text around the code as it is, and gets the code back. -/
theorem hides_code_of_markdown_iff (text : Text) :
    (hide text = Piece.hideFrom 0 (Piece.ofText text) ↔ Piece.AllStayOnLine (Piece.ofText text)) ∧
    (Piece.AllStayOnLine (Piece.ofText text) →
      (∀ line ∈ Text.lines text, Fence.opened? line = none) → ∀ pass, Prose.map pass text =
        let (seen, code) := Piece.hideFrom 0 (Piece.ofText text)
        (restore code (pass seen).1).map fun restored => (restored, (pass seen).2)) := by
  refine ⟨hide_eq_iff text, fun stays plain pass => ?_⟩
  rw [map_eq_of_plain plain, (hide_eq_iff text).2 stays]

/-- Code beside a link, on one line. -/
theorem hides_code_of_markdown_beside_link :
    let text := "`a` [[b]]".toList
    let site := Site.ofNotes [] [] [] .standard
    Piece.AllStayOnLine (Piece.ofText text) ∧
      (∀ line ∈ Text.lines text, Fence.opened? line = none) ∧
      Prose.map (Prose.rewriteAll site) text = .ok ("`a` [b](/b)".toList, ["b".toList]) := by
  intro text site
  obtain ⟨hidden, passes⟩ := hides_code_of_markdown_iff text
  have stays : Piece.AllStayOnLine (Piece.ofText text) := hidden.1 (by decide +kernel)
  have plain : ∀ line ∈ Text.lines text, Fence.opened? line = none := by decide +kernel
  refine ⟨stays, plain, ?_⟩
  rw [passes stays plain]
  decide +kernel

/-- A link in code that goes beyond its line is rewritten, and one behind a run that is text is
not. -/
theorem exists_code_seen :
    let broken := "`[[a]]\nb`".toList
    let unclosed := "``[[a]]`".toList
    let site := Site.ofNotes [] [] [] .standard
    (∀ text ∈ [broken, unclosed], (∀ line ∈ Text.lines text, Text.isBlankText line = false) ∧
      '\\' ∉ text ∧ '<' ∉ text ∧ hide text ≠ Piece.hideFrom 0 (Piece.ofText text)) ∧
    Piece.ofText broken = [.code 1 ("[[a]]\nb".toList.map .char)] ∧ (hide broken).2 = [] ∧
    Prose.map (Prose.rewriteAll site) broken = .ok ("`[a](/a)\nb`".toList, ["a".toList]) ∧
    Piece.ofText unclosed = .run 2 :: "[[a]]".toList.map .char ++ [.run 1] ∧
    (hide unclosed).2 = ["`[[a]]`".toList] ∧
    Prose.map (Prose.rewriteAll site) unclosed = .ok (unclosed, []) := by
  decide +kernel

end CodeSpan

end CampaignPress
