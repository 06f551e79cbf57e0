/-
This file shows that cutting a wiki link takes back what is written for it: the
target ends at the first bar or closing bracket, and the text to show at the
first closing bracket after the bar.
-/
import CampaignPress.Proofs.Text.Cut
import CampaignPress.WikiLink

namespace CampaignPress

namespace WikiLink

variable {text after : Text} {link : WikiLink}

/-! ### Links as they are written -/

/-- A link as it stands in a text. -/
def toText (link : WikiLink) : Text :=
  '[' :: '[' :: (link.target ++ (link.shown.map ('|' :: ·)).getD [] ++ [']', ']'])

/-- A link whose parts end where they are cut. -/
structure IsWritable (link : WikiLink) : Prop where
  target_ne_nil : link.target ≠ []
  target : ∀ c ∈ link.target, c ≠ ']' ∧ c ≠ '|'
  shown : ∀ shown ∈ link.shown, shown ≠ [] ∧ ']' ∉ shown

theorem isWritable_iff : link.IsWritable ↔ link.target ≠ [] ∧ (']' ∉ link.target ∧ '|' ∉ link.target) ∧
    ∀ shown ∈ link.shown, shown ≠ [] ∧ ']' ∉ shown := by
  constructor
  · rintro ⟨nonempty, plain, shown⟩
    exact ⟨nonempty, ⟨fun member => (plain _ member).1 rfl, fun member => (plain _ member).2 rfl⟩,
      shown⟩
  · rintro ⟨nonempty, ⟨noBracket, noBar⟩, shown⟩
    refine ⟨nonempty, fun c member => ⟨?_, ?_⟩, shown⟩
    · rintro rfl
      exact noBracket member
    · rintro rfl
      exact noBar member

instance : DecidablePred IsWritable := fun _ => decidable_of_iff _ isWritable_iff.symm

/-- The first closing bracket of a written link is followed by another. -/
theorem IsWritable.exists_toText (writable : link.IsWritable) :
    ∃ opened, ']' ∉ opened ∧ link.toText = '[' :: opened ++ [']', ']'] := by
  refine ⟨'[' :: (link.target ++ (link.shown.map ('|' :: ·)).getD []), ?_, rfl⟩
  have target : ']' ∉ link.target := fun member => (writable.target _ member).1 rfl
  have shown : ']' ∉ (link.shown.map ('|' :: ·)).getD [] := by
    cases option : link.shown with
    | none => exact List.not_mem_nil
    | some shown => simpa using (writable.shown shown option).2
  simp [target, shown]

theorem getLast?_toText (link : WikiLink) : link.toText.getLast? = some ']' := by
  rw [toText, ← List.cons_append, ← List.cons_append]
  exact List.getLast?_append_of_ne_nil _ (List.cons_ne_nil _ _)

/-! ### Cutting what is written -/

theorem cutOpened?_target {target : Text} (nonempty : target ≠ [])
    (plain : ∀ c ∈ target, c ≠ ']' ∧ c ≠ '|') (rest : Text) :
    cutOpened? (target ++ ']' :: ']' :: rest) = some (⟨target, none⟩, rest) := by
  have inside : ∀ c ∈ target, (c ≠ ']' && c ≠ '|') = true := fun c member => by
    simpa using plain c member
  rw [cutOpened?]
  dsimp only
  rw [Text.takeWhile_append_cons inside (by decide), Text.dropWhile_append_cons inside (by decide)]
  simp [nonempty, close?, guard]

theorem cutOpened?_shown {target shown : Text} (nonempty : target ≠ [])
    (plain : ∀ c ∈ target, c ≠ ']' ∧ c ≠ '|') (someShown : shown ≠ []) (single : ']' ∉ shown)
    (rest : Text) : cutOpened? (target ++ '|' :: (shown ++ ']' :: ']' :: rest)) =
      some (⟨target, some shown⟩, rest) := by
  have inside : ∀ c ∈ target, (c ≠ ']' && c ≠ '|') = true := fun c member => by
    simpa using plain c member
  have insideShown : ∀ c ∈ shown, decide (c ≠ ']') = true := fun c member =>
    decide_eq_true fun same => single (same ▸ member)
  rw [cutOpened?]
  dsimp only
  rw [Text.takeWhile_append_cons inside (by decide), Text.dropWhile_append_cons inside (by decide)]
  split
  · rename_i more same
    obtain rfl := (List.cons.inj same).2
    rw [Text.takeWhile_append_cons insideShown (by decide),
      Text.dropWhile_append_cons insideShown (by decide)]
    simp [nonempty, someShown, close?, guard]
  · rename_i other
    exact absurd rfl (other _)

/-- A link that is written is cut again, whatever follows it. -/
theorem IsWritable.cut?_toText (writable : link.IsWritable) (after : Text) :
    cut? (link.toText ++ after) = some (link, after) := by
  obtain ⟨target, shown⟩ := link
  obtain ⟨nonempty, plain, option⟩ := writable
  cases shown with
  | none =>
    have found := cutOpened?_target nonempty plain after
    simpa [toText, cut?] using found
  | some shown =>
    obtain ⟨someShown, single⟩ := option shown rfl
    have found := cutOpened?_shown nonempty plain someShown single after
    simpa [toText, cut?] using found

/-! ### What is cut -/

theorem eq_of_close? {rest : Text} (found : close? text = some rest) :
    text = ']' :: ']' :: rest := by
  rw [close?.eq_def] at found
  split at found
  · obtain rfl := Option.some.inj found
    rfl
  · exact nomatch found

theorem nonempty_of_guard {given : Unit}
    (passed : (guard (!text.isEmpty) : Option Unit) = some given) : text ≠ [] := by
  rintro rfl
  exact nomatch passed

/-- A link that is cut is writable, and stands at the beginning of the text. -/
theorem isWritable_of_cut? (found : cut? text = some (link, after)) :
    link.IsWritable ∧ text = link.toText ++ after := by
  rw [cut?.eq_def] at found
  split at found
  · rename_i opened
    rw [cutOpened?] at found
    simp only at found
    have split := List.takeWhile_append_dropWhile (p := fun c => c ≠ ']' && c ≠ '|') (l := opened)
    have plain : ∀ c ∈ opened.takeWhile (fun c => c ≠ ']' && c ≠ '|'), c ≠ ']' ∧ c ≠ '|' :=
      fun c member => by simpa using List.mem_takeWhile_imp member
    obtain ⟨_, given, found⟩ := Option.bind_eq_some_iff.1 found
    have nonempty := nonempty_of_guard given
    split at found
    · rename_i more bar
      have splitMore := List.takeWhile_append_dropWhile (p := (· ≠ ']')) (l := more)
      obtain ⟨_, givenShown, found⟩ := Option.bind_eq_some_iff.1 found
      have nonemptyShown := nonempty_of_guard givenShown
      obtain ⟨rest, closed, same⟩ := Option.bind_eq_some_iff.1 found
      obtain ⟨rfl, rfl⟩ := Prod.mk.inj (Option.some.inj same)
      rw [eq_of_close? closed] at splitMore
      rw [bar, ← splitMore] at split
      refine ⟨⟨nonempty, plain, fun shown option => ?_⟩, ?_⟩
      · obtain rfl := Option.some.inj option
        exact ⟨nonemptyShown, fun member => by simpa using List.mem_takeWhile_imp member⟩
      · refine (congrArg ('[' :: '[' :: ·) split.symm).trans ?_
        simp [toText]
    · obtain ⟨rest, closed, same⟩ := Option.bind_eq_some_iff.1 found
      obtain ⟨rfl, rfl⟩ := Prod.mk.inj (Option.some.inj same)
      rw [eq_of_close? closed] at split
      refine ⟨⟨nonempty, plain, fun shown option => nomatch option⟩, ?_⟩
      refine (congrArg ('[' :: '[' :: ·) split.symm).trans ?_
      simp [toText]
  · exact nomatch found

/-- A text whose first closing bracket stands alone begins with no link. -/
theorem cut?_eq_none_of_closing {before : Text} (first : ']' ∉ before)
    (alone : ∀ rest, after ≠ ']' :: rest) : cut? (before ++ ']' :: after) = none := by
  refine Option.eq_none_iff_forall_ne_some.2 fun ⟨link, later⟩ found => ?_
  obtain ⟨writable, same⟩ := isWritable_of_cut? found
  obtain ⟨opened, notOpened, written⟩ := writable.exists_toText
  have notBefore : ']' ∉ '[' :: opened := by simpa using notOpened
  rw [written, List.append_assoc] at same
  change before ++ ']' :: after = ('[' :: opened) ++ ']' :: (']' :: later) at same
  exact alone later (Text.append_cons_inj first notBefore same).2

end WikiLink

end CampaignPress
