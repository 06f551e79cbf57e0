/-
This file describes how a text is read for links. A cutter takes a link off the
beginning of a text and leaves less of it, so the bound on the scan is never
reached, and a rewritten text follows the text character by character and link
by link.
-/
import CampaignPress.Proofs.Prose.CodeSpan
import CampaignPress.Proofs.WikiLink
import CampaignPress.Prose.Embed

namespace CampaignPress

namespace Prose

open CodeSpan (isInner)

/-- A cutter of links that begins at no character of a placeholder, and takes a link with at most
an exclamation mark before it. -/
structure Cuts (cut? : Text → Option (WikiLink × Text)) : Prop where
  nil : cut? [] = none
  outer : ∀ c rest, isInner c → cut? (c :: rest) = none
  shape : ∀ {text link after}, cut? text = some (link, after) → link.IsWritable ∧
    ∃ before, (before = [] ∨ before = ['!']) ∧ text = before ++ link.toText ++ after

/-- A text in which a cutter finds no link, wherever it begins. -/
def Linkless (cut? : Text → Option (WikiLink × Text)) (text : Text) : Prop :=
  ∀ rest, rest <:+ text → cut? rest = none

variable {cut? : Text → Option (WikiLink × Text)} {write : WikiLink → Text}
  {text after rest : Text} {link : WikiLink} {c : Char}

/-! ### The cutters -/

theorem cuts_link : Cuts WikiLink.cut? where
  nil := rfl
  outer c rest inner := by
    rw [WikiLink.cut?.eq_def]
    split
    · rename_i same
      obtain ⟨rfl, -⟩ := List.cons.inj same
      exact absurd inner (by decide)
    · rfl
  shape found :=
    have ⟨writable, same⟩ := WikiLink.isWritable_of_cut? found
    ⟨writable, [], .inl rfl, same⟩

theorem cuts_embed : Cuts cutEmbed? where
  nil := rfl
  outer c rest inner := by
    rw [cutEmbed?.eq_def]
    split
    · rename_i same
      obtain ⟨rfl, -⟩ := List.cons.inj same
      exact absurd inner (by decide)
    · rfl
  shape {text link after} found := by
    rw [cutEmbed?.eq_def] at found
    split at found
    · obtain ⟨writable, same⟩ := WikiLink.isWritable_of_cut? found
      exact ⟨writable, ['!'], .inr rfl, congrArg ('!' :: ·) same⟩
    · exact nomatch found

theorem isImageName_of_cutImage? (found : cutImage? text = some (link, after)) :
    cutEmbed? text = some (link, after) ∧ isImageName link.target := by
  rw [cutImage?] at found
  split at found
  · rename_i embed
    split at found
    · rename_i image
      obtain ⟨rfl, rfl⟩ := Prod.mk.inj (Option.some.inj found)
      exact ⟨embed, image⟩
    · exact nomatch found
  · exact nomatch found

theorem cuts_image : Cuts cutImage? where
  nil := rfl
  outer c rest inner := by
    rw [cutImage?, cuts_embed.outer c rest inner]
  shape found := cuts_embed.shape (isImageName_of_cutImage? found).1

/-! ### Scanning -/

section Cuts

variable (cuts : Cuts cut?)
include cuts

theorem Cuts.length_lt (found : cut? text = some (link, after)) : after.length < text.length := by
  obtain ⟨-, before, -, same⟩ := cuts.shape found
  rw [same, WikiLink.toText]
  simp only [List.length_append, List.length_cons]
  omega

/-- A text is empty, or begins with a character that is no link, or with a link. -/
theorem Cuts.induction {motive : Text → Prop} (nil : motive [])
    (plain : ∀ c rest, cut? (c :: rest) = none → motive rest → motive (c :: rest))
    (link : ∀ text link after, cut? text = some (link, after) → motive after → motive text)
    (text : Text) : motive text := by
  induction size : text.length using Nat.strongRecOn generalizing text with
  | ind length inductionHypothesis =>
    cases text with
    | nil => exact nil
    | cons c rest =>
      cases found : cut? (c :: rest) with
      | none => exact plain c rest found (inductionHypothesis _ (by simp [← size]) rest rfl)
      | some cut =>
        obtain ⟨cut, after⟩ := cut
        have shorter : after.length < length := size ▸ cuts.length_lt found
        exact link _ cut after found (inductionHypothesis _ shorter after rfl)

theorem Cuts.scanFrom_eq_scan {room : Nat} (enough : text.length ≤ room) :
    scanFrom cut? room text = scan cut? text := by
  induction room using Nat.strongRecOn generalizing text with
  | ind room inductionHypothesis =>
    cases text with
    | nil => cases room <;> rfl
    | cons c rest =>
      obtain ⟨room, rfl⟩ := Nat.exists_eq_add_of_le' (Nat.one_le_of_lt enough)
      have restEnough : rest.length ≤ room := Nat.le_of_succ_le_succ enough
      rw [scan, List.length_cons, scanFrom, scanFrom]
      cases found : cut? (c :: rest) with
      | none =>
        rw [inductionHypothesis room (Nat.lt_succ_self _) restEnough]
        rfl
      | some cut =>
        obtain ⟨link, after⟩ := cut
        have fewer : after.length ≤ rest.length := Nat.le_of_lt_succ (cuts.length_lt found)
        dsimp only
        rw [inductionHypothesis room (Nat.lt_succ_self _) (fewer.trans restEnough)]
        rcases restEnough.lt_or_eq with less | same
        · rw [inductionHypothesis rest.length (Nat.lt_succ_of_lt less) fewer]
        · rw [same, inductionHypothesis room (Nat.lt_succ_self _) (fewer.trans restEnough)]

omit cuts in
theorem scan_of_none (none' : cut? (c :: rest) = none) :
    scan cut? (c :: rest) = .plain c :: scan cut? rest := by
  rw [scan, List.length_cons, scanFrom, none']
  rfl

theorem Cuts.scan_of_some (found : cut? text = some (link, after)) :
    scan cut? text = .link link :: scan cut? after := by
  cases text with
  | nil => exact nomatch cuts.nil.symm.trans found
  | cons c rest =>
    rw [scan, List.length_cons, scanFrom, found]
    dsimp only
    rw [cuts.scanFrom_eq_scan (Nat.le_of_lt_succ (cuts.length_lt found))]

omit cuts in
theorem rewriteLinks_nil : rewriteLinks cut? write [] = [] := rfl

omit cuts in
theorem rewriteLinks_of_none (none' : cut? (c :: rest) = none) :
    rewriteLinks cut? write (c :: rest) = c :: rewriteLinks cut? write rest := by
  rw [rewriteLinks, scan_of_none none', List.flatMap_cons]
  rfl

theorem Cuts.rewriteLinks_of_some (found : cut? text = some (link, after)) :
    rewriteLinks cut? write text = write link ++ rewriteLinks cut? write after := by
  rw [rewriteLinks, cuts.scan_of_some found, List.flatMap_cons]
  rfl

theorem Cuts.linksOf_of_some (found : cut? text = some (link, after)) :
    linksOf cut? text = link :: linksOf cut? after := by
  rw [linksOf, cuts.scan_of_some found, List.filterMap_cons]
  rfl

omit cuts in
theorem linksOf_of_none (none' : cut? (c :: rest) = none) :
    linksOf cut? (c :: rest) = linksOf cut? rest := by
  rw [linksOf, scan_of_none none', List.filterMap_cons]
  rfl

theorem Cuts.linksOf_inner {before : Text} (inner : ∀ c ∈ before, isInner c) (rest : Text) :
    linksOf cut? (before ++ rest) = linksOf cut? rest := by
  induction before with
  | nil => rfl
  | cons c before inductionHypothesis =>
    rw [List.forall_mem_cons] at inner
    rw [List.cons_append, linksOf_of_none (cuts.outer c _ inner.1), inductionHypothesis inner.2]

theorem Cuts.exists_of_mem_linksOf (member : link ∈ linksOf cut? text) :
    ∃ text after, cut? text = some (link, after) := by
  induction text using cuts.induction with
  | nil => exact absurd member List.not_mem_nil
  | plain c rest none inductionHypothesis =>
    exact inductionHypothesis (linksOf_of_none none ▸ member)
  | link text found after cut inductionHypothesis =>
    rw [cuts.linksOf_of_some cut] at member
    rcases List.mem_cons.1 member with rfl | later
    · exact ⟨text, after, cut⟩
    · exact inductionHypothesis later

theorem Cuts.rewriteLinks_inner {before : Text} (inner : ∀ c ∈ before, isInner c) (rest : Text) :
    rewriteLinks cut? write (before ++ rest) = before ++ rewriteLinks cut? write rest := by
  induction before with
  | nil => rfl
  | cons c before inductionHypothesis =>
    rw [List.forall_mem_cons] at inner
    rw [List.cons_append, rewriteLinks_of_none (cuts.outer c _ inner.1),
      inductionHypothesis inner.2, List.cons_append]

/-! ### Texts without links -/

omit cuts in
theorem Linkless.of_cons (linkless : Linkless cut? (c :: rest)) : Linkless cut? rest :=
  fun _ suffix => linkless _ (suffix.trans (List.suffix_cons c rest))

omit cuts in
theorem linkless_cons (none' : cut? (c :: rest) = none) (linkless : Linkless cut? rest) :
    Linkless cut? (c :: rest) := by
  intro suffix ends
  rcases List.suffix_cons_iff.1 ends with rfl | ends
  · exact none'
  · exact linkless suffix ends

omit cuts in
theorem scan_of_linkless (linkless : Linkless cut? text) :
    scan cut? text = text.map Piece.plain := by
  induction text with
  | nil => rfl
  | cons c rest inductionHypothesis =>
    rw [scan_of_none (linkless _ (List.suffix_refl _)), inductionHypothesis linkless.of_cons,
      List.map_cons]

omit cuts in
/-- A text without links is written as it is. -/
theorem rewriteLinks_of_linkless (linkless : Linkless cut? text) :
    rewriteLinks cut? write text = text := by
  rw [rewriteLinks, scan_of_linkless linkless, List.flatMap_map]
  exact List.flatMap_singleton' text

omit cuts in
theorem linksOf_of_linkless (linkless : Linkless cut? text) : linksOf cut? text = [] := by
  rw [linksOf, scan_of_linkless linkless, List.filterMap_map]
  exact List.filterMap_eq_nil_iff.2 fun _ _ => rfl

end Cuts

/-- Every embed holds a link, and every image is an embed. -/
theorem Linkless.embed (linkless : Linkless WikiLink.cut? text) : Linkless cutEmbed? text := by
  intro rest suffix
  rw [cutEmbed?.eq_def]
  split
  · exact linkless _ ((List.suffix_cons _ _).trans suffix)
  · rfl

theorem Linkless.image (linkless : Linkless cutEmbed? text) : Linkless cutImage? text := by
  intro rest suffix
  rw [cutImage?, linkless rest suffix]

end Prose

end CampaignPress
