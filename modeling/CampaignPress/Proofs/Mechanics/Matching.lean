/-
This file says which braces count, from the text before them and without a
reader. A backslash escapes the next character if the run of backslashes that it
ends is odd, and a place is inside quotes if an odd number of quotes without a
backslash of their own stand before it. Everything that counts braces agrees on
this. So the balance of a text counts the braces outside of quotes, and a unit is
split at the first such brace that opens and at the one that matches it.
-/
import CampaignPress.Proofs.Mechanics.Remainder
import CampaignPress.Proofs.Text.Cut

namespace CampaignPress.Mechanics

/-! ### Outside of quotes -/

/-- The backslashes at the end of a text escape what follows them. -/
def IsEscaping (before : Text) : Prop := Odd (before.reverse.takeWhile (· = '\\')).length

instance (before : Text) : Decidable (IsEscaping before) := inferInstanceAs (Decidable (Odd _))

/-- The quotes in a text that no backslash escapes. -/
def quotesIn (text : Text) : Nat :=
  (Text.withBefore text).countP fun (before, c) => c = '"' ∧ ¬IsEscaping before

/-- What follows a text is neither escaped nor between quotes. -/
def IsOutside (before : Text) : Prop := ¬IsEscaping before ∧ Even (quotesIn before)

instance (before : Text) : Decidable (IsOutside before) := inferInstanceAs (Decidable (_ ∧ _))

/-- How often a character stands in a text without an escape and outside of quotes. -/
def countOutside (c : Char) (text : Text) : Nat :=
  (Text.withBefore text).countP fun (before, d) => d = c ∧ IsOutside before

theorem isEscaping_append_singleton {before : Text} {c : Char} :
    IsEscaping (before ++ [c]) ↔ c = '\\' ∧ ¬IsEscaping before := by
  rw [IsEscaping, List.reverse_append, List.reverse_singleton, List.singleton_append]
  by_cases backslash : c = '\\'
  · simp [IsEscaping, backslash, Nat.odd_add_one]
  · simp [backslash]

theorem quotesIn_append_singleton (before : Text) (c : Char) :
    quotesIn (before ++ [c]) = quotesIn before + if c = '"' ∧ ¬IsEscaping before then 1 else 0 := by
  rw [quotesIn, Text.withBefore_append_singleton, List.countP_append, List.countP_singleton]
  simp [quotesIn]

theorem countOutside_append_singleton (c : Char) (before : Text) (d : Char) :
    countOutside c (before ++ [d]) =
      countOutside c before + if d = c ∧ IsOutside before then 1 else 0 := by
  rw [countOutside, Text.withBefore_append_singleton, List.countP_append, List.countP_singleton]
  simp [countOutside]

/-- Where a reader stands can be told from the text before. -/
theorem Reader.run_eq (before : Text) : Reader.run {} before =
    { quoted := decide (Odd (quotesIn before)), escaped := decide (IsEscaping before) } := by
  induction before using List.reverseRecOn with
  | nil => rfl
  | append_singleton before c inductionHypothesis =>
    rw [Reader.run_append, inductionHypothesis, quotesIn_append_singleton, Reader.run_cons]
    simp only [isEscaping_append_singleton]
    by_cases escaping : IsEscaping before
    · simp [Reader.step, Reader.run, escaping]
    · by_cases backslash : c = '\\'
      · simp [Reader.step, Reader.run, escaping, backslash]
      · by_cases quote : c = '"'
        · simp [Reader.step, Reader.run, escaping, quote, Nat.odd_add_one, ← Nat.not_even_iff_odd]
        · -- All other characters leave a reader where it stands, braces among them.
          have step (quoted : Bool) : (Reader.step ⟨quoted, false⟩ c).1 = ⟨quoted, false⟩ := by
            simp only [Reader.step, Bool.false_eq_true, if_false, if_neg backslash, if_neg quote]
            split_ifs <;> rfl
          simp [Reader.run, step, escaping, backslash, quote]

theorem isOutside_iff {before : Text} : IsOutside before ↔ Reader.run {} before = {} := by
  simp [Reader.run_eq, IsOutside, and_comm]

/-! ### Braces that count -/

def Brace.toChar : Brace → Char
  | .opens => '{'
  | .closes => '}'

theorem Reader.step_eq_some_iff {reader : Reader} {c : Char} {brace : Brace} :
    (reader.step c).2 = some brace ↔ reader = {} ∧ c = brace.toChar := by
  constructor
  · intro counts
    cases brace with
    | opens =>
      obtain rfl := eq_of_opens counts
      rcases reader with ⟨_ | _, _ | _⟩ <;> simp_all [Reader.step, Brace.toChar]
    | closes =>
      obtain rfl := eq_of_closes counts
      rcases reader with ⟨_ | _, _ | _⟩ <;> simp_all [Reader.step, Brace.toChar]
  · rintro ⟨rfl, rfl⟩
    cases brace <;> rfl

/-- The braces that a reader meets are those outside of quotes. -/
theorem count_braces (brace : Brace) (text : Text) :
    (Reader.braces {} text).count brace = countOutside brace.toChar text := by
  induction text using List.reverseRecOn with
  | nil => rfl
  | append_singleton text c inductionHypothesis =>
    have single : Reader.braces (Reader.run {} text) [c] = ((Reader.run {} text).step c).2.toList :=
      List.append_nil _
    rw [Reader.braces_append, single, List.count_append, inductionHypothesis,
      countOutside_append_singleton]
    simp only [isOutside_iff, and_comm (a := c = brace.toChar), ← Reader.step_eq_some_iff]
    cases ((Reader.run {} text).step c).2 <;> simp [List.count_singleton]

/-- The balance of a text counts the braces outside of quotes. -/
theorem balance_eq_countOutside (text : Text) :
    balance text = countOutside '{' text - countOutside '}' text := by
  have counts : ∀ braces : List Brace, (braces.map fun brace => Brace.weight (some brace)).sum =
      (braces.count .opens : Int) - braces.count .closes := by
    intro braces
    induction braces with
    | nil => rfl
    | cons brace braces inductionHypothesis =>
      rw [List.map_cons, List.sum_cons, inductionHypothesis]
      cases brace <;> simp [Brace.weight] <;> omega
  rw [balance, balanceFrom_eq_sum, counts, count_braces, count_braces]
  rfl

theorem countOutside_eq_zero_iff {text : Text} :
    countOutside '{' text = 0 ↔ Brace.opens ∉ Reader.braces {} text := by
  rw [← List.count_eq_zero, count_braces]
  rfl

/-! ### Cuts -/

/-- The brace that opens a body is outside of quotes. -/
theorem run_cutOpening {reader : Reader} {text : Text} (found : (cutOpening reader text).2.isSome) :
    reader.run (cutOpening reader text).1 = {} := by
  induction text generalizing reader with
  | nil => exact absurd found Bool.false_ne_true
  | cons c text inductionHypothesis =>
    rw [cutOpening_cons] at found ⊢
    split
    · rename_i opens
      exact (Reader.step_eq_some_iff.1 opens).1
    · rename_i other
      rw [if_neg other] at found
      exact inductionHypothesis found

/-- The brace that closes a body is outside of quotes. -/
theorem run_cutClosing {reader : Reader} {depth : Nat} (inside : 0 < depth) {text : Text}
    (found : (cutClosing reader depth text).2.isSome) :
    reader.run (cutClosing reader depth text).1 = {} := by
  induction text generalizing reader depth with
  | nil => exact absurd found Bool.false_ne_true
  | cons c text inductionHypothesis =>
    rw [cutClosing_cons] at found ⊢
    split
    · rename_i out
      exact (Reader.step_eq_some_iff.1 (closes_of_depthAfter inside out)).1
    · rename_i within
      rw [if_neg within] at found
      exact inductionHypothesis (Nat.pos_iff_ne_zero.2 within) found

theorem run_partsOf (text : Text) :
    ((partsOf text).opening ≠ [] → Reader.run {} (partsOf text).header = {}) ∧
      ((partsOf text).closing ≠ [] → Reader.run {} (partsOf text).body = {}) := by
  have opening := @run_cutOpening {} text
  rw [partsOf]
  rcases opened : cutOpening {} text with ⟨header, _ | rest⟩
  · exact ⟨fun none => absurd rfl none, fun none => absurd rfl none⟩
  · rw [opened] at opening
    have closing := @run_cutClosing {} 1 Nat.one_pos rest
    dsimp only
    rcases found : cutClosing {} 1 rest with ⟨body, _ | behind⟩
    · exact ⟨fun _ => opening rfl, fun none => absurd rfl none⟩
    · rw [found] at closing
      exact ⟨fun _ => opening rfl, fun _ => closing rfl⟩

/-! ### Matching braces -/

/-- The brace behind a header and the one behind the body after it match: both count, and the body
closes every brace that it opens and no other. -/
structure Matches (text header body behind : Text) : Prop where
  whole : text = header ++ '{' :: (body ++ '}' :: behind)
  opening : IsOutside header
  closing : IsOutside (header ++ '{' :: body)
  stays : ∀ count, 0 ≤ balance (body.take count)
  balanced : balance body = 0

/-- Behind a brace that opens, a reader stands where one begins. -/
theorem isOutside_append_iff {header : Text} (opening : Reader.run {} header = {}) (body : Text) :
    IsOutside (header ++ '{' :: body) ↔ Reader.run {} body = {} := by
  rw [isOutside_iff, Reader.run_append, opening]
  rfl

theorem opens_mem_braces {header : Text} (opening : Reader.run {} header = {}) (rest : Text) :
    Brace.opens ∈ Reader.braces {} (header ++ '{' :: rest) := by
  rw [Reader.braces_append, opening, Reader.braces_cons]
  exact List.mem_append_right _ (List.mem_append_left _ (List.mem_singleton_self _))

/-- A text that leaves a brace open after each of its beginnings has no brace that matches the one
before it. -/
theorem Matches.not_of_stays {text header body : Text} (whole : text = header ++ '{' :: body)
    (stays : ∀ count, 0 ≤ balance (body.take count)) (other behind : Text) :
    ¬Matches text header other behind := by
  intro same
  have opening := isOutside_iff.1 same.opening
  have closing := (isOutside_append_iff opening other).1 same.closing
  have parts : body = other ++ '}' :: behind :=
    (List.cons.inj (List.append_cancel_left (whole.symm.trans same.whole))).2
  have closes : balanceFrom {} ['}'] = -1 := rfl
  have below := stays (other.length + 1)
  have even := same.balanced
  -- The matching brace would leave the text up to it one brace short.
  rw [parts, List.append_cons, List.take_left' (by simp), balance, balanceFrom_append, closing,
    closes] at below
  rw [balance] at even
  omega

/-- A reader stands outside of quotes before the brace that opens a unit. -/
theorem opened_partsOf {text : Text} (opens : (partsOf text).opening = ['{']) :
    Reader.run {} (partsOf text).header = {} ∧ text = (partsOf text).header ++
      '{' :: ((partsOf text).body ++ ((partsOf text).closing ++ (partsOf text).behind)) := by
  have whole := eq_partsOf text
  rw [opens] at whole
  exact ⟨(run_partsOf text).1 (opens ▸ List.cons_ne_nil '{' []), whole⟩

/-- A unit that is not opened is all header. -/
theorem header_partsOf {text : Text} (opens : (partsOf text).opening = []) :
    (partsOf text).header = text ∧ (partsOf text).body = [] := by
  rcases (isCut_partsOf text).2 with ⟨-, body, closes, behind⟩ | ⟨opens', -, -, -⟩ |
    ⟨opens', -, -, -⟩
  · exact ⟨by simpa [opens, body, closes, behind] using (eq_partsOf text).symm, body⟩
  · exact absurd (opens.symm.trans opens') (List.cons_ne_nil '{' []).symm
  · exact absurd (opens.symm.trans opens') (List.cons_ne_nil '{' []).symm

/-- A unit is all header exactly if no brace opens outside of quotes. -/
theorem splitBody_eq_self_iff (text : Text) :
    splitBody text = (text, []) ↔ countOutside '{' text = 0 := by
  obtain ⟨unopened, cut⟩ := isCut_partsOf text
  have opened (opens : (partsOf text).opening = ['{']) :
      splitBody text = (text, []) ↔ countOutside '{' text = 0 := by
    obtain ⟨outside, whole⟩ := opened_partsOf opens
    refine iff_of_false (fun bare => ?_) fun none' => countOutside_eq_zero_iff.1 none' ?_
    · rw [splitBody_eq] at bare
      have lengths := congrArg List.length whole
      rw [(Prod.mk.inj bare).1] at lengths
      simp at lengths
    · rw [whole]
      exact opens_mem_braces outside _
  rcases cut with ⟨opens, -, -, -⟩ | ⟨opens, -, -, -⟩ | ⟨opens, -, -, -⟩
  · obtain ⟨whole, body⟩ := header_partsOf opens
    rw [whole] at unopened
    exact iff_of_true (by rw [splitBody_eq, whole, body]) (countOutside_eq_zero_iff.2 unopened)
  · exact opened opens
  · exact opened opens

/-- The balance counts the braces outside of quotes, and a unit is split at the first of them that
opens, if there is one, and at the one that matches it. If none does, the body goes on to the end of
the unit. -/
theorem splitBody_matches (text : Text) :
    balance text = countOutside '{' text - countOutside '}' text ∧
      (splitBody text = (text, []) ↔ countOutside '{' text = 0) ∧
      (countOutside '{' text ≠ 0 → ∃ header body rest, splitBody text = (header, body) ∧
        text = header ++ '{' :: (body ++ rest) ∧ IsOutside header ∧ countOutside '{' header = 0 ∧
        (∀ count, 0 ≤ balance (body.take count)) ∧
        ((∃ behind, rest = '}' :: behind ∧ balance body = 0 ∧ Matches text header body behind) ∨
          (rest = [] ∧ ∀ other behind, ¬Matches text header other behind))) := by
  refine ⟨balance_eq_countOutside text, splitBody_eq_self_iff text, fun some => ?_⟩
  obtain ⟨unopened, cut⟩ := isCut_partsOf text
  have first := countOutside_eq_zero_iff.2 unopened
  have closing := (run_partsOf text).2
  rcases cut with ⟨opens, -, -, -⟩ | ⟨opens, stays, closes, behind⟩ |
    ⟨opens, stays, closes, balanced⟩
  · rw [(header_partsOf opens).1] at first
    exact absurd first some
  · obtain ⟨outside, whole⟩ := opened_partsOf opens
    rw [closes, behind, List.append_nil, List.append_nil] at whole
    exact ⟨_, _, [], splitBody_eq text, by rwa [List.append_nil], isOutside_iff.2 outside, first,
      stays, .inr ⟨rfl, Matches.not_of_stays whole stays⟩⟩
  · obtain ⟨outside, whole⟩ := opened_partsOf opens
    rw [closes] at whole closing
    have inside := (isOutside_append_iff outside _).2 (closing (List.cons_ne_nil '}' []))
    have opening := isOutside_iff.2 outside
    exact ⟨_, _, _, splitBody_eq text, whole, opening, first, stays,
      .inl ⟨_, rfl, balanced, whole, opening, inside, stays, balanced⟩⟩

/-- Braces between quotes, behind a backslash, and closed before any is open. -/
theorem splitBody_matches_quoted :
    let header : Text := "\x7d a \"\x7b\" "
    let body : Text := " b \\\x7d \x7b c \x7d \"\x7d\" "
    let text := header ++ '{' :: (body ++ '}' :: " d".toList)
    countOutside '{' text = 2 ∧ splitBody text = (header, body) ∧
      Matches text header body " d" := by
  intro header body text
  have two : countOutside '{' text = 2 := by decide
  have split : splitBody text = (header, body) := by decide
  refine ⟨two, split, ?_⟩
  obtain ⟨header', body', rest, same, whole, -, -, -, closed⟩ :=
    (splitBody_matches text).2.2 (two ▸ Nat.succ_ne_zero 1)
  obtain ⟨rfl, rfl⟩ := Prod.mk.inj (split.symm.trans same)
  have ending : '}' :: " d".toList = rest :=
    List.append_cancel_left (List.cons.inj (List.append_cancel_left whole)).2
  rcases closed with ⟨behind, rfl, -, matching⟩ | ⟨rfl, -⟩
  · rwa [(List.cons.inj ending).2]
  · exact nomatch ending

end CampaignPress.Mechanics
