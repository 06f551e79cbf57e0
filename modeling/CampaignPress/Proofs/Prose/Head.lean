/-
This file holds the cut of a head against the lines of a note. By its lines a
note has a head if the first one is a rule of three dashes and a later one is,
and the head is what stands between the first two. The cut looks for dashes at
the ends of lines instead, whatever stands before them. So the two agree exactly
if the first two lines that end in dashes are rules, and the note begins with one.
-/
import CampaignPress.Proofs.Text.Cut
import CampaignPress.Proofs.Text.Lines
import CampaignPress.Vault.Basic

namespace CampaignPress

namespace Text

/-! ### Lines -/

/-- A text is a last line, or a line with a line break above another text. -/
theorem induction_lines {motive : Text → Prop}
    (last : ∀ line, '\n' ∉ line → motive line)
    (above : ∀ line rest, '\n' ∉ line → motive rest → motive (line ++ '\n' :: rest)) (text : Text) :
    motive text := by
  by_cases broken : '\n' ∈ text
  · obtain ⟨line, rest, same, single, shorter⟩ := exists_break broken
    rw [same]
    exact above line rest single (induction_lines last above rest)
  · exact last text broken
termination_by text.length

/-- The lines of a text that have a line break after them. -/
def endedLines (text : Text) : List Text := (lines text).dropLast

theorem endedLines_of_not_mem {line : Text} (single : '\n' ∉ line) : endedLines line = [] := by
  rw [endedLines, lines_of_not_mem single]
  rfl

theorem endedLines_append_break {line : Text} (single : '\n' ∉ line) (rest : Text) :
    endedLines (line ++ '\n' :: rest) = line :: endedLines rest := by
  rw [endedLines, lines_append_break, lines_of_not_mem single]
  exact List.dropLast_cons_of_ne_nil (lines_ne_nil rest)

end Text

namespace Prose

/-! ### Dashes -/

/-- The line that stands above and below a head. -/
def rule : Text := "---"

/-- The lines with a line break after them that end in dashes. -/
def dashed (text : Text) : List Text :=
  (Text.endedLines text).filter fun line => Text.endsWith line rule

theorem dashed_of_not_mem {line : Text} (single : '\n' ∉ line) : dashed line = [] := by
  rw [dashed, Text.endedLines_of_not_mem single]
  rfl

theorem dashed_append_break {line : Text} (single : '\n' ∉ line) (rest : Text) :
    dashed (line ++ '\n' :: rest) =
      if Text.endsWith line rule then line :: dashed rest else dashed rest := by
  rw [dashed, Text.endedLines_append_break single, List.filter_cons]
  rfl

theorem dashed_ended_append {above : List Text} (single : ∀ line ∈ above, '\n' ∉ line)
    (rest : Text) : dashed (Text.ended above ++ rest) =
      above.filter (fun line => Text.endsWith line rule) ++ dashed rest := by
  induction above with
  | nil => rfl
  | cons line above inductionHypothesis =>
    rw [List.forall_mem_cons] at single
    rw [Text.ended_cons, List.append_assoc, List.cons_append, dashed_append_break single.1,
      inductionHypothesis single.2, List.filter_cons]
    split <;> rfl

/-! ### Cuts -/

theorem cutAtText_headEnd_cons (c : Char) (rest : Text) : Text.cutAtText headEnd (c :: rest) =
    if headEnd.isPrefixOf (c :: rest) then some ([], (c :: rest).drop headEnd.length)
    else (Text.cutAtText headEnd rest).map fun cut => (c :: cut.1, cut.2) := rfl

/-- The dashes before a line break are the whole line where they begin it. -/
theorem headEnd_isPrefixOf_iff {line : Text} (single : '\n' ∉ line) (rest : Text) :
    headEnd.isPrefixOf (line ++ '\n' :: rest) ↔ line = rule := by
  rw [List.isPrefixOf_iff_prefix]
  constructor
  · rintro ⟨after, same⟩
    have whole : rule ++ '\n' :: after = line ++ '\n' :: rest := same
    have cut := Text.append_cons_inj (by decide) single whole
    exact cut.1.symm
  · rintro rfl
    exact ⟨rest, rfl⟩

theorem endsWith_rule_iff {line : Text} :
    Text.endsWith line rule ↔ ∃ start, line = start ++ rule := by
  rw [Text.endsWith, List.isSuffixOf_iff_suffix]
  exact ⟨fun ⟨start, same⟩ => ⟨start, same.symm⟩, fun ⟨start, same⟩ => ⟨start, same.symm⟩⟩

/-- A line that ends in dashes is cut there. -/
theorem cutAtText_headEnd_dashed {start : Text} (single : '\n' ∉ start) (rest : Text) :
    Text.cutAtText headEnd (start ++ rule ++ '\n' :: rest) = some (start, rest) := by
  induction start with
  | nil => rfl
  | cons c start inductionHypothesis =>
    have whole : '\n' ∉ c :: start ++ rule := by
      rw [List.mem_append, not_or]
      exact ⟨single, by decide⟩
    have longer : c :: start ++ rule ≠ rule := fun same => by
      have := congrArg List.length same
      rw [List.length_append, List.length_cons] at this
      omega
    have other : ¬ headEnd.isPrefixOf (c :: start ++ rule ++ '\n' :: rest) :=
      fun begins => longer ((headEnd_isPrefixOf_iff whole rest).1 begins)
    rw [List.cons_append, List.cons_append] at other ⊢
    rw [cutAtText_headEnd_cons, if_neg other,
      inductionHypothesis fun member => single (List.mem_cons_of_mem _ member)]
    rfl

/-- A line that does not end in dashes is passed over. -/
theorem cutAtText_headEnd_plain {line : Text} (single : '\n' ∉ line)
    (plain : Text.endsWith line rule = false) (rest : Text) :
    Text.cutAtText headEnd (line ++ '\n' :: rest) =
      (Text.cutAtText headEnd rest).map fun cut => (line ++ '\n' :: cut.1, cut.2) := by
  induction line with
  | nil =>
    rw [List.nil_append, cutAtText_headEnd_cons]
    rfl
  | cons c line inductionHypothesis =>
    have other : ¬ headEnd.isPrefixOf (c :: line ++ '\n' :: rest) := by
      rw [headEnd_isPrefixOf_iff single]
      intro same
      rw [same] at plain
      exact absurd plain (by decide)
    have plainRest : Text.endsWith line rule = false := by
      rw [Bool.eq_false_iff, Ne, endsWith_rule_iff] at plain ⊢
      rintro ⟨start, same⟩
      exact plain ⟨c :: start, by rw [same]; rfl⟩
    rw [List.cons_append] at other ⊢
    rw [cutAtText_headEnd_cons, if_neg other,
      inductionHypothesis (fun member => single (List.mem_cons_of_mem _ member)) plainRest,
      Option.map_map]
    rfl

/-- A line without a line break after it is not cut. -/
theorem cutAtText_headEnd_last {line : Text} (single : '\n' ∉ line) :
    Text.cutAtText headEnd line = none := by
  induction line with
  | nil => rfl
  | cons c line inductionHypothesis =>
    have other : ¬ headEnd.isPrefixOf (c :: line) := by
      rw [List.isPrefixOf_iff_prefix]
      exact fun begins => single (begins.subset (by decide))
    rw [cutAtText_headEnd_cons, if_neg other,
      inductionHypothesis fun member => single (List.mem_cons_of_mem _ member)]
    rfl

/-- Lines that do not end in dashes. -/
def ArePlain (lines : List Text) : Prop :=
  ∀ line ∈ lines, '\n' ∉ line ∧ Text.endsWith line rule = false

theorem cutAtText_headEnd_ended {above : List Text} (plain : ArePlain above) (rest : Text) :
    Text.cutAtText headEnd (Text.ended above ++ rest) =
      (Text.cutAtText headEnd rest).map fun cut => (Text.ended above ++ cut.1, cut.2) := by
  induction above with
  | nil => exact Option.map_id'.symm
  | cons line above inductionHypothesis =>
    obtain ⟨⟨single, plainLine⟩, plainAbove⟩ := List.forall_mem_cons.1 plain
    rw [Text.ended_cons, List.append_assoc, List.cons_append,
      cutAtText_headEnd_plain single plainLine, inductionHypothesis plainAbove, Option.map_map]
    simp [Function.comp_def]

/-- Plain lines are passed over up to a line that ends in dashes. -/
theorem cutAtText_headEnd_ended_dashed {above : List Text} {start : Text} (plain : ArePlain above)
    (single : '\n' ∉ start) (rest : Text) :
    Text.cutAtText headEnd (Text.ended above ++ (start ++ rule ++ '\n' :: rest)) =
      some (Text.ended above ++ start, rest) := by
  rw [cutAtText_headEnd_ended plain, cutAtText_headEnd_dashed single]
  rfl

theorem cutAtText_headEnd_of_nil {text : Text} (none' : dashed text = []) :
    Text.cutAtText headEnd text = none := by
  induction text using Text.induction_lines with
  | last line single => exact cutAtText_headEnd_last single
  | above line rest single inductionHypothesis =>
    rw [dashed_append_break single] at none'
    split at none'
    · exact nomatch none'
    · rename_i plain
      rw [cutAtText_headEnd_plain single (Bool.eq_false_iff.2 plain), inductionHypothesis none']
      rfl

/-- A text begins with plain lines up to the first line that ends in dashes. -/
theorem exists_plain_of_dashed {text line : Text} {others : List Text}
    (found : dashed text = line :: others) : ∃ above start rest, ArePlain above ∧ '\n' ∉ start ∧
      line = start ++ rule ∧ text = Text.ended above ++ (start ++ rule ++ '\n' :: rest) ∧
      dashed rest = others := by
  induction text using Text.induction_lines with
  | last last single =>
    rw [dashed_of_not_mem single] at found
    exact nomatch found
  | above first rest single inductionHypothesis =>
    rw [dashed_append_break single] at found
    split at found
    · rename_i ends
      obtain ⟨start, rfl⟩ := endsWith_rule_iff.1 ends
      obtain ⟨rfl, later⟩ := List.cons.inj found
      exact ⟨[], start, rest, by simp [ArePlain], fun member => single (List.mem_append_left _ member),
        rfl, rfl, later⟩
    · rename_i plain
      obtain ⟨above, start, last, arePlain, inStart, same, whole, later⟩ :=
        inductionHypothesis found
      refine ⟨first :: above, start, last,
        List.forall_mem_cons.2 ⟨⟨single, Bool.eq_false_iff.2 plain⟩, arePlain⟩, inStart, same, ?_,
        later⟩
      rw [Text.ended_cons, List.append_assoc, List.cons_append, ← whole]

/-! ### Heads -/

/-- A text whose first line is a rule, with the lines down to the next rule as its head. -/
def Headed (text head body : Text) : Prop :=
  ∃ lines : List Text, (∀ line ∈ lines, '\n' ∉ line ∧ line ≠ rule) ∧ head = Text.ended lines ∧
    text = Text.ended (rule :: (lines ++ [rule])) ++ body

/-- Whether a text that could be cut begins with a rule, and the next line that ends in dashes is
a rule too. -/
def isRuled (text : Text) : Bool :=
  match dashed text with
  | _ :: second :: _ =>
    !Text.startsWith text rule || ((Text.lines text).head? = some rule && second = rule)
  | _ => true

theorem isRuled_of_cons {text first second : Text} {others : List Text}
    (found : dashed text = first :: second :: others) : isRuled text ↔
      (Text.startsWith text rule → (Text.lines text).head? = some rule ∧ second = rule) := by
  rw [isRuled, found]
  cases Text.startsWith text rule <;> simp

theorem isRuled_of_few {text : Text} (few : (dashed text).length < 2) : isRuled text := by
  rw [isRuled]
  split
  · rename_i found
    rw [found, List.length_cons, List.length_cons] at few
    omega
  · rfl

theorem cutHead?_of_startsWith {text : Text} (begins : Text.startsWith text rule) :
    cutHead? text = (Text.cutAtText headEnd text).bind fun cut => Text.cutAtText headEnd cut.2 := by
  rw [cutHead?, show Text.startsWith text "---" = true from begins]
  rfl

theorem cutHead?_of_not_startsWith {text : Text} (other : Text.startsWith text rule = false) :
    cutHead? text = none := by
  rw [cutHead?, show Text.startsWith text "---" = false from other]
  rfl

/-- A text that begins with dashes and has two lines that end in dashes is cut in both. -/
theorem exists_cutHead? {text first second : Text} {others : List Text}
    (found : dashed text = first :: second :: others) (begins : Text.startsWith text rule) :
    ∃ above between start body, ArePlain above ∧ '\n' ∉ first ∧ ArePlain between ∧
      second = start ++ rule ∧
      text = Text.ended (above ++ first :: between) ++ (second ++ '\n' :: body) ∧
      dashed body = others ∧ cutHead? text = some (Text.ended between ++ start, body) := by
  obtain ⟨above, before, rest, plain, single, rfl, whole, later⟩ := exists_plain_of_dashed found
  obtain ⟨between, start, body, plainBetween, singleStart, rfl, wholeRest, last⟩ :=
    exists_plain_of_dashed later
  have singleFirst : '\n' ∉ before ++ rule := by
    rw [List.mem_append, not_or]
    exact ⟨single, by decide⟩
  refine ⟨above, between, start, body, plain, singleFirst, plainBetween, rfl, ?_, last, ?_⟩
  · rw [whole, wholeRest]
    simp
  · rw [cutHead?_of_startsWith begins, whole, cutAtText_headEnd_ended_dashed plain single,
      Option.bind_some, wholeRest, cutAtText_headEnd_ended_dashed plainBetween singleStart]

theorem cutHead?_eq_none {text : Text} (few : (dashed text).length < 2) : cutHead? text = none := by
  by_cases begins : Text.startsWith text rule
  · rw [cutHead?_of_startsWith begins]
    match found : dashed text with
    | [] => rw [cutAtText_headEnd_of_nil found]; rfl
    | [line] =>
      obtain ⟨above, start, rest, plain, single, -, whole, later⟩ := exists_plain_of_dashed found
      rw [whole, cutAtText_headEnd_ended_dashed plain single, Option.bind_some,
        cutAtText_headEnd_of_nil later]
    | _ :: _ :: _ =>
      rw [found, List.length_cons, List.length_cons] at few
      omega
  · exact cutHead?_of_not_startsWith (Bool.eq_false_iff.2 begins)

section Headed

variable {text head body : Text}

theorem Headed.startsWith (headed : Headed text head body) : Text.startsWith text rule := by
  obtain ⟨lines, -, -, rfl⟩ := headed
  rfl

theorem Headed.head?_lines (headed : Headed text head body) : (Text.lines text).head? = some rule := by
  obtain ⟨lines, -, -, rfl⟩ := headed
  rw [Text.ended_cons, List.append_assoc, List.cons_append, Text.lines_append_break,
    Text.lines_of_not_mem (by decide)]
  rfl

/-- The lines that end in dashes where a text has a head: the rules, and between them those of the
head. Without such lines the text is cut at the rules. -/
theorem Headed.dashed_eq (headed : Headed text head body) : ∃ inner, dashed text =
    rule :: (inner ++ rule :: dashed body) ∧ (∀ line ∈ inner, line ≠ rule) ∧
      (inner = [] → cutHead? text = some (head, body)) := by
  have begins := headed.startsWith
  obtain ⟨lines, others, rfl, whole⟩ := headed
  have single : ∀ line ∈ lines, '\n' ∉ line := fun line member => (others line member).1
  have split : text = Text.ended [] ++ ([] ++ rule ++ '\n' ::
      (Text.ended lines ++ ([] ++ rule ++ '\n' :: body))) := by simp [whole]
  refine ⟨lines.filter fun line => Text.endsWith line rule, ?_, ?_, ?_⟩
  · rw [split, Text.ended_nil, List.nil_append, List.nil_append, dashed_append_break (by decide),
      if_pos (by decide), dashed_ended_append single, dashed_append_break (by decide),
      if_pos (by decide)]
  · exact fun line member => (others line (List.mem_of_mem_filter member)).2
  · intro none'
    have plain : ArePlain lines := fun line member =>
      ⟨single line member, Bool.eq_false_iff.2 (List.filter_eq_nil_iff.1 none' line member)⟩
    rw [cutHead?_of_startsWith begins, split,
      cutAtText_headEnd_ended_dashed (by simp [ArePlain]) List.not_mem_nil, Option.bind_some,
      cutAtText_headEnd_ended_dashed plain List.not_mem_nil, List.append_nil]

/-- Where the first lines that end in dashes are rules, a text with a head is cut at them. -/
theorem Headed.cutHead?_eq (headed : Headed text head body) (ruled : isRuled text) :
    cutHead? text = some (head, body) := by
  obtain ⟨inner, found, others, cut⟩ := headed.dashed_eq
  cases inner with
  | nil => exact cut rfl
  | cons line inner =>
    have rules := (isRuled_of_cons found).1 ruled headed.startsWith
    exact absurd rules.2 (others line List.mem_cons_self)

/-- Where all but two of the lines that end in dashes are those of the body, the second one is the
rule below the head. -/
theorem Headed.second_eq (headed : Headed text head body) {first second : Text}
    (found : dashed text = first :: second :: dashed body) : second = rule := by
  obtain ⟨inner, rules, -, -⟩ := headed.dashed_eq
  rw [found] at rules
  have later := (List.cons.inj rules).2
  cases inner with
  | nil => exact (List.cons.inj later).1
  | cons line inner =>
    have counted : (dashed body).length = (inner ++ rule :: dashed body).length :=
      congrArg List.length (List.cons.inj later).2
    rw [List.length_append, List.length_cons] at counted
    omega

end Headed

/-- A rule that is the first line of a text is its first line that ends in dashes. -/
theorem eq_of_head?_lines {above between : List Text} {first rest : Text} (plain : ArePlain above)
    (single : '\n' ∉ first)
    (begins : (Text.lines (Text.ended (above ++ first :: between) ++ rest)).head? = some rule) :
    above = [] ∧ first = rule := by
  have headOfLine {line : Text} (single : '\n' ∉ line) (later : Text) :
      (Text.lines (line ++ '\n' :: later)).head? = some line := by
    rw [Text.lines_append_break, Text.lines_of_not_mem single]
    rfl
  cases above with
  | nil =>
    rw [List.nil_append, Text.ended_cons, List.append_assoc, List.cons_append,
      headOfLine single] at begins
    exact ⟨rfl, Option.some.inj begins⟩
  | cons line above =>
    obtain ⟨singleLine, plainLine⟩ := plain line List.mem_cons_self
    rw [List.cons_append, Text.ended_cons, List.append_assoc, List.cons_append,
      headOfLine singleLine] at begins
    rw [Option.some.inj begins] at plainLine
    exact absurd plainLine (by decide)

/-- Where the first lines that end in dashes are rules, only a text with a head is cut. -/
theorem headed_of_cutHead? {text head body : Text} (cut : cutHead? text = some (head, body))
    (ruled : isRuled text) : Headed text head body := by
  by_cases begins : Text.startsWith text rule
  · match found : dashed text with
    | [] => rw [cutHead?_eq_none (by rw [found]; decide)] at cut; exact nomatch cut
    | [_] => rw [cutHead?_eq_none (by rw [found]; exact Nat.one_lt_two)] at cut; exact nomatch cut
    | first :: second :: others =>
      obtain ⟨above, between, start, last, plain, single, plainBetween, same, whole, -, cut'⟩ :=
        exists_cutHead? found begins
      obtain ⟨firstLine, rfl⟩ := (isRuled_of_cons found).1 ruled begins
      rw [cut'] at cut
      obtain ⟨rfl, rfl⟩ := Prod.mk.inj (Option.some.inj cut)
      obtain rfl : start = [] := List.self_eq_append_left.1 same
      obtain ⟨rfl, rfl⟩ := eq_of_head?_lines plain single (whole ▸ firstLine)
      refine ⟨between, fun line member => ⟨(plainBetween line member).1, ?_⟩, List.append_nil _, ?_⟩
      · rintro rfl
        exact absurd (plainBetween _ member).2 (by decide)
      · rw [whole]
        simp
  · rw [cutHead?_of_not_startsWith (Bool.eq_false_iff.2 begins)] at cut
    exact nomatch cut

theorem length_joinBreaks_le (text : Text) : (Text.joinBreaks text).length ≤ text.length := by
  induction text using Text.joinBreaks.induct with
  | case1 => exact Nat.le_refl 0
  | case2 rest inductionHypothesis =>
    rw [Text.joinBreaks, List.length_cons, List.length_cons, List.length_cons]
    omega
  | case3 c rest other inductionHypothesis =>
    rw [Text.joinBreaks.eq_3 c rest other, List.length_cons, List.length_cons]
    omega

end Prose

namespace Vault

variable {yaml : Yaml.Loader}

theorem headOf_of_cut {text head body : Text} (cut : Prose.cutHead? text = some (head, body)) :
    headOf yaml text = parseHead yaml head := by
  rw [headOf, cut]

theorem headOf_of_none {text : Text} (uncut : Prose.cutHead? text = none) :
    headOf yaml text = .ok (some []) := by
  rw [headOf, uncut]

end Vault

namespace Prose

theorem bodyOf_of_cut {text head body : Text}
    (cut : cutHead? (Text.joinBreaks text) = some (head, body)) : bodyOf text = body := by
  rw [bodyOf, cut]

theorem bodyOf_of_none {text : Text} (uncut : cutHead? (Text.joinBreaks text) = none) :
    bodyOf text = text := by
  rw [bodyOf, uncut]

/-- A text whose head and body are what its lines say, whatever reads heads: with a head between
rules, the head is read and the rest is the body; without one, there is nothing to read and all of
it is the body. -/
structure IsCutAtRules (text : Text) : Prop where
  headed : ∀ head body, Headed (Text.joinBreaks text) head body →
    bodyOf text = body ∧
      ∀ yaml, Vault.headOf yaml (Text.joinBreaks text) = Vault.parseHead yaml head
  headless : (∀ head body, ¬ Headed (Text.joinBreaks text) head body) →
    bodyOf text = text ∧ ∀ yaml, Vault.headOf yaml (Text.joinBreaks text) = .ok (some [])

/-- Head and body are cut at whole lines exactly if the first two lines that end in dashes are
rules and the text begins with one, or the text does not begin with dashes, or has fewer than two
such lines. -/
theorem isCutAtRules_iff (text : Text) : IsCutAtRules text ↔ isRuled (Text.joinBreaks text) := by
  constructor
  · intro cutAtRules
    match found : dashed (Text.joinBreaks text) with
    | [] => exact isRuled_of_few (by rw [found]; decide)
    | [_] => exact isRuled_of_few (by rw [found]; exact Nat.one_lt_two)
    | first :: second :: others =>
      rw [isRuled_of_cons found]
      intro begins
      obtain ⟨above, between, start, body, -, -, -, -, whole, last, cut⟩ :=
        exists_cutHead? found begins
      have bodyEq := bodyOf_of_cut cut
      by_cases headless : ∀ head body, ¬ Headed (Text.joinBreaks text) head body
      · have same := congrArg List.length (cutAtRules.headless headless).1
        have shorter := length_joinBreaks_le text
        have longer := congrArg List.length whole
        rw [List.length_append, List.length_append, List.length_cons] at longer
        rw [bodyEq] at same
        omega
      · simp only [not_forall, not_not] at headless
        obtain ⟨head, rest, headed⟩ := headless
        have same := (cutAtRules.headed head rest headed).1
        rw [bodyEq] at same
        rw [same] at last
        exact ⟨headed.head?_lines, headed.second_eq (last ▸ found)⟩
  · intro ruled
    constructor
    · intro head body headed
      have cut := headed.cutHead?_eq ruled
      exact ⟨bodyOf_of_cut cut, fun _ => Vault.headOf_of_cut cut⟩
    · intro headless
      have uncut : cutHead? (Text.joinBreaks text) = none :=
        Option.eq_none_iff_forall_ne_some.2 fun (head, body) cut =>
          headless head body (headed_of_cutHead? cut ruled)
      exact ⟨bodyOf_of_none uncut, fun _ => Vault.headOf_of_none uncut⟩

/-- A line of a head that ends in dashes is cut there. -/
theorem exists_cut_in_line : ¬ IsCutAtRules "---\ntitle: a ---\nstatus: x\n---\nBody" ∧
    ¬ IsCutAtRules "----\n\nIntro\n\n---\nRest\n" := by
  constructor
  · intro cutAtRules
    have headed : Headed (Text.joinBreaks "---\ntitle: a ---\nstatus: x\n---\nBody")
        (Text.ended ["title: a ---", "status: x"]) "Body" :=
      ⟨["title: a ---", "status: x"], by decide, rfl, by decide⟩
    have body := (cutAtRules.headed _ _ headed).1
    exact absurd body (by decide)
  · intro cutAtRules
    have headless : ∀ head body, ¬ Headed (Text.joinBreaks "----\n\nIntro\n\n---\nRest\n") head body :=
      fun head body headed => absurd headed.head?_lines (by decide)
    have body := (cutAtRules.headless headless).1
    exact absurd body (by decide)

end Prose

end CampaignPress
