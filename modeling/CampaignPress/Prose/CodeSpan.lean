/-
This file hides code spans from the passes over prose. Each span is replaced by
a placeholder, the passes see the text between, and the spans are put back.
-/
import CampaignPress.Numeral
import CampaignPress.Prose.Fence

namespace CampaignPress

namespace CodeSpan

/-! ### Finding spans -/

/-- The text up to and with the next run of exactly `length` backticks on the line, and
what follows it; `run` backticks have just been passed. -/
def cutCloser? (length : Nat) : (run : Nat) → Text → Option (Text × Text)
  | run, [] => if run = length then some ([], []) else none
  | run, c :: rest =>
    if c = '`' then
      (cutCloser? length (run + 1) rest).map fun (inside, after) => ('`' :: inside, after)
    else if run = length then some ([], c :: rest)
    else if c = '\n' then none
    else (cutCloser? length 0 rest).map fun (inside, after) => (c :: inside, after)

/-- The code span at the beginning of a text, and what follows it. -/
def cut? (text : Text) : Option (Text × Text) :=
  let run := text.takeWhile (· = '`')
  if run.isEmpty then none
  else (cutCloser? run.length 0 (text.dropWhile (· = '`'))).map fun (inside, after) =>
    (run ++ inside, after)

theorem length_cutCloser? {length run : Nat} {text inside after : Text}
    (found : cutCloser? length run text = some (inside, after)) :
    after.length ≤ text.length := by
  induction text generalizing run inside after with
  | nil => unfold cutCloser? at found; split at found <;> simp_all
  | cons c rest inductionHypothesis =>
    unfold cutCloser? at found
    split at found
    · obtain ⟨⟨before, later⟩, deeper, same⟩ := Option.map_eq_some_iff.1 found
      have := inductionHypothesis deeper
      simp only [Prod.mk.injEq] at same
      simp only [List.length_cons, ← same.2]
      omega
    · split at found
      · simp only [Option.some.injEq, Prod.mk.injEq] at found
        simp [← found.2]
      · split at found
        · simp at found
        · obtain ⟨⟨before, later⟩, deeper, same⟩ := Option.map_eq_some_iff.1 found
          have := inductionHypothesis deeper
          simp only [Prod.mk.injEq] at same
          simp only [List.length_cons, ← same.2]
          omega

theorem length_cut? {text inside after : Text} (found : cut? text = some (inside, after)) :
    after.length < text.length := by
  unfold cut? at found
  simp only at found
  split at found
  · simp at found
  · rename_i some_run
    obtain ⟨⟨before, later⟩, deeper, same⟩ := Option.map_eq_some_iff.1 found
    have := length_cutCloser? deeper
    have whole := congrArg List.length (List.takeWhile_append_dropWhile (p := (· = '`')) (l := text))
    have nonempty : 0 < (text.takeWhile (· = '`')).length := by
      cases run : text.takeWhile (· = '`') with
      | nil => simp [run] at some_run
      | cons => simp
    simp only [Prod.mk.injEq] at same
    simp only [List.length_append] at whole
    rw [← same.2]
    omega

/-! ### Hiding and restoring -/

/-- The text that stands for the span with a number. -/
def placeholder (position : Nat) : Text :=
  '\x00' :: "CODE" ++ Nat.toDigits 10 position ++ ['\x00']

/-- The text with placeholders, counted from `first`, and the spans that they stand for. -/
def hideFrom (first : Nat) : Text → Text × List Text
  | [] => ([], [])
  | c :: rest =>
    match _found : cut? (c :: rest) with
    | some (span, after) =>
      let (text, spans) := hideFrom (first + 1) after
      (placeholder first ++ text, span :: spans)
    | none =>
      let (text, spans) := hideFrom first rest
      (c :: text, spans)
termination_by text => text.length
decreasing_by
  · exact length_cut? _found
  · simp

/-- The text with a placeholder for each code span, and the spans. -/
def hide (text : Text) : Text × List Text := hideFrom 0 text

/-- The digits of the placeholder at the beginning of a text, and what follows it. -/
def cutPlaceholder? (text : Text) : Option (List Nat × Text) := do
  let rest ← Text.after? ('\x00' :: "CODE") text
  let digits ← Numeral.digitValues? (rest.takeWhile Text.isDecimal)
  guard !digits.isEmpty
  match rest.dropWhile Text.isDecimal with
  | '\x00' :: after => return (digits, after)
  | _ => none

theorem length_cutPlaceholder? {text after : Text} {digits : List Nat}
    (found : cutPlaceholder? text = some (digits, after)) : after.length < text.length := by
  unfold cutPlaceholder? at found
  obtain ⟨rest, beginning, found⟩ := Option.bind_eq_some_iff.1 found
  obtain ⟨values, -, found⟩ := Option.bind_eq_some_iff.1 found
  obtain ⟨-, -, last⟩ := Option.bind_eq_some_iff.1 found
  have start := Text.length_after? beginning
  have drop := (List.dropWhile_suffix (l := rest) Text.isDecimal).length_le
  split at last
  · rename_i tail same
    simp only [Option.pure_def, Option.some.injEq, Prod.mk.injEq] at last
    rw [same] at drop
    simp only [List.length_cons, last.2] at drop
    omega
  · simp at last

/-- The span that the digits of a placeholder name. -/
def named (spans : List Text) (digits : List Nat) : Except Fault Text := do
  let position ← Numeral.ofSigned false digits
  match spans[position.toNat]? with
  | some span => return span
  | none => throw .missingSpan

/-- Puts the spans back; a placeholder that names none is a fault. -/
def restore (spans : List Text) : Text → Except Fault Text
  | [] => .ok []
  | c :: rest =>
    match _found : cutPlaceholder? (c :: rest) with
    | some (digits, after) => do
      let span ← named spans digits
      return span ++ (← restore spans after)
    | none => do return c :: (← restore spans rest)
termination_by text => text.length
decreasing_by
  · exact length_cutPlaceholder? _found
  · simp

end CodeSpan

/-! ### Passes over prose -/

namespace Prose

/-- A pass over one segment. Fenced ones stay; in others the pass sees the code hidden, and
what it notes is kept beside its text. -/
def mapSegment (pass : Text → Text × List Text) (segment : Segment) :
    Except Fault (Text × List Text) :=
  if segment.fenced then .ok (segment.toText, [])
  else do
    let (hidden, spans) := CodeSpan.hide segment.toText
    let (text, notes) := pass hidden
    return (← CodeSpan.restore spans text, notes)

/-- A pass over the text outside of fences and code spans, with all that it notes. -/
def map (pass : Text → Text × List Text) (text : Text) : Except Fault (Text × List Text) := do
  let parts ← (Segment.ofText text).mapM (mapSegment pass)
  return (Text.unlines (parts.map (·.1)), parts.flatMap (·.2))

end Prose

end CampaignPress
