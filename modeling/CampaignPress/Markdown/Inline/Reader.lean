/-
This file reads running text: at every place the first rule that applies takes
its part, and a character to which no rule applies is plain text.
-/
import CampaignPress.Markdown.Inline.Emphasis
import CampaignPress.Markdown.Inline.Link

namespace CampaignPress.Markdown.Inline

/-- The rules in the order in which they are tried. -/
def rules (inner : Inner) : List InlineRule :=
  [text, newline, escape, code, deletion, emphasis, link inner, image inner, inlineNote inner,
    noteMention, autolink, html, entity]

/-- The outcome of the first rule that applies. -/
def tryRules (silent : Bool) : List InlineRule → InlineState → Bool × InlineState
  | [], state => (false, state)
  | rule :: rules, state =>
    match rule silent state with
    | (true, state) => (true, state)
    | (false, state) => tryRules silent rules state

/-! ### Passing over -/

/-- Passes over one token. Where nesting is too deep, the whole text is passed over. -/
def skipWith (skip : InlineState → InlineState) (state : InlineState) : InlineState :=
  match state.passed.lookup state.place with
  | some after => state.moveTo after
  | none =>
    let start := state.place
    let inner : Inner := ⟨skip, id, fun _ _ notes => ([], notes)⟩
    let (applied, after) :=
      if state.level < deepestLevel then
        let (applied, after) :=
          tryRules true (rules inner) { state with level := state.level + 1 }
        (applied, { after with level := state.level })
      else (false, state.moveTo state.limit)
    let after := if applied then after else after.moveTo (after.place + 1)
    { after with passed := (start, after.place) :: after.passed }

/-- Passes over one token, with brackets in brackets to a depth. -/
def skip : (depth : Nat) → InlineState → InlineState
  | 0 => fun state => state.moveTo (state.place + 1)
  | depth + 1 => skipWith (skip depth)

/-! ### Reading -/

/-- Reads up to the limit; `room` bounds the tokens left. -/
def readFrom (rules : List InlineRule) : (room : Nat) → InlineState → InlineState
  | 0, state => state.flush
  | room + 1, state =>
    if state.limit ≤ state.place then state.flush
    else
      let (applied, after) :=
        if state.level < deepestLevel then tryRules false rules state else (false, state)
      if applied then readFrom rules room after
      else
        let plain := after.here?.toList
        readFrom rules room ((after.addPending plain).moveTo (after.place + 1))

/-- Reads up to the limit, with text in brackets to a depth. -/
def read : (depth : Nat) → InlineState → InlineState
  | 0 => fun state => state
  | depth + 1 => fun state =>
    let inner : Inner :=
      { skip := skip state.source.size
        read := read depth
        readText := fun text references footnotes =>
          let after := read depth (.begin text references footnotes)
          (finish after, after.footnotes) }
    readFrom (rules inner) (state.limit + 1 - state.place) state

/-- The tokens of a text, and the footnotes after it. -/
def tokensOf (text : Text) (references : List Reference) (footnotes : Footnotes) :
    List Token × Footnotes :=
  let after := read (text.length + 1) (.begin text references footnotes)
  (finish after, after.footnotes)

end CampaignPress.Markdown.Inline
