/-
This file tells which texts are turned into pages without a fault. A text without
null characters is always rewritten, and what the markdown engine makes of it is
shown token by token: a directive, a node or a query that is malformed leaves its
own mark and no fault. The only faults left are those of numbers that cannot be
read or written, and of fences that there is no room for on the stack.
-/
import CampaignPress.Page.Basic
import CampaignPress.Proofs.Mechanics.Limit
import CampaignPress.Proofs.Prose.Rewrite
import CampaignPress.Proofs.Query.Shown

namespace CampaignPress

/-! ### Directives -/

namespace Directive

/-- Whether code is no move with a score beyond the limit. -/
def hasScore (code : Text) : Bool :=
  match read? code with
  | some (.ok (.move record)) => Numeral.IsSmall record.roll.score
  | _ => true

/-- Code with a score within the limit is shown, as a directive or as a malformed one. -/
theorem succeeds_of_renderCode? {site : Site} {code : Text} (score : hasScore code)
    {result : Except Fault Html} (rendered : renderCode? site code = some result) :
    Succeeds result := by
  obtain ⟨outcome, read, rfl⟩ := Option.map_eq_some_iff.1 rendered
  cases outcome with
  | error error => exact .ok _
  | ok directive =>
    refine succeeds_toHtml site (isSmall_of_read? read) fun move same => ?_
    rw [hasScore, read, same] at score
    exact of_decide_eq_true score

end Directive

namespace Page

open Markdown (Token)

/-! ### Tokens -/

/-- The sources of the mechanics blocks among some tokens. -/
def blocksOf (tokens : List Token) : List Text :=
  tokens.filterMap fun token =>
    if token.kind = .fence && languageOf token.info = Mechanics.language then
      some (Text.trimEnd token.content)
    else none

/-- The inline code among some tokens. -/
def codesOf (tokens : List Token) : List Text :=
  tokens.flatMap fun token =>
    if token.kind = .inline then
      ((token.children.getD []).filter (·.kind = .code)).map Token.content
    else []

/-- Whether the numbers of mechanics among some tokens can be read and written. -/
def areBounded (tokens : List Token) : Bool :=
  (blocksOf tokens).all (fun source => Mechanics.areBounded (Node.ofBlock source)) &&
    (codesOf tokens).all Directive.hasScore

/-- There is room on the stack for the mechanics blocks and the queries among some tokens. -/
def HaveRoom (stack : Stack) (tokens : List Token) : Prop :=
  ∀ token ∈ tokens, token.kind = .fence →
    languageOf token.info ∈ [Mechanics.language, Query.language] →
    stack.shows (languageOf token.info) (Text.trimEnd token.content)

section Tokens

variable {site : Site} {token : Token}

theorem ifRoom_eq {language source : Text} (room : site.stack.shows language source)
    (html : Except Fault Html) : ifRoom site language source html = html := if_pos room

theorem succeeds_substituteFence (written : ∀ note ∈ site.notes, note.HasTexts)
    (bounded : languageOf token.info = Mechanics.language →
      Mechanics.areBounded (Node.ofBlock (Text.trimEnd token.content)))
    (room : languageOf token.info ∈ [Mechanics.language, Query.language] →
      site.stack.shows (languageOf token.info) (Text.trimEnd token.content)) :
    Succeeds (substituteFence site token) := by
  have shown {result : Except Fault Html}
      (found : fenceHtml? site (languageOf token.info) (Text.trimEnd token.content) = some result) :
      Succeeds result := by
    rw [fenceHtml?] at found
    split at found
    · rename_i mechanics
      obtain rfl := Option.some.inj found
      rw [ifRoom_eq (room (by simp [mechanics]))]
      exact Mechanics.succeeds_blockHtml _ _ (bounded mechanics)
    · split at found
      · rename_i query
        obtain rfl := Option.some.inj found
        rw [ifRoom_eq (room (by simp [query]))]
        exact Query.succeeds_blockHtml _ written _
      · split at found
        · obtain rfl := Option.some.inj found
          exact .ok _
        · exact nomatch found
  rw [substituteFence]
  dsimp only
  split
  · exact .ok _
  · rename_i result found
    obtain ⟨html, rfl⟩ := shown found
    exact .ok _

theorem succeeds_substituteCode (score : token.kind = .code → Directive.hasScore token.content) :
    Succeeds (substituteCode site token) := by
  rw [substituteCode]
  split
  · rename_i marked
    have code := of_decide_eq_true (Bool.and_eq_true_iff.1 marked).1
    split
    · exact .ok _
    · rename_i result rendered
      obtain ⟨html, rfl⟩ := Directive.succeeds_of_renderCode? (score code) rendered
      exact .ok _
  · exact .ok _

theorem succeeds_substituteToken (written : ∀ note ∈ site.notes, note.HasTexts)
    {tokens : List Token} (bounded : areBounded tokens) (room : HaveRoom site.stack tokens)
    (member : token ∈ tokens) : Succeeds (substituteToken site token) := by
  obtain ⟨blocks, codes⟩ := Bool.and_eq_true_iff.1 bounded
  rw [substituteToken]
  split
  · rename_i fence
    refine succeeds_substituteFence written (fun language => ?_) (room token member fence)
    refine List.all_eq_true.1 blocks _ (List.mem_filterMap.2 ⟨token, member, ?_⟩)
    rw [if_pos (by simp [fence, language])]
  · rename_i children inline same
    refine (succeeds_mapM fun child inChildren => succeeds_substituteCode fun code => ?_).bind
      fun _ => .ok _
    refine List.all_eq_true.1 codes _ (List.mem_flatMap.2 ⟨token, member, ?_⟩)
    rw [if_pos inline, same]
    exact List.mem_map_of_mem (List.mem_filter.2 ⟨inChildren, decide_eq_true code⟩)
  · exact .ok _

end Tokens

/-! ### Pages -/

section Pages

variable {notes : List Note} {base attachments text : Text} {icons : IconTable}

/-- Where neither the text nor the site holds a null character, the text is rewritten. If the
numbers of its mechanics and of the heads of the notes can be read and written, and there is room
on the stack for its fences, it becomes a page, in which every token of the engine stands for
itself or for what is shown in its place. -/
theorem succeeds_ofText (engine : Markdown.Engine) (stack : Stack)
    (slugs : ∀ note ∈ notes, '\x00' ∉ note.slug)
    (unmarkedBase : '\x00' ∉ base) (unmarkedAttachments : '\x00' ∉ attachments)
    (unmarkedIcons : icons.Lacks '\x00') (unmarked : '\x00' ∉ text)
    (few : (Callout.convert icons (Prose.prepare text)).length ≤ 10 ^ digitLimit)
    (written : ∀ note ∈ notes, note.HasTexts) :
    let site := Site.ofNotes notes base attachments icons engine stack
    ∃ rewritten missing, Prose.rewrite site text = .ok (rewritten, missing) ∧
      (areBounded (engine.tokensOf rewritten) → HaveRoom stack (engine.tokensOf rewritten) →
        ∃ tokens, List.Forall₂ (fun token shown => substituteToken site token = .ok shown)
          (engine.tokensOf rewritten) tokens ∧
        ofText site text = .ok ⟨engine.write tokens, missing⟩) := by
  intro site
  have clean : site.IsUnmarked :=
    Site.isUnmarked_ofNotes slugs unmarkedBase unmarkedAttachments icons engine stack
  obtain ⟨⟨rewritten, missing⟩, same⟩ := Prose.succeeds_rewrite clean unmarkedIcons unmarked few
  refine ⟨rewritten, missing, same, fun bounded room => ?_⟩
  obtain ⟨tokens, shown⟩ : Succeeds (substitute site (engine.tokensOf rewritten)) :=
    succeeds_mapM fun token member => succeeds_substituteToken written bounded room member
  exact ⟨tokens, forall₂_of_mapM shown,
    bind_eq_ok.2 ⟨_, same, bind_eq_ok.2 ⟨tokens, shown, rfl⟩⟩⟩

end Pages

/-- A link, inline code, a directive and a mechanics block. -/
theorem succeeds_ofText_kira :
    let kira : Note := ⟨"Kira.md", "kira", "Kira", [(.text "tags", .text "npc")], none⟩
    let text : Text :=
      "[[Kira]] `x` `iv-meter:Health|3|4`\n```iron-vault-mechanics\nmeter \"Health\" from=3 to=4\n```"
    let site := Site.ofNotes [kira] "/log" "/media" .standard
    ∃ page, ofText site text = .ok page ∧ page.missing = [] := by
  intro kira text site
  have slugs : ∀ note ∈ [kira], '\x00' ∉ note.slug := List.forall_mem_singleton.2 (by decide)
  have addresses : '\x00' ∉ "/log".toList ∧ '\x00' ∉ "/media".toList := by decide
  have few : (Callout.convert .standard (Prose.prepare text)).length ≤ 10 ^ digitLimit :=
    Nat.le_trans (by decide +kernel : _ ≤ 10 ^ 9) (Nat.pow_le_pow_right (by decide) (by decide))
  have written : ∀ note ∈ [kira], note.HasTexts :=
    List.forall_mem_singleton.2 (List.forall_mem_singleton.2 (.ok _))
  obtain ⟨rewritten, missing, same, page⟩ := succeeds_ofText .standard .standard slugs addresses.1
    addresses.2 (IconTable.lacks_standard (by decide)) (by decide) few written
  have expected : Prose.rewrite site text = .ok
      ("[Kira](/log/kira) `x` `iv-meter:Health|3|4`\n\n" ++
        "```iron-vault-mechanics\nmeter \"Health\" from=3 to=4\n\n```", []) := by
    decide +kernel
  obtain ⟨rfl, rfl⟩ := Prod.mk.inj (Except.ok.inj (same.symm.trans expected))
  have room : HaveRoom .standard (Markdown.Engine.standard.tokensOf
      ("[Kira](/log/kira) `x` `iv-meter:Health|3|4`\n\n" ++
        "```iron-vault-mechanics\nmeter \"Health\" from=3 to=4\n\n```")) := by
    unfold HaveRoom
    decide +kernel
  obtain ⟨tokens, -, shown⟩ := page (by decide +kernel) room
  exact ⟨_, shown, rfl⟩

/-- A placeholder in the text itself names a code span that there is none of. -/
theorem exists_fault :
    let site := Site.ofNotes [] [] "/attachments" .standard
    ¬ Succeeds (ofText site "\x00CODE5\x00") := by
  intro site
  have rewritten : Prose.rewrite site "\x00CODE5\x00" = .error .missingSpan := by decide +kernel
  rintro ⟨page, made⟩
  obtain ⟨outcome, same, -⟩ := bind_eq_ok.1 made
  exact nomatch rewritten.symm.trans same

end Page

end CampaignPress
