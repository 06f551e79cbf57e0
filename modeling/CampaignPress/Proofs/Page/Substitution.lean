/-
This file says what the tokens of a text come to when HTML takes the place of
some of them. A fence in a reserved language and code that is a directive each
become one token of HTML, another fence loses the blanks at its end, and every
other token stays. Nothing that a token comes to is a reserved fence or a
directive again, so a second pass over the tokens changes nothing.
-/
import CampaignPress.Page.Substitution
import CampaignPress.Proofs.Mechanics.Recognition
import CampaignPress.Proofs.Text.Lines
import CampaignPress.Proofs.Value.Text

namespace CampaignPress

namespace Page

open Markdown (Token)

/-! ### Languages -/

/-- The languages whose fences are shown as HTML of their own. -/
def reservedLanguages : List Text := Mechanics.language :: Query.language :: placeLanguages

/-- The first word of what follows the marks of a fence; a single space parts two words. -/
def IsFirstWord (language info : Text) : Prop :=
  (Text.splitOn ' ' (Text.trim info)).head? = some language

theorem isFirstWord_iff {language info : Text} :
    IsFirstWord language info ↔ languageOf info = language := by
  have head (text : Text) : (Text.splitOn ' ' text).head? = some (text.takeWhile (· ≠ ' ')) := by
    induction text with
    | nil => rfl
    | cons c text inductionHypothesis =>
      have first : (Text.pieces (· == ' ') text).1 = text.takeWhile (· ≠ ' ') :=
        Option.some.inj inductionHypothesis
      by_cases space : c = ' '
      · simp [Text.splitOn, Text.splitWhere, Text.pieces, space]
      · simp [Text.splitOn, Text.splitWhere, Text.pieces, space, first]
  rw [IsFirstWord, head, languageOf, Option.some.injEq]

theorem fenceHtml?_eq_none_iff (site : Site) (language source : Text) :
    fenceHtml? site language source = none ↔ language ∉ reservedLanguages := by
  rw [fenceHtml?, reservedLanguages, List.mem_cons, List.mem_cons]
  split_ifs with mechanics query place
  · simp [mechanics]
  · simp [query]
  · simp [List.elem_iff.1 place]
  · simp [mechanics, query, mt List.elem_iff.2 place]

/-! ### What tokens come to -/

/-- The token of HTML in the place of a fence. -/
def blockToken (html : Html) : Token :=
  { kind := .htmlBlock, content := html.write ++ "\n", block := true }

/-- The token of HTML in the place of code. -/
def inlineToken (html : Html) : Token := { kind := .htmlInline, content := html.write }

/-- In a line, code that is read as a directive, malformed or not, becomes HTML. Everything else
stays. -/
inductive ChildComesTo (site : Site) : Token → Token → Prop
  | directive {child : Token} {html : Html} (code : child.kind = .code)
    (read : Directive.read? child.content ≠ none)
    (shown : Directive.renderCode? site child.content = some (.ok html)) :
    ChildComesTo site child (inlineToken html)
  | other {child : Token} (unread : child.kind = .code → Directive.read? child.content = none) :
    ChildComesTo site child child

/-- A fence becomes HTML if its language is reserved, and else loses the blanks at its end. In a line
each of the tokens that stand in it directly comes to its own. Everything else stays. -/
inductive ComesTo (site : Site) : Token → Token → Prop
  | reserved {token : Token} {language : Text} {html : Html} (fence : token.kind = .fence)
    (word : IsFirstWord language token.info) (known : language ∈ reservedLanguages)
    (shown : fenceHtml? site language (Text.trimEnd token.content) = some (.ok html)) :
    ComesTo site token (blockToken html)
  | fence {token : Token} {language : Text} (fence : token.kind = .fence)
    (word : IsFirstWord language token.info) (unknown : language ∉ reservedLanguages) :
    ComesTo site token { token with content := Text.trimEnd token.content }
  | line {token : Token} {children shown : List Token} (line : token.kind = .inline)
    (inside : token.children = some children)
    (each : List.Forall₂ (ChildComesTo site) children shown) :
    ComesTo site token { token with children := some shown }
  | other {token : Token} (plain : token.kind ≠ .fence)
    (empty : token.kind = .inline → token.children = none) : ComesTo site token token

/-- No fence in a reserved language and no directive among some tokens fails to be shown. -/
structure NoneFails (site : Site) (tokens : List Token) : Prop where
  fences : ∀ token ∈ tokens, token.kind = .fence → ∀ language, IsFirstWord language token.info →
    ∀ result, fenceHtml? site language (Text.trimEnd token.content) = some result → Succeeds result
  directives : ∀ token ∈ tokens, token.kind = .inline → ∀ children, token.children = some children →
    ∀ child ∈ children, child.kind = .code →
      ∀ result, Directive.renderCode? site child.content = some result → Succeeds result

section Tokens

variable {site : Site} {token child shown : Token}

/-! ### Code -/

/-- Code without the mark of directives is none, so nothing is lost where it is not read. -/
theorem read?_eq_none_of_unmarked {code : Text}
    (unmarked : ¬ Text.startsWith code Directive.mark) : Directive.read? code = none :=
  Directive.read?_eq_none_iff.2 (.inl fun marked => unmarked (List.isPrefixOf_iff_prefix.2 marked))

theorem renderCode?_eq_none_iff (site : Site) (code : Text) :
    Directive.renderCode? site code = none ↔ Directive.read? code = none := Option.map_eq_none_iff

theorem substituteCode_of_unread
    (unread : child.kind = .code → Directive.read? child.content = none) :
    substituteCode site child = .ok child := by
  rw [substituteCode]
  split
  · rename_i marked
    have code := of_decide_eq_true (Bool.and_eq_true_iff.1 marked).1
    rw [(renderCode?_eq_none_iff site _).2 (unread code)]
  · rfl

theorem substituteCode_of_read (code : child.kind = .code)
    (read : Directive.read? child.content ≠ none) {result : Except Fault Html}
    (rendered : Directive.renderCode? site child.content = some result) :
    substituteCode site child = result.map inlineToken := by
  have marked : Text.startsWith child.content Directive.mark := by
    by_contra unmarked
    exact read (read?_eq_none_of_unmarked unmarked)
  rw [substituteCode, if_pos (Bool.and_eq_true_iff.2 ⟨decide_eq_true code, marked⟩), rendered]
  rfl

theorem substituteCode_eq_ok_iff :
    substituteCode site child = .ok shown ↔ ChildComesTo site child shown := by
  constructor
  · intro done
    by_cases unread : child.kind = .code → Directive.read? child.content = none
    · obtain rfl := Except.ok.inj ((substituteCode_of_unread unread).symm.trans done)
      exact .other unread
    · obtain ⟨code, read⟩ := Classical.not_imp.1 unread
      obtain ⟨result, rendered⟩ :=
        Option.ne_none_iff_exists'.1 (mt (renderCode?_eq_none_iff site _).1 read)
      rw [substituteCode_of_read code read rendered] at done
      cases result with
      | error cause => exact nomatch done
      | ok html =>
        obtain rfl := Except.ok.inj done
        exact .directive code read rendered
  · rintro (⟨code, read, rendered⟩ | unread)
    · rw [substituteCode_of_read code read rendered]
      rfl
    · exact substituteCode_of_unread unread

/-! ### Tokens -/

theorem substituteFence_of_unknown {language : Text} (word : IsFirstWord language token.info)
    (unknown : language ∉ reservedLanguages) :
    substituteFence site token = .ok { token with content := Text.trimEnd token.content } := by
  rw [substituteFence]
  dsimp only
  rw [isFirstWord_iff.1 word, (fenceHtml?_eq_none_iff site _ _).2 unknown]

theorem substituteFence_of_reserved {language : Text} (word : IsFirstWord language token.info)
    {result : Except Fault Html}
    (rendered : fenceHtml? site language (Text.trimEnd token.content) = some result) :
    substituteFence site token = result.map blockToken := by
  rw [substituteFence]
  dsimp only
  rw [isFirstWord_iff.1 word, rendered]
  rfl

theorem substituteToken_of_other (plain : token.kind ≠ .fence)
    (empty : token.kind = .inline → token.children = none) :
    substituteToken site token = .ok token := by
  rw [substituteToken]
  split
  · rename_i fence
    exact absurd fence plain
  · rename_i line inside
    exact nomatch (empty line).symm.trans inside
  · rfl

theorem substituteToken_of_line {children : List Token} (line : token.kind = .inline)
    (inside : token.children = some children) :
    substituteToken site token = (do
      return { token with children := some (← children.mapM (substituteCode site)) }) := by
  rw [substituteToken, line, inside]

theorem substituteToken_of_fence (fence : token.kind = .fence) :
    substituteToken site token = substituteFence site token := by
  rw [substituteToken, fence]

/-- A token is substituted by what it comes to. -/
theorem substituteToken_eq_ok_iff :
    substituteToken site token = .ok shown ↔ ComesTo site token shown := by
  constructor
  · intro done
    by_cases fence : token.kind = .fence
    · rw [substituteToken_of_fence fence] at done
      have word : IsFirstWord (languageOf token.info) token.info := isFirstWord_iff.2 rfl
      by_cases known : languageOf token.info ∈ reservedLanguages
      · obtain ⟨result, rendered⟩ := Option.ne_none_iff_exists'.1
          (mt (fenceHtml?_eq_none_iff site _ (Text.trimEnd token.content)).1 (not_not_intro known))
        rw [substituteFence_of_reserved word rendered] at done
        cases result with
        | error cause => exact nomatch done
        | ok html =>
          obtain rfl := Except.ok.inj done
          exact .reserved fence word known rendered
      · obtain rfl := Except.ok.inj ((substituteFence_of_unknown word known).symm.trans done)
        exact .fence fence word known
    · by_cases empty : token.kind = .inline → token.children = none
      · obtain rfl := Except.ok.inj ((substituteToken_of_other fence empty).symm.trans done)
        exact .other fence empty
      · obtain ⟨line, some'⟩ := Classical.not_imp.1 empty
        obtain ⟨children, inside⟩ := Option.ne_none_iff_exists'.1 some'
        rw [substituteToken_of_line line inside] at done
        obtain ⟨others, each, same⟩ := bind_eq_ok.1 done
        obtain rfl := Except.ok.inj same
        exact .line line inside ((forall₂_of_mapM each).imp fun _ _ => substituteCode_eq_ok_iff.1)
  · rintro (⟨fence, word, known, rendered⟩ | ⟨fence, word, unknown⟩ | ⟨line, inside, each⟩ |
      ⟨plain, empty⟩)
    · rw [substituteToken_of_fence fence, substituteFence_of_reserved word rendered]
      rfl
    · rw [substituteToken_of_fence fence, substituteFence_of_unknown word unknown]
    · rw [substituteToken_of_line line inside,
        mapM_of_forall₂ (each.imp fun _ _ => substituteCode_eq_ok_iff.2)]
      rfl
    · exact substituteToken_of_other plain empty

/-! ### Settled tokens -/

/-- Steps that lead nowhere from where they lead lead a list nowhere either. -/
theorem forall₂_settled {Step : Token → Token → Prop} {tokens result : List Token}
    (each : List.Forall₂ Step tokens result)
    (settles : ∀ token shown, Step token shown → Step shown shown) :
    List.Forall₂ Step result result := by
  induction each with
  | nil => exact .nil
  | cons here _ inductionHypothesis => exact .cons (settles _ _ here) inductionHypothesis

/-- What stands in a line after one pass stays in the next one. -/
theorem ChildComesTo.settled (comes : ChildComesTo site child shown) :
    ChildComesTo site shown shown := by
  cases comes with
  | directive code read rendered => exact .other (nomatch ·)
  | other unread => exact .other unread

/-- What a token comes to stays in the next pass. -/
theorem ComesTo.settled (comes : ComesTo site token shown) : ComesTo site shown shown := by
  cases comes with
  | reserved fence word known rendered => exact .other (nomatch ·) (nomatch ·)
  | fence fence word unknown =>
    have again : ComesTo site { token with content := Text.trimEnd token.content }
        { token with content := Text.trimEnd (Text.trimEnd token.content) } :=
      .fence fence word unknown
    have twice : Text.trimEnd (Text.trimEnd token.content) = Text.trimEnd token.content :=
      Text.dropEnd_dropEnd Text.isBlank token.content
    rwa [twice] at again
  | line line inside each =>
    exact .line line rfl (forall₂_settled each fun _ _ comes => comes.settled)
  | other plain empty => exact .other plain empty

/-! ### Failures -/

theorem succeeds_map {result : Except Fault Html} {build : Html → Token} (shown : Succeeds result) :
    Succeeds (result.map build) := by
  obtain ⟨html, rfl⟩ := shown
  exact .ok _

theorem succeeds_substituteChild (shown : child.kind = .code →
    ∀ result, Directive.renderCode? site child.content = some result → Succeeds result) :
    Succeeds (substituteCode site child) := by
  by_cases unread : child.kind = .code → Directive.read? child.content = none
  · exact ⟨child, substituteCode_of_unread unread⟩
  · obtain ⟨code, read⟩ := Classical.not_imp.1 unread
    obtain ⟨result, rendered⟩ :=
      Option.ne_none_iff_exists'.1 (mt (renderCode?_eq_none_iff site _).1 read)
    rw [substituteCode_of_read code read rendered]
    exact succeeds_map (shown code result rendered)

variable {tokens : List Token}

theorem NoneFails.succeeds (quiet : NoneFails site tokens) (member : token ∈ tokens) :
    Succeeds (substituteToken site token) := by
  by_cases fence : token.kind = .fence
  · have word : IsFirstWord (languageOf token.info) token.info := isFirstWord_iff.2 rfl
    rw [substituteToken_of_fence fence]
    cases rendered : fenceHtml? site (languageOf token.info) (Text.trimEnd token.content) with
    | none =>
      exact ⟨_, substituteFence_of_unknown word ((fenceHtml?_eq_none_iff site _ _).1 rendered)⟩
    | some result =>
      rw [substituteFence_of_reserved word rendered]
      exact succeeds_map (quiet.fences token member fence _ word result rendered)
  · by_cases empty : token.kind = .inline → token.children = none
    · exact ⟨token, substituteToken_of_other fence empty⟩
    · obtain ⟨line, some'⟩ := Classical.not_imp.1 empty
      obtain ⟨children, inside⟩ := Option.ne_none_iff_exists'.1 some'
      rw [substituteToken_of_line line inside]
      refine (succeeds_mapM fun child inChildren => ?_).bind fun _ => .ok _
      exact succeeds_substituteChild
        (quiet.directives token member line children inside child inChildren)

theorem noneFails_of_substitute {result : List Token} (done : substitute site tokens = .ok result) :
    NoneFails site tokens := by
  have each {token : Token} (member : token ∈ tokens) : ∃ shown, ComesTo site token shown := by
    obtain ⟨shown, -, here⟩ := exists_mem_of_mapM done member
    exact ⟨shown, substituteToken_eq_ok_iff.1 here⟩
  constructor
  · intro token member fence language word result rendered
    obtain ⟨shown, comes⟩ := each member
    have same {other : Text} (first : IsFirstWord other token.info) : other = language :=
      (isFirstWord_iff.1 first).symm.trans (isFirstWord_iff.1 word)
    cases comes with
    | reserved _ first _ here =>
      rw [same first, rendered] at here
      exact ⟨_, Option.some.inj here⟩
    | fence _ first unknown =>
      rw [same first, ← fenceHtml?_eq_none_iff site language (Text.trimEnd token.content),
        rendered] at unknown
      exact nomatch unknown
    | line line _ _ => exact nomatch fence.symm.trans line
    | other plain _ => exact absurd fence plain
  · intro token member line children inside child inChildren code result rendered
    obtain ⟨shown, comes⟩ := each member
    cases comes with
    | reserved fence _ _ _ => exact nomatch fence.symm.trans line
    | fence fence _ _ => exact nomatch fence.symm.trans line
    | line _ within inner =>
      obtain rfl := Option.some.inj (inside.symm.trans within)
      obtain ⟨other, -, here⟩ := exists_mem_of_mapM
        (mapM_of_forall₂ (inner.imp fun _ _ => substituteCode_eq_ok_iff.2)) inChildren
      have read : Directive.read? child.content ≠ none := fun none' => by
        rw [(renderCode?_eq_none_iff site _).2 none'] at rendered
        exact nomatch rendered
      rw [substituteCode_of_read code read rendered] at here
      cases result with
      | error cause => exact nomatch here
      | ok html => exact .ok html
    | other _ empty => exact nomatch inside.symm.trans (empty line)

end Tokens

/-! ### Passes -/

/-- If none of the fences and directives fails to be shown, and only then, all tokens are substituted,
each by what it comes to and in its place, and to substitute the outcome again changes nothing. -/
theorem noneFails_iff_settles (site : Site) (tokens : List Token) :
    NoneFails site tokens ↔ ∃ result, substitute site tokens = .ok result ∧
      List.Forall₂ (ComesTo site) tokens result ∧ substitute site result = .ok result := by
  constructor
  · intro quiet
    obtain ⟨result, done⟩ : Succeeds (substitute site tokens) :=
      succeeds_mapM fun token member => quiet.succeeds member
    have each := (forall₂_of_mapM done).imp fun _ _ => substituteToken_eq_ok_iff.1
    have again := forall₂_settled each fun _ _ comes => comes.settled
    exact ⟨result, done, each, mapM_of_forall₂ (again.imp fun _ _ => substituteToken_eq_ok_iff.2)⟩
  · rintro ⟨result, done, -, -⟩
    exact noneFails_of_substitute done

/-- A fence that leaves a place, one with blanks at its end, a line with a directive, a malformed one,
other code and an image with code inside, and code that stands in no line. -/
theorem noneFails_iff_settles_mixed :
    let site : Site := .ofNotes [] [] [] .standard
    let place : Token := { kind := .fence, info := " iron-vault-track x", content := "a\n" }
    let script : Token := { kind := .fence, info := "python", content := "x = 1 \n\n" }
    let directive : Token := { kind := .code, content := "iv-noroll:Gather" }
    let malformed : Token := { kind := .code, content := "iv-noroll: |x" }
    let other : Token := { kind := .code, content := "iv-x:1" }
    let image : Token := { kind := .image, children := some [directive] }
    let line : Token := { kind := .inline, children := some [directive, malformed, other, image] }
    let tokens := [place, script, line, directive]
    NoneFails site tokens ∧ ∃ result, substitute site tokens = .ok result ∧
      List.Forall₂ (ComesTo site) tokens result ∧ substitute site result = .ok result ∧
      result.map Token.kind = [.htmlBlock, .fence, .inline, .code] := by
  intro site place script directive malformed other image line tokens
  have quiet : NoneFails site tokens := by
    constructor
    · intro token member fence language word result rendered
      obtain rfl := isFirstWord_iff.1 word
      simp only [tokens, List.mem_cons, List.not_mem_nil, or_false] at member
      rcases member with rfl | rfl | rfl | rfl
      · exact ⟨_, (Option.some.inj rendered).symm⟩
      · exact nomatch rendered
      · exact nomatch fence
      · exact nomatch fence
    · intro token member inLine children inside child inChildren code result rendered
      simp only [tokens, List.mem_cons, List.not_mem_nil, or_false] at member
      rcases member with rfl | rfl | rfl | rfl
      · exact nomatch inLine
      · exact nomatch inLine
      · obtain rfl := Option.some.inj inside
        simp only [List.mem_cons, List.not_mem_nil, or_false] at inChildren
        rcases inChildren with rfl | rfl | rfl | rfl
        · exact ⟨_, (Option.some.inj rendered).symm⟩
        · exact ⟨_, (Option.some.inj rendered).symm⟩
        · exact nomatch rendered
        · exact nomatch code
      · exact nomatch inLine
  obtain ⟨result, done, each, again⟩ := (noneFails_iff_settles site tokens).1 quiet
  obtain rfl := Except.ok.inj (done.symm.trans rfl)
  exact ⟨quiet, _, done, each, again, rfl⟩

end Page

end CampaignPress
