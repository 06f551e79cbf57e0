/-
This file says which texts are slugs. The segments of a slug are words of small
ASCII letters, digits and underscores with single hyphens between them, which is
what is left of a name if every run of other characters is made one hyphen.
Every step on the way to a slug leaves such a text as it is, so the slug of a
slug is the slug itself.
-/
import CampaignPress.Proofs.Slug
import CampaignPress.Proofs.Text.Pieces

namespace CampaignPress

/-! ### Joined texts -/

namespace Text

theorem map_join (change : Char → Char) (separator : Char) (parts : List Text) :
    (join [separator] parts).map change =
      join [change separator] (parts.map (List.map change)) := by
  induction parts with
  | nil => rfl
  | cons part parts inductionHypothesis =>
    by_cases last : parts = []
    · rw [last]
      simp only [join, List.map_cons, List.map_nil, List.intercalate_singleton]
    · have later : parts.map (List.map change) ≠ [] := fun empty => last (List.map_eq_nil_iff.1 empty)
      rw [join_cons part last, List.map_append, List.map_cons, inductionHypothesis, List.map_cons,
        join_cons _ later]

/-- Joined texts are cut where they were joined if nothing in them is cut. -/
theorem splitWhere_join {isCut : Char → Bool} {separator : Char} (cut : isCut separator)
    {parts : List Text} (uncut : ∀ part ∈ parts, ∀ c ∈ part, isCut c = false)
    (nonempty : parts ≠ []) : splitWhere isCut (join [separator] parts) = parts := by
  have whole {part : Text} (uncut : ∀ c ∈ part, isCut c = false) (rest : Text) :
      splitWhere isCut (part ++ rest) =
        (part ++ (pieces isCut rest).1) :: (pieces isCut rest).2 := by
    rw [splitWhere, pieces_append uncut]
  induction parts with
  | nil => exact absurd rfl nonempty
  | cons part parts inductionHypothesis =>
    rw [List.forall_mem_cons] at uncut
    by_cases last : parts = []
    · have alone := whole uncut.1 []
      rw [pieces, List.append_nil] at alone
      rw [last, join, List.intercalate_singleton, alone]
    · rw [join_cons part last, whole uncut.1]
      simp only [pieces, cut, if_true, List.append_nil]
      exact congrArg (part :: ·) (inductionHypothesis uncut.2 last)

end Text

namespace Slug

/-! ### Words -/

/-- The characters of a word: small ASCII letters, digits and underscores. -/
def isWordChar (c : Char) : Bool := ('a' ≤ c && c ≤ 'z') || ('0' ≤ c && c ≤ '9') || c = '_'

def IsWord (word : Text) : Prop := word ≠ [] ∧ ∀ c ∈ word, isWordChar c

/-- Words with single hyphens between them. -/
def IsHyphenated (name : Text) : Prop :=
  ∃ words, words ≠ [] ∧ (∀ word ∈ words, IsWord word) ∧ name = Text.join ['-'] words

/-- Hyphenated names with single slashes between them. -/
def IsCanonical (slug : Text) : Prop :=
  ∃ names, (∀ name ∈ names, IsHyphenated name) ∧ slug = Text.join ['/'] names

/-- The words of a text. -/
def wordsOf (text : Text) : List Text :=
  (Text.splitWhere (fun c => !isKept c) text).filter (!·.isEmpty)

theorem mem_wordsOf {text word : Text} (member : word ∈ wordsOf text) :
    word ≠ [] ∧ ∀ c ∈ word, isKept c := by
  obtain ⟨piece, filled⟩ := List.mem_filter.1 member
  refine ⟨by simpa using filled, fun c inWord => ?_⟩
  rw [← Bool.not_eq_false']
  exact Text.isCut_of_mem_splitWhere piece inWord

theorem isKept_of_isWordChar {c : Char} (inWord : isWordChar c) : isKept c := by
  simp only [isWordChar, Bool.or_eq_true] at inWord
  simp only [isKept, Text.isAsciiAlphanumeric, Text.isAsciiLetter, Text.isAsciiDigit,
    Bool.or_eq_true]
  tauto

theorem isWordChar_small {c : Char} (kept : isKept c) : isWordChar (small c) := by
  refine of_ascii (fun c => isKept c → isWordChar (small c)) ?_ (isAscii_of_isKept kept) kept
  decide

theorem small_of_isWordChar {c : Char} (inWord : isWordChar c) : small c = c := by
  refine of_ascii (fun c => isWordChar c → small c = c) ?_
    (isAscii_of_isKept (isKept_of_isWordChar inWord)) inWord
  decide

theorem IsWord.map_small {word : Text} (isWord : IsWord word) : word.map small = word :=
  (List.map_congr_left fun c member => small_of_isWordChar (isWord.2 c member)).trans
    (List.map_id word)

theorem wordsOf_join {words : List Text} (each : ∀ word ∈ words, IsWord word)
    (nonempty : words ≠ []) : wordsOf (Text.join ['-'] words) = words := by
  have parts : Text.splitWhere (fun c => !isKept c) (Text.join ['-'] words) = words := by
    refine Text.splitWhere_join (by decide) (fun word member c inWord => ?_) nonempty
    rw [isKept_of_isWordChar ((each word member).2 c inWord)]
    rfl
  rw [wordsOf, parts]
  exact List.filter_eq_self.2 fun word member => by simpa using (each word member).1

/-! ### Segments -/

theorem IsHyphenated.isSegment {name : Text} (hyphenated : IsHyphenated name) : IsSegment name := by
  obtain ⟨words, nonempty, each, rfl⟩ := hyphenated
  refine ⟨fun empty => ?_, fun c member => ?_⟩
  · obtain ⟨word, others, rfl⟩ := List.exists_cons_of_ne_nil nonempty
    have clear : ∀ word' ∈ word :: others, '-' ∉ word' := fun word' member inWord => by
      exact absurd ((each word' member).2 '-' inWord) (by decide)
    have split := Text.splitOn_join clear nonempty
    rw [empty] at split
    obtain ⟨rfl, -⟩ := List.cons.inj split
    exact (each [] List.mem_cons_self).1 rfl
  · by_cases hyphen : c = '-'
    · rw [hyphen]
      decide
    · obtain ⟨word, inWords, inWord⟩ := (Text.mem_join hyphen).1 member
      rw [isPlain, isKept_of_isWordChar ((each word inWords).2 c inWord), Bool.true_or]

theorem segment_eq_map (name : Text) :
    segment name = (Text.join ['-'] (wordsOf (Text.plain name))).map small := rfl

/-- What is left of a name is hyphenated. -/
theorem isHyphenated_segment {name : Text} (nonempty : segment name ≠ []) :
    IsHyphenated (segment name) := by
  have joined : segment name =
      Text.join ['-'] ((wordsOf (Text.plain name)).map (List.map small)) :=
    Text.map_join small '-' (wordsOf (Text.plain name))
  rw [joined] at nonempty ⊢
  refine ⟨_, fun empty => nonempty (by rw [empty]; rfl), fun word member => ?_, rfl⟩
  obtain ⟨large, inWords, rfl⟩ := List.mem_map.1 member
  obtain ⟨filled, kept⟩ := mem_wordsOf inWords
  refine ⟨fun empty => filled (List.map_eq_nil_iff.1 empty), fun c inWord => ?_⟩
  obtain ⟨source, inLarge, rfl⟩ := List.mem_map.1 inWord
  exact isWordChar_small (kept source inLarge)

/-- A hyphenated name is its own segment. -/
theorem segment_of_isHyphenated {name : Text} (hyphenated : IsHyphenated name) :
    segment name = name := by
  have ascii : ∀ c ∈ name, Text.isAscii c = true := fun c member =>
    decide_eq_true (isAscii_of_isPlain (hyphenated.isSegment.2 c member))
  obtain ⟨words, nonempty, each, rfl⟩ := hyphenated
  have small_words : words.map (List.map small) = words :=
    (List.map_congr_left fun word member => (each word member).map_small).trans (List.map_id words)
  rw [segment_eq_map, Text.plain_eq_self ascii, wordsOf_join each nonempty, Text.map_join, small_words]
  rfl

/-! ### Hyphens -/

/-- A text with one hyphen in place of every run of characters that no word has. -/
def hyphenate : Text → Text
  | [] => []
  | c :: rest =>
    if isKept c then c :: hyphenate rest
    else if (hyphenate rest).head? = some '-' then hyphenate rest
    else '-' :: hyphenate rest

theorem wordsOf_cons_cut {c : Char} (cut : isKept c = false) (text : Text) :
    wordsOf (c :: text) = wordsOf text := by
  simp [wordsOf, Text.splitWhere, Text.pieces, cut]

theorem wordsOf_cons_nil {c : Char} (kept : isKept c) : wordsOf [c] = [[c]] := by
  simp [wordsOf, Text.splitWhere, Text.pieces, kept]

theorem wordsOf_cons_cons_cut {c d : Char} (kept : isKept c) (cut : isKept d = false) (text : Text) :
    wordsOf (c :: d :: text) = [c] :: wordsOf text := by
  simp [wordsOf, Text.splitWhere, Text.pieces, kept, cut]

theorem exists_wordsOf_cons_cons {c d : Char} (kept : isKept c) (next : isKept d) (text : Text) :
    ∃ word words, wordsOf (d :: text) = word :: words ∧
      wordsOf (c :: d :: text) = (c :: word) :: words := by
  simp [wordsOf, Text.splitWhere, Text.pieces, kept, next]

theorem join_cons_cons (c : Char) (word : Text) (words : List Text) :
    Text.join ['-'] ((c :: word) :: words) = c :: Text.join ['-'] (word :: words) := by
  cases words with
  | nil => simp only [Text.join, List.intercalate_singleton]
  | cons next words =>
    rw [Text.join_cons _ (List.cons_ne_nil _ _), Text.join_cons _ (List.cons_ne_nil _ _),
      List.cons_append]

theorem hyphen_ne_of_isKept {c : Char} (kept : isKept c) : c ≠ '-' := by
  rintro rfl
  exact absurd kept (by decide)

/-- Whether a text begins with a character that no word has. -/
def beginsCut : Text → Bool
  | [] => false
  | c :: _ => !isKept c

theorem head?_hyphenate_eq_iff {text : Text} :
    (hyphenate text).head? = some '-' ↔ beginsCut text = true := by
  cases text with
  | nil => simp [hyphenate, beginsCut]
  | cons c rest =>
    rw [hyphenate, beginsCut]
    cases kept : isKept c with
    | false =>
      rw [if_neg Bool.false_ne_true]
      split <;> simp [*]
    | true => simp [hyphen_ne_of_isKept kept]

/-- A character that no word has adds a hyphen in front of a word only. -/
theorem hyphenate_cons_cut {c : Char} (cut : isKept c = false) (text : Text) :
    hyphenate (c :: text) = if beginsCut text then hyphenate text else '-' :: hyphenate text := by
  simp only [hyphenate, cut, Bool.false_eq_true, if_false, head?_hyphenate_eq_iff]

/-- A run of words with hyphens between them, and a hyphen on a side where the text is cut. -/
theorem exists_hyphenate_eq (text : Text) : ∃ after, (wordsOf text = [] → after = 0) ∧
    hyphenate text = List.replicate (beginsCut text).toNat '-' ++
      (Text.join ['-'] (wordsOf text) ++ List.replicate after '-') := by
  induction text with
  | nil => exact ⟨0, fun _ => rfl, rfl⟩
  | cons c text inductionHypothesis =>
    obtain ⟨after, alone, same⟩ := inductionHypothesis
    cases kept : isKept c with
    | false =>
      refine ⟨after, fun none' => alone (wordsOf_cons_cut kept text ▸ none'), ?_⟩
      rw [wordsOf_cons_cut kept, hyphenate_cons_cut kept, beginsCut, kept, same]
      cases beginsCut text <;> rfl
    | true =>
      rw [hyphenate, if_pos kept, beginsCut, kept]
      cases text with
      | nil =>
        refine ⟨0, fun _ => rfl, ?_⟩
        rw [wordsOf_cons_nil kept]
        rfl
      | cons d rest =>
        rw [same, beginsCut]
        cases next : isKept d with
        | true =>
          obtain ⟨word, words, before, whole⟩ := exists_wordsOf_cons_cons kept next rest
          refine ⟨after, fun none' => absurd (whole.symm.trans none') (List.cons_ne_nil _ _), ?_⟩
          rw [before, whole, join_cons_cons]
          rfl
        | false =>
          rw [wordsOf_cons_cut next, wordsOf_cons_cons_cut kept next]
          by_cases none' : wordsOf rest = []
          · have noMore := alone ((wordsOf_cons_cut next rest).trans none')
            refine ⟨1, fun impossible => absurd impossible (List.cons_ne_nil _ _), ?_⟩
            rw [none', noMore]
            rfl
          · refine ⟨after, fun impossible => absurd impossible (List.cons_ne_nil _ _), ?_⟩
            rw [Text.join_cons _ none']
            rfl

/-- A segment is what the plain form of a name leaves in small letters, with one hyphen for every run of
other characters and none at the ends. -/
theorem segment_eq (name : Text) : segment name =
    (Text.dropEnds (· == '-') (hyphenate (Text.plain name))).map small := by
  obtain ⟨after, -, same⟩ := exists_hyphenate_eq (Text.plain name)
  have clear : ∀ word ∈ wordsOf (Text.plain name), '-' ∉ word := fun word member inWord =>
    hyphen_ne_of_isKept ((mem_wordsOf member).2 '-' inWord) rfl
  have inner : Text.dropEnds (· == '-') (hyphenate (Text.plain name)) =
      Text.join ['-'] (wordsOf (Text.plain name)) := by
    rw [same]
    exact Text.dropEnds_join clear (fun word member => (mem_wordsOf member).1) _ after
  rw [segment_eq_map, inner]

/-! ### Slugs -/

theorem isCanonical_ofPath (path : Text) : IsCanonical (ofPath path) := by
  refine ⟨_, fun name member => ?_, rfl⟩
  obtain ⟨inSegments, nonempty⟩ := List.mem_filter.1 member
  obtain ⟨source, -, rfl⟩ := List.mem_map.1 inSegments
  exact isHyphenated_segment (by simpa using nonempty)

theorem IsCanonical.isHyphenated {slug : Text} (canonical : IsCanonical slug) (nonempty : slug ≠ []) :
    ∀ name ∈ Text.splitOn '/' slug, IsHyphenated name := by
  obtain ⟨names, each, rfl⟩ := canonical
  have uncut : ∀ name ∈ names, '/' ∉ name := fun name member =>
    (each name member).isSegment.not_mem (by decide)
  have some' : names ≠ [] := fun empty => nonempty (by rw [empty]; rfl)
  rwa [Text.splitOn_join uncut some']

theorem isCanonical_index : IsCanonical "index" := by
  have isWord : IsWord "index" := ⟨by decide, List.all_eq_true.1 (by decide)⟩
  have hyphenated : IsHyphenated "index" :=
    ⟨["index"], List.cons_ne_nil _ _, List.forall_mem_singleton.2 isWord, rfl⟩
  exact ⟨["index"], List.forall_mem_singleton.2 hyphenated, rfl⟩

theorem IsCanonical.isPlain_of_mem {slug : Text} (canonical : IsCanonical slug) {c : Char}
    (member : c ∈ slug) (other : c ≠ '/') : isPlain c := by
  obtain ⟨names, each, rfl⟩ := canonical
  obtain ⟨name, inNames, inName⟩ := (Text.mem_join other).1 member
  exact (each name inNames).isSegment.2 c inName

theorem IsCanonical.not_mem {slug : Text} (canonical : IsCanonical slug) {c : Char}
    (noPlain : isPlain c = false) (other : c ≠ '/') : c ∉ slug := fun member =>
  Bool.false_ne_true (noPlain.symm.trans (canonical.isPlain_of_mem member other))

theorem IsCanonical.isBlank_eq_false {slug : Text} (canonical : IsCanonical slug) {c : Char}
    (member : c ∈ slug) : Text.isBlank c = false := by
  by_cases slash : c = '/'
  · rw [slash]
    decide
  · exact isBlank_of_isPlain (canonical.isPlain_of_mem member slash)

set_option maxRecDepth 4000 in
theorem dropNoteEnding_of_not_mem {path : Text} (dotless : '.' ∉ path) :
    dropNoteEnding path = path := by
  refine if_neg fun ends => dotless ?_
  have dot : '.' ∈ Text.lower path := (List.isSuffixOf_iff_suffix.1 ends).subset List.mem_cons_self
  exact Text.mem_of_mem_lowerFrom (fun _ => Text.eq_of_mem_lowerChar (by decide)) (by decide) dot

/-- A canonical text is its own slug. -/
theorem IsCanonical.ofPath_eq {slug : Text} (canonical : IsCanonical slug) : ofPath slug = slug := by
  have forwarded : forward slug = slug :=
    forward_of_not_mem (canonical.not_mem (by decide) (by decide))
  have trimmed : Text.trim slug = slug := Text.trim_eq_self
    (fun c found => canonical.isBlank_eq_false (List.mem_of_mem_head? found))
    fun c found => canonical.isBlank_eq_false (List.mem_of_mem_getLast? found)
  have dotless : '.' ∉ slug := canonical.not_mem (by decide) (by decide)
  obtain ⟨names, each, rfl⟩ := canonical
  have uncut : ∀ name ∈ names, '/' ∉ name := fun name member =>
    (each name member).isSegment.not_mem (by decide)
  have filled : ∀ name ∈ names, name ≠ [] := fun name member => (each name member).isSegment.1
  have inner : Text.dropEnds (· == '/') (Text.join ['/'] names) = Text.join ['/'] names := by
    have alone := Text.dropEnds_join uncut filled 0 0
    rwa [List.replicate_zero, List.nil_append, List.append_nil] at alone
  rw [ofPath, forwarded, trimmed, inner, dropNoteEnding_of_not_mem dotless]
  by_cases nonempty : names = []
  · rw [nonempty]
    rfl
  · have segments : names.map segment = names :=
      (List.map_congr_left fun name member => segment_of_isHyphenated (each name member)).trans
        (List.map_id names)
    have kept : names.filter (!·.isEmpty) = names := List.filter_eq_self.2 fun name member => by
      simpa using filled name member
    rw [Text.splitOn_join uncut nonempty, segments]
    exact congrArg (Text.join ['/']) kept

theorem ofPath_ofPath (path : Text) : ofPath (ofPath path) = ofPath path :=
  (isCanonical_ofPath path).ofPath_eq

theorem ofPath_forward (path : Text) : ofPath (forward path) = ofPath path := by
  rw [ofPath, ofPath, forward_of_not_mem (backslash_not_mem_forward path)]

end Slug

end CampaignPress
