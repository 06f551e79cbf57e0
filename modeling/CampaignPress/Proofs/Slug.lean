/-
This file says what slugs are made of. A segment of a slug holds small letters,
digits, underscores and hyphens only, so no slug names a file with an ending or
leads out of the folder that it is looked up in.
-/
import CampaignPress.Proofs.Text.Lines
import CampaignPress.Slug

namespace CampaignPress

namespace Slug

/-! ### Characters -/

/-- The characters of a segment. -/
def isPlain (c : Char) : Bool := isKept c || c = '-'

theorem isAscii_of_isKept {c : Char} (kept : isKept c) : c.toNat < 128 := by
  simp only [isKept, Text.isAsciiAlphanumeric, Text.isAsciiLetter, Text.isAsciiDigit,
    Bool.or_eq_true, Bool.and_eq_true, decide_eq_true_eq, Char.le_def, UInt32.le_iff_toNat_le] at kept
  rw [Char.toNat]
  rcases kept with ((⟨-, high⟩ | ⟨-, high⟩) | ⟨-, high⟩) | rfl
  · exact high.trans_lt (by decide)
  · exact high.trans_lt (by decide)
  · exact high.trans_lt (by decide)
  · decide

/-- What is so of every ASCII code is so of every ASCII character. -/
theorem of_ascii (Holds : Char → Prop) (codes : ∀ code < 128, Holds (Char.ofNat code)) {c : Char}
    (ascii : c.toNat < 128) : Holds c := by
  have found := codes c.toNat ascii
  rwa [Char.ofNat_toNat] at found

theorem isPlain_small {c : Char} (kept : isKept c) : isPlain (small c) := by
  refine of_ascii (fun c => isKept c → isPlain (small c)) ?_ (isAscii_of_isKept kept) kept
  decide

theorem isAscii_of_isPlain {c : Char} (plain : isPlain c) : c.toNat < 128 := by
  rw [isPlain, Bool.or_eq_true, decide_eq_true_eq] at plain
  rcases plain with kept | rfl
  · exact isAscii_of_isKept kept
  · decide

theorem isBlank_of_isPlain {c : Char} (plain : isPlain c) : Text.isBlank c = false := by
  refine of_ascii (fun c => isPlain c → Text.isBlank c = false) ?_ (isAscii_of_isPlain plain) plain
  decide

/-! ### Segments -/

/-- A part of a slug. -/
def IsSegment (name : Text) : Prop := name ≠ [] ∧ ∀ c ∈ name, isPlain c

theorem isSegment_index : IsSegment ['i', 'n', 'd', 'e', 'x'] :=
  ⟨by decide, List.all_eq_true.1 (by decide)⟩

theorem IsSegment.not_mem {name : Text} (segment : IsSegment name) {c : Char}
    (other : isPlain c = false) : c ∉ name := fun member =>
  Bool.false_ne_true (other.symm.trans (segment.2 c member))

theorem isPlain_of_mem_segment {name : Text} {c : Char} (member : c ∈ segment name) :
    isPlain c := by
  obtain ⟨large, inWords, rfl⟩ := List.mem_map.1 member
  by_cases hyphen : large = '-'
  · rw [hyphen]
    decide
  · refine isPlain_small ?_
    obtain ⟨word, found, inWord⟩ := (Text.mem_join hyphen).1 inWords
    have kept := Text.isCut_of_mem_splitWhere (List.mem_filter.1 found).1 inWord
    rwa [Bool.not_eq_false'] at kept

theorem not_mem_segment {c : Char} (other : isPlain c = false) (name : Text) : c ∉ segment name :=
  fun member => Bool.false_ne_true (other.symm.trans (isPlain_of_mem_segment member))

theorem exists_ofPath_eq_join (path : Text) : ∃ segments,
    (∀ name ∈ segments, IsSegment name) ∧ ofPath path = Text.join ['/'] segments := by
  refine ⟨_, fun name member => ?_, rfl⟩
  obtain ⟨inSegments, nonempty⟩ := List.mem_filter.1 member
  obtain ⟨source, -, rfl⟩ := List.mem_map.1 inSegments
  exact ⟨by simpa using nonempty, fun c => isPlain_of_mem_segment⟩

/-- A slug holds plain characters and slashes only. -/
theorem not_mem_ofPath {c : Char} (other : isPlain c = false) (noSlash : c ≠ '/') (path : Text) :
    c ∉ ofPath path := by
  obtain ⟨segments, plain, same⟩ := exists_ofPath_eq_join path
  rw [same, Text.mem_join noSlash]
  rintro ⟨name, inSegments, inName⟩
  exact (plain name inSegments).not_mem other inName

/-! ### Slashes -/

theorem backslash_not_mem_forward (path : Text) : '\\' ∉ forward path := by
  intro member
  obtain ⟨c, -, same⟩ := List.mem_map.1 member
  split at same
  · exact absurd same (by decide)
  · rename_i other
    exact other same

theorem forward_of_not_mem {path : Text} (single : '\\' ∉ path) : forward path = path :=
  Text.replaceChar_of_not_mem '/' single

/-- A blank path has no slug. -/
theorem ofPath_of_blank {path : Text} (blank : Text.isBlankText path) : ofPath path = [] := by
  have noBackslash : '\\' ∉ path := fun member =>
    absurd (List.all_eq_true.1 blank _ member) (by decide)
  have same : forward path = path := Text.replaceChar_of_not_mem '/' noBackslash
  rw [ofPath, same, Text.trim_of_blank (List.all_eq_true.1 blank)]
  rfl

end Slug

end CampaignPress
