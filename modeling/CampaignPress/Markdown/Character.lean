/-
This file tells apart the characters that markdown treats in a special way, and
trims texts and cuts them into words at its own blanks.
-/
import CampaignPress.Markdown.PunctuationTable
import CampaignPress.Text.Class

namespace CampaignPress.Markdown

/-! ### Gaps -/

/-- Indentation and the gaps inside a line are made of spaces and tabs. -/
def isGap (c : Char) : Bool := c = ' ' || c = '\t'

def isGapOrBreak (c : Char) : Bool := isGap c || c = '\n'

/-! ### Blanks -/

/-- The controls that separate records, and the one that begins a next line. -/
def isSeparator (c : Char) : Bool := (28 ≤ c.toNat && c.toNat ≤ 31) || c.toNat = 133

/-- To markdown a separator is no blank, so that it stays at the ends of a text. -/
def isBlank (c : Char) : Bool := Text.isBlank c && !isSeparator c

def isBlankText (text : Text) : Bool := text.all isBlank

def trimStart (text : Text) : Text := Text.dropStart isBlank text

def trim (text : Text) : Text := Text.dropEnds isBlank text

/-- The pieces between blanks, without the empty ones. -/
def words (text : Text) : List Text :=
  (Text.splitWhere isBlank text).filter (!·.isEmpty)

/-! ### Emphasis and punctuation -/

/-- The blanks that matter beside a mark of emphasis. -/
def isEmphasisBlank (c : Char) : Bool :=
  let code := c.toNat
  (9 ≤ code && code ≤ 13) || code = 32 || code = 160 || code = 5760 ||
    (8192 ≤ code && code ≤ 8202) || code = 8239 || code = 8287 || code = 12288

/-- The punctuation of ASCII, which a backslash escapes. -/
def isAsciiPunctuation (c : Char) : Bool :=
  let code := c.toNat
  (33 ≤ code && code ≤ 47) || (58 ≤ code && code ≤ 64) || (91 ≤ code && code ≤ 96) ||
    (123 ≤ code && code ≤ 126)

/-- The punctuation and the symbols of any script. -/
def isPunctuation (c : Char) : Bool :=
  if c.toNat < 128 then isAsciiPunctuation c else Text.inRanges c.toNat markRanges

end CampaignPress.Markdown
