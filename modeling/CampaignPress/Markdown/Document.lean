/-
This file reads a text as markdown: first its blocks, then the running text in
them, and last the notes and tasks, which are spread over several tokens.
-/
import CampaignPress.Markdown.Block.Reader
import CampaignPress.Markdown.Inline.Reader
import CampaignPress.Markdown.NoteList
import CampaignPress.Markdown.Task

namespace CampaignPress.Markdown

/-- Line breaks are line feeds, and the character of code zero has a stand-in. -/
def normalize (text : Text) : Text := Text.replaceChar '\x00' '\uFFFD' (Text.normalizeBreaks text)

/-- Reads the running text of every line, with the footnotes mentioned so far. -/
def readLines (references : List Reference) : Footnotes → List Token → List Token × Footnotes
  | footnotes, [] => ([], footnotes)
  | footnotes, token :: rest =>
    let (token, footnotes) :=
      if token.kind = .inline then
        let (children, footnotes) := Inline.tokensOf token.content references footnotes
        ({ token with children := some children }, footnotes)
      else (token, footnotes)
    let (others, footnotes) := readLines references footnotes rest
    (token :: others, footnotes)

/-- The tokens of a text. -/
def tokensOf (text : Text) : List Token :=
  let blocks := Block.stateOf (normalize text)
  let (tokens, footnotes) := readLines blocks.references blocks.footnotes blocks.tokens.toList
  Task.markAll (NoteList.gather footnotes tokens)

end CampaignPress.Markdown
