import CampaignPress.Main
import CampaignPress.Proofs.Mechanics.RoundTrip
import CampaignPress.Proofs.Query.RoundTrip
import CampaignPress.Proofs.Query.Answers
import CampaignPress.Proofs.Html
import CampaignPress.Proofs.Text.Case
import CampaignPress.Proofs.Prose.Callout
import CampaignPress.Proofs.Publication.Report
import CampaignPress.Proofs.Publication.Order
import CampaignPress.Proofs.Prose.Box
import CampaignPress.Proofs.Prose.Body
import CampaignPress.Proofs.Prose.Passage
import CampaignPress.Proofs.Prose.Conversion
import CampaignPress.Proofs.Numeral
import CampaignPress.Proofs.Prose.CodeSpan
import CampaignPress.Proofs.Prose.Embed
import CampaignPress.Proofs.Path
import CampaignPress.Proofs.Mechanics.Directive
import CampaignPress.Proofs.WikiLink
import CampaignPress.Proofs.Prose.Linkless
import CampaignPress.Proofs.Mechanics.Inline
import CampaignPress.Proofs.Page.Reference
import CampaignPress.Proofs.Html.Tag
import CampaignPress.Proofs.Mechanics.Outline
import CampaignPress.Proofs.Mechanics.Tree
import CampaignPress.Proofs.Query.Outline
import CampaignPress.Proofs.Page.Outline
import CampaignPress.Proofs.Query.Shown
import CampaignPress.Proofs.Mechanics.Limit
import CampaignPress.Proofs.Prose.Rewrite
import CampaignPress.Proofs.Page.Fault
import CampaignPress.Proofs.Prose.Division
import CampaignPress.Proofs.Prose.Nesting
import CampaignPress.Proofs.Prose.InlineCode
import CampaignPress.Proofs.Mechanics.Locality
import CampaignPress.Proofs.Prose.Head
import CampaignPress.Proofs.Mechanics.Agreement
import CampaignPress.Proofs.Vault.Discovery
import CampaignPress.Proofs.Index
import CampaignPress.Proofs.Prose.Decomposition
import CampaignPress.Proofs.Page.Track
import CampaignPress.Proofs.Prose.Locality
import CampaignPress.Proofs.Query.Sorting
import CampaignPress.Proofs.Query.Matching
import CampaignPress.Proofs.Prose.Parting
import CampaignPress.Proofs.Query.Quoted
import CampaignPress.Proofs.Prose.Separation
import CampaignPress.Proofs.Text.Pieces
import CampaignPress.Proofs.Query.Scope
import CampaignPress.Proofs.Slug.Canonical
import CampaignPress.Proofs.Publication.Address
import CampaignPress.Proofs.Mechanics.Recognition
import CampaignPress.Proofs.Mechanics.Remainder
import CampaignPress.Proofs.Mechanics.Presence
import CampaignPress.Proofs.Page.Substitution
import CampaignPress.Proofs.Mechanics.Depth
import CampaignPress.Proofs.Config.Refusal
import CampaignPress.Proofs.Prose.Hiding
import CampaignPress.Proofs.Mechanics.Grouping
import CampaignPress.Proofs.Mechanics.Matching
import CampaignPress.Proofs.Numeral.Leading
