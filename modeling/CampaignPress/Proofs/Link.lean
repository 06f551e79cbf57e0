/-
This file says what the addresses of pages are made of, and where the anchors to
pages lead.
-/
import CampaignPress.Link
import CampaignPress.Proofs.Html
import CampaignPress.Proofs.Slug

namespace CampaignPress

namespace Link

theorem not_mem_address {c : Char} (noSlash : c ≠ '/') {base slug : Text} (notBase : c ∉ base)
    (notSlug : c ∉ slug) : c ∉ address base slug := by
  have ended : c ∉ Text.dropEnd (· == '/') base := fun member =>
    notBase (Text.mem_of_mem_dropEnd member)
  rw [address, List.mem_append, List.mem_append, not_or, not_or]
  exact ⟨⟨ended, by simpa using noSlash⟩, notSlug⟩

theorem address_dropEnd (base slug : Text) :
    address (Text.dropEnd (· == '/') base) slug = address base slug := by
  rw [address, address, Text.dropEnd_dropEnd]

/-- Where an anchor to a page leads. -/
def target (base slug : Text) : Text := if slug.isEmpty then ['#'] else address base slug

@[simp]
theorem targets_anchor (base classes text slug : Text) :
    (anchor base classes text slug).targets = [target base slug] := by
  rw [anchor, Html.targets_element]
  cases slug <;> cases classes <;> rfl

end Link

end CampaignPress
