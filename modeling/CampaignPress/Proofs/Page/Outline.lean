/-
This file puts together what is shown for directives, mechanics blocks and
queries: its tags, but for the values of their attributes, are those of the shape
that is recognised. Two campaigns whose texts have one shape are shown with the
same tags, whatever the texts say.
-/
import CampaignPress.Proofs.Mechanics.RoundTrip
import CampaignPress.Proofs.Mechanics.Tree
import CampaignPress.Proofs.Query.Outline

namespace CampaignPress

open Html (HasOutline around)

/-- The tags of what is shown depend on the shape of the code, the block or the query alone, and
no value of an attribute holds a quote or an angle bracket. Escaped text can be read back. -/
theorem hasOutline_shape (site : Site) (base : Text) (index : Index) (notes : List Note) :
    (site.icons = .standard → ∀ code html,
      Directive.renderCode? site code = some (.ok html) → ∃ shape,
        Directive.shape? code = some shape ∧ HasOutline html.write shape.outline) ∧
    (∀ source html, Mechanics.blockHtml base index source = .ok html →
      HasOutline html.write (around "div" " class="
        (Mechanics.outlines (Mechanics.shapesOf (Node.ofBlock source))))) ∧
    (∀ text html, Query.blockHtml base notes text = .ok html → ∃ shape,
      Query.shapeOf notes text = .ok shape ∧ HasOutline html.write shape.outline) ∧
    ∀ text, Html.unescape (Html.escape text) = text := by
  refine ⟨fun icons code html shown => ?_, fun source html shown => ?_,
    fun text html shown => ?_, Html.unescape_escape⟩
  · obtain ⟨shape, read, shows⟩ := Directive.shows_renderCode? icons shown
    exact ⟨shape, read, shows.hasOutline⟩
  · exact (Mechanics.shows_blockHtml base index shown).hasOutline
  · obtain ⟨shape, read, shows⟩ := Query.shows_blockHtml base shown
    exact ⟨shape, read, shows.hasOutline⟩

/-- Markup as the name of a move, as the result of an oracle, and as the title of a note. -/
theorem hasOutline_shape_markup :
    let code : Text := "iv-noroll:<b a=\"c\">"
    let block : Text := "oracle name=\"Fate\" result=\"</dd><script>\""
    let query : Text := "list"
    let note : Note := ⟨"a.md", "a", "<i>", [], none⟩
    let site : Site := {}
    (∃ html, Directive.renderCode? site code = some (.ok html) ∧
      HasOutline html.write (around "span" " class=" (around "span" " class=" []))) ∧
    (∃ html, Mechanics.blockHtml site.base site.index block = .ok html ∧
      HasOutline html.write (around "div" " class=" (Mechanics.outlines [.oracle]))) ∧
    (∃ html, Query.blockHtml site.base [note] query = .ok html ∧
      HasOutline html.write
        (around "div" " class=" (around "ul" " class=" (around "li" " class="
          (around "a" " href=" []))))) ∧
    Html.unescape (Html.escape code) = code := by
  intro code block query note site
  obtain ⟨directives, blocks, queries, entities⟩ :=
    hasOutline_shape site site.base site.index [note]
  have read : Directive.read? code = some (.ok (.noRoll ⟨"<b a=\"c\">", []⟩)) := by decide +kernel
  have shownCode := Directive.renderCode?_of_read? site read
  have items : ∀ item ∈ [Mechanics.Item.property "name" "Fate", .property "result" "</dd><script>"],
      item.Writable :=
    List.forall_mem_cons.2 ⟨⟨by decide, List.all_eq_true.1 (by decide), by decide⟩,
      List.forall_mem_singleton.2 ⟨by decide, List.all_eq_true.1 (by decide), by decide⟩⟩
  have word : ∀ c ∈ "oracle".toList, Mechanics.isKeywordChar c := List.all_eq_true.1 (by decide)
  have header := Node.ofHeader_writeHeader (by decide) word items (by decide +kernel)
    (fun _ none' => absurd none' List.not_mem_nil)
  have written : Mechanics.writeHeader "oracle" [.property "name" "Fate",
      .property "result" "</dd><script>"] ++ [] = block := by decide +kernel
  rw [written] at header
  have nodes : Node.ofBlock block = [⟨"oracle", [], [("name", "Fate"), ("result", "</dd><script>")],
      block, []⟩] := by
    have units : Mechanics.units (Text.trim block) = [[block]] := by decide +kernel
    have body : Mechanics.splitBody (Text.unlines [block]) = (block, []) := by decide +kernel
    rw [Node.ofBlock, units, List.map_singleton, Node.ofUnit_eq, body, header]
    rfl
  have shownBlock : ∃ html, Mechanics.blockHtml site.base site.index block = .ok html := by
    rw [Mechanics.blockHtml, nodes]
    exact ⟨_, rfl⟩
  have parsed : Query.parse? query = some ⟨.list, false, [], [], [], none⟩ := by decide
  have shownQuery : ∃ html, Query.blockHtml site.base [note] query = .ok html := by
    rw [Query.blockHtml, parsed]
    exact ⟨_, rfl⟩
  refine ⟨?_, ?_, ?_, entities code⟩
  · obtain ⟨shape, found, outlined⟩ := directives rfl code _ shownCode
    rw [Directive.shape?, read] at found
    obtain rfl := Option.some.inj found
    exact ⟨_, shownCode, outlined⟩
  · obtain ⟨html, shown⟩ := shownBlock
    have outlined := blocks block html shown
    rw [nodes] at outlined
    exact ⟨html, shown, outlined⟩
  · obtain ⟨html, shown⟩ := shownQuery
    obtain ⟨shape, found, outlined⟩ := queries query html shown
    rw [Query.shapeOf, parsed] at found
    obtain rfl := Except.ok.inj found
    exact ⟨html, shown, outlined⟩

end CampaignPress
