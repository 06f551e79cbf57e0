/-
This file tells when the path of a note leads to the note. Tracks and entities
are given by a path, but only the name of its file is looked up, so the path
leads to the last note that answers to that name, whatever folder it is in. If
that note has no slug, or there is none, the slug is the one that the path gives.
-/
import CampaignPress.Proofs.Index
import CampaignPress.Proofs.Page.Reference

namespace CampaignPress

/-! ### Links by path -/

/-- An anchor leads to the page of a slug exactly if it is made for this slug. -/
theorem Link.target_eq_address_iff {base slug other : Text} (filled : slug ≠ []) :
    target base other = address base slug ↔ other = slug := by
  cases other with
  | nil =>
    constructor
    · intro nowhere
      have slash : '/' ∈ address base slug := by simp [address]
      rw [← nowhere] at slash
      exact absurd (List.mem_singleton.1 slash) (by decide)
    · exact fun same => absurd same.symm filled
  | cons c rest => exact List.append_right_inj _

theorem Mechanics.exists_targets_track (base : Text) (index : Index) {node : Node} {path : Text}
    (track : kindOf node.keyword = .track) (named : trackPath (propertyName node) = path) :
    ∃ html : Html, nodeHtml base index node = .ok html ∧
      html.targets = [Link.target base (index.slugOfPath path)] :=
  ⟨_, nodeHtml_track base index track, by rw [targets_trackHtml, named]⟩

theorem Directive.exists_targets_linked (site : Site) {code path : Text} {directive : Directive}
    (read : read? code = some (.ok directive)) (linked : directive.linked? = some path) :
    ∃ html : Html, renderCode? site code = some (.ok html) ∧
      html.targets = [Link.target site.base (site.index.slugOfPath path)] := by
  have notMove : ∀ move, directive = .move move → Numeral.IsSmall move.roll.score := by
    rintro move rfl
    cases linked
  obtain ⟨html, shown⟩ := succeeds_toHtml site (isSmall_of_read? read) notMove
  exact ⟨html, (renderCode?_of_read? site read).trans (congrArg some shown),
    targets_toHtml linked shown⟩

/-! ### Notes of one name -/

/-- The path of a note gives its slug, and the tracks and entities of that path lead to its page,
exactly if the last note that answers to the name of its file has its slug, or none. -/
theorem leadsToNote_iff (notes : List Note) {note : Note} (base attachments : Text)
    (icons : IconTable)
    (built : ∃ frontmatter title source, Note.ofPath note.path frontmatter title source = .ok note)
    (filled : note.slug ≠ []) :
    let site := Site.ofNotes notes base attachments icons
    let page := Link.address base note.slug
    (site.index.slugOfPath note.path = note.slug ↔ Index.IsUnshadowed notes note) ∧
    (∀ node : Node, Mechanics.kindOf node.keyword = .track →
      Mechanics.trackPath (Mechanics.propertyName node) = note.path →
      ∃ html : Html, Mechanics.nodeHtml site.base site.index node = .ok html ∧
        (html.targets = [page] ↔ Index.IsUnshadowed notes note)) ∧
    ∀ (code : Text) (directive : Directive), Directive.read? code = some (.ok directive) →
      directive.linked? = some note.path →
      ∃ html : Html, Directive.renderCode? site code = some (.ok html) ∧
        (html.targets = [page] ↔ Index.IsUnshadowed notes note) := by
  intro site page
  have slug : note.slug = Slug.ofPath note.path := by
    obtain ⟨_, _, _, built⟩ := built
    obtain ⟨_, -, same⟩ := bind_eq_ok.1 built
    rw [← Except.ok.inj same]
  have looked : site.index.slugOfPath note.path = note.slug ↔ Index.IsUnshadowed notes note :=
    Index.slugOfPath_eq_iff slug filled
  have reached : [Link.target site.base (site.index.slugOfPath note.path)] = [page] ↔
      Index.IsUnshadowed notes note := by
    have address : Link.address site.base note.slug = page := Link.address_dropEnd base note.slug
    rw [List.singleton_inj, ← address, Link.target_eq_address_iff filled, looked]
  refine ⟨looked, fun node track named => ?_, fun code directive read linked => ?_⟩
  · obtain ⟨html, shown, targets⟩ :=
      Mechanics.exists_targets_track site.base site.index track named
    exact ⟨html, shown, targets ▸ reached⟩
  · obtain ⟨html, shown, targets⟩ := Directive.exists_targets_linked site read linked
    exact ⟨html, shown, targets ▸ reached⟩

/-- The later of two notes of one name keeps its path. -/
theorem leadsToNote_iff_kira :
    let notes := [bareNote "y/Kira.md", bareNote "x/Kira.md"]
    let note := bareNote "x/Kira.md"
    let site := Site.ofNotes notes "/log/" "/attachments" .standard
    let code : Text := "iv-track-create:Vow|x/Kira.md"
    (∃ frontmatter title source, Note.ofPath note.path frontmatter title source = .ok note) ∧
      note.slug ≠ [] ∧ site.index.slugOfPath note.path = note.slug ∧
      ∃ html : Html, Directive.renderCode? site code = some (.ok html) ∧
        html.targets = ["/log/x/kira".toList] := by
  intro notes note site code
  have built : ∃ frontmatter title source,
      Note.ofPath note.path frontmatter title source = .ok note := ⟨[], [], none, rfl⟩
  have filled : note.slug ≠ [] := by decide
  have unshadowed : Index.IsUnshadowed notes note := by
    have first : (bareNote "y/Kira.md").answers (Slug.stem note.path) := by decide
    have second : note.answers (Slug.stem note.path) := by decide
    rw [Index.IsUnshadowed, List.filter_cons_of_pos first, List.filter_cons_of_pos second]
    intro last same
    obtain rfl := Option.some.inj same
    exact .inl rfl
  have read : Directive.read? code = some (.ok (.trackCreate ⟨"Vow", "x/Kira.md"⟩)) := by
    decide
  obtain ⟨looked, -, directive⟩ :=
    leadsToNote_iff notes "/log/" "/attachments" .standard built filled
  obtain ⟨html, shown, leads⟩ := directive code _ read rfl
  have page : Link.address "/log/" note.slug = "/log/x/kira".toList := by decide
  exact ⟨built, filled, looked.2 unshadowed, html, shown, page ▸ leads.2 unshadowed⟩

/-- Of two notes of one name in two folders, the path of the earlier one leads to the later one. -/
theorem exists_shadowed :
    let notes := [bareNote "x/Kira.md", bareNote "y/Kira.md"]
    (∀ note ∈ notes, note.slug ≠ [] ∧
      ∃ frontmatter title source, Note.ofPath note.path frontmatter title source = .ok note) ∧
      notes.Pairwise (fun a b => a.path ≠ b.path) ∧
      (Index.ofNotes notes).slugOfPath (bareNote "x/Kira.md").path =
        (bareNote "y/Kira.md").slug ∧
      (bareNote "y/Kira.md").slug ≠ (bareNote "x/Kira.md").slug := by
  intro notes
  have note (path : Text) (filled : (bareNote path).slug ≠ []) : (bareNote path).slug ≠ [] ∧
      ∃ frontmatter title source,
        Note.ofPath (bareNote path).path frontmatter title source = .ok (bareNote path) :=
    ⟨filled, [], [], none, rfl⟩
  refine ⟨?_, List.pairwise_pair.2 (by decide), by decide, by decide⟩
  exact List.forall_mem_cons.2 ⟨note "x/Kira.md" (by decide),
    List.forall_mem_singleton.2 (note "y/Kira.md" (by decide))⟩

end CampaignPress
