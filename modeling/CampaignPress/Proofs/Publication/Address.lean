/-
This file says where the page of a note lies, for every note that is made from a
path. The names below the output folder are the segments of its slug, the last
one with the ending of pages. Since no segment has a dot in it, a page lies
neither outside of the output folder nor where another page needs a folder.
-/
import CampaignPress.Proofs.Publication.Output
import CampaignPress.Proofs.Slug.Canonical
import CampaignPress.Proofs.Vault.Notes

namespace CampaignPress

/-- A path is one of the folders on the way to another one. -/
def Path.IsAbove (folder path : Path) : Prop :=
  folder.root = path.root ∧ folder.names <+: path.names ∧ folder ≠ path

/-- A note that is made from a path. -/
def Note.IsMade (note : Note) : Prop :=
  ∃ path frontmatter title source, Note.ofPath path frontmatter title source = .ok note

theorem Note.IsMade.slug_eq {note : Note} (made : note.IsMade) :
    note.slug = Slug.ofPath note.path := by
  obtain ⟨path, frontmatter, title, source, built⟩ := made
  exact (Vault.slug_of_ofPath (congrArg Except.toOption built)).1

namespace Publication

/-! ### Files of pages -/

/-- The file below the output folder that is in some folders and has a name with the ending of
pages. -/
def pageFile (output : Path) (folders : List Text) (last : Text) : Path :=
  ⟨output.root, output.names ++ pageNames folders last⟩

/-- The folders and the name of the page of a note are the segments of its slug; a note without a slug
is the index. -/
structure HasPage (config : Config) (output : Path) (note : Note) (folders : List Text)
    (last : Text) : Prop where
  hyphenated : ∀ name ∈ folders ++ [last], Slug.IsHyphenated name
  slug : Text.join ['/'] (folders ++ [last]) = if note.slug = [] then "index".toList else note.slug
  found : fileOf config note = .ok (pageFile output folders last)

section HasPage

variable {config : Config} {output : Path}

theorem exists_hasPage (isPath : config.output = .path output) {note : Note} (made : note.IsMade) :
    ∃ folders last, HasPage config output note folders last := by
  obtain ⟨folders, last, segments, same⟩ := exists_fileName_eq made.slug_eq
  have whole : Text.join ['/'] (folders ++ [last]) = pageName note := by
    rw [fileName_eq, pageNames, Text.join_append_singleton_append] at same
    exact (List.append_cancel_right same).symm
  refine ⟨folders, last, ?_, ?_, ?_⟩
  · have parts : folders ++ [last] = Text.splitOn '/' (pageName note) := by
      rw [← whole, Text.splitOn_join (fun name member => (segments name member).not_mem (by decide))
        (List.append_ne_nil_of_right_ne_nil _ (List.cons_ne_nil _ _))]
    rw [parts]
    refine Slug.IsCanonical.isHyphenated ?_ ?_
    · rw [pageName]
      split
      · exact Slug.isCanonical_index
      · rw [made.slug_eq]
        exact Slug.isCanonical_ofPath note.path
    · rw [pageName]
      split
      · decide
      · rename_i filled
        simpa using filled
  · rw [whole, pageName]
    simp only [List.isEmpty_iff]
  · rw [fileOf, same, Path.ofText_join (areNames_pageNames segments), isPath]
    rfl

variable {note other : Note} {folders others : List Text} {last name : Text}
  (page : HasPage config output note folders last)
  (another : HasPage config output other others name)

include page in
theorem HasPage.isFile : IsFile output folders last (pageFile output folders last) :=
  ⟨fun name member => (page.hyphenated name member).isSegment, rfl, rfl⟩

include another in
/-- A page is no folder on the way to another one. -/
theorem HasPage.not_isAbove :
    ¬ (pageFile output folders last).IsAbove (pageFile output others name) := by
  rintro ⟨-, within, unlike⟩
  have inside : pageNames folders last <+: pageNames others name :=
    (List.prefix_append_right_inj output.names).1 within
  have ending : last ++ pageEnding ∈ others := by
    rcases List.prefix_concat_iff.1 inside with same | proper
    · refine absurd ?_ unlike
      rw [pageFile, same]
      rfl
    · exact proper.subset (List.mem_append_right folders List.mem_cons_self)
  have dot : '.' ∈ last ++ pageEnding := List.mem_append_right _ List.mem_cons_self
  exact (another.isFile.segments _ (List.mem_append_left _ ending)).not_mem (by decide) dot

include another in
/-- Below the output folder, no way to another page leads through a page. -/
theorem HasPage.goal_not_mem_trail (start : List Text) :
    Files.goal start output.names ++ pageNames folders last ∉
      Files.trail (Files.goal start output.names) others := by
  intro passed
  have folder : MayBeFolder (Files.trail (Files.goal start output.names) [])
      (Files.goal start output.names ++ pageNames folders last) :=
    mayBeFolder_of_mem_trail
      (fun name member => another.isFile.segments name (List.mem_append_left _ member)) passed
  have page : MayBePage (Files.trail (Files.goal start output.names) [])
      (Files.goal start output.names ++ pageNames folders last) := by
    refine ⟨fun top => ?_, Files.goal start output.names ++ folders, last,
      (List.append_assoc ..).symm⟩
    exact List.append_ne_nil_of_right_ne_nil folders (List.cons_ne_nil _ [])
      (List.self_eq_append_right.1 (List.mem_singleton.1 top).symm)
  exact page.not_mayBeFolder folder

end HasPage

/-! ### Addresses -/

/-- Every slug is made of hyphenated segments, is its own slug, and is that of its path with either
slash. So the page of a note has the output folder before the segments of the note's slug, stays in
that folder wherever it lies, and is no folder on the way to the page of another note. -/
theorem address_of_slug :
    (∀ name, Slug.segment name =
      (Text.dropEnds (· == '-') (Slug.hyphenate (Text.plain name))).map Slug.small) ∧
      (∀ path, Slug.IsCanonical (Slug.ofPath path) ∧
        Slug.ofPath (Slug.ofPath path) = Slug.ofPath path ∧
        Slug.ofPath (Slug.forward path) = Slug.ofPath path) ∧
      ∀ (config : Config) (output : Path), config.output = .path output →
        ∀ note : Note, note.IsMade → ∃ folders last, HasPage config output note folders last ∧
          (∀ start, Files.goal start (pageFile output folders last).names =
            Files.goal start output.names ++ pageNames folders last) ∧
          ∀ (other : Note) (others : List Text) (name : Text),
            HasPage config output other others name →
              ¬ (pageFile output folders last).IsAbove (pageFile output others name) ∧
                ∀ start, Files.goal start (pageFile output folders last).names ∉
                  Files.trail (Files.goal start output.names) others := by
  refine ⟨Slug.segment_eq, fun path => ⟨Slug.isCanonical_ofPath path, Slug.ofPath_ofPath path,
    Slug.ofPath_forward path⟩, fun config output isPath note made => ?_⟩
  obtain ⟨folders, last, page⟩ := exists_hasPage isPath made
  refine ⟨folders, last, page, page.isFile.goal_eq, fun other others name another => ?_⟩
  refine ⟨another.not_isAbove, fun start => ?_⟩
  rw [page.isFile.goal_eq]
  exact another.goal_not_mem_trail start

set_option maxRecDepth 20000 in
/-- The page of one note and the folder of another one that have the same name. -/
theorem address_of_slug_kira : ∃ (config : Config) (output : Path) (note other : Note),
    config.output = .path output ∧ note.IsMade ∧ other.IsMade ∧
      note.slug = "npcs" ∧ other.slug = "npcs/kira-vale" ∧
        ∃ folders last others name, HasPage config output note folders last ∧
          HasPage config output other others name ∧
            ¬ (pageFile output folders last).IsAbove (pageFile output others name) := by
  let output : Path := ⟨[], ["site"]⟩
  let config : Config := { vault := .path ⟨[], ["vault"]⟩, output := .path output }
  let note : Note := ⟨"Npcs.md", Slug.ofPath "Npcs.md", "Npcs", [], none⟩
  let other : Note := ⟨"Npcs\\Kira Vale.md", Slug.ofPath "Npcs\\Kira Vale.md", "Kira", [], none⟩
  have made : note.IsMade := ⟨"Npcs.md", [], "Npcs", none, rfl⟩
  have otherMade : other.IsMade := ⟨"Npcs\\Kira Vale.md", [], "Kira", none, rfl⟩
  obtain ⟨others, name, another, -⟩ := address_of_slug.2.2 config output rfl other otherMade
  obtain ⟨folders, last, page, -, apart⟩ := address_of_slug.2.2 config output rfl note made
  exact ⟨config, output, note, other, rfl, made, otherMade, by decide, by decide, folders, last,
    others, name, page, another, (apart other others name another).1⟩

end Publication

end CampaignPress
