/-
# DocSite.Proofs.Site.Exact -- a site and nothing else in the output directory

The pages of a site lie side by side if the output paths of those that can be rendered are made of file
names, and none of them leads through another one, or to or through the index (`SideBySide`). A site whose
pages do is written as a whole into an empty directory: afterwards the directory has a file for each page
that can be rendered, and the index, and no other file, and the report counts these pages and tells what
failed (`built_site_is_written_exactly`). None of the conditions can be left out
(`not_every_site_is_written_exactly`).
-/
import DocSite.Proofs.Site.Building
import DocSite.Proofs.Site.Publishing

set_option autoImplicit false

namespace DocSite.Site

open Text
open DocSite.Path (IsName)
open Page (Record)

variable {site : Site} {t s files : FileTree} {page : Record} {directory : Path}
  {place names : List Text} {paths : List Path}

/-- Whether a page belongs to a site and can be rendered. -/
def Rendered (t : FileTree) (site : Site) (page : Record) : Prop :=
  page ∈ site.pages.records ∧ ∃ text, (site.renderPage t page.outputPath).2 = .ok text

/-- Whether the files of the pages that can be rendered and of the index are not in each other's way. -/
structure SideBySide (t : FileTree) (site : Site) : Prop where
  named : ∀ page, site.Rendered t page → ∀ piece ∈ splitOn '/' page.outputPath, IsName piece
  apart : ∀ page other, site.Rendered t page → site.Rendered t other →
    splitOn '/' page.outputPath <+: splitOn '/' other.outputPath →
      page.outputPath = other.outputPath
  search : ∀ page, site.Rendered t page → ¬[searchFile] <+: splitOn '/' page.outputPath

/-- Whether a directory at a place has the files of a site and no others, and a report says so. -/
structure WrittenExactly (site : Site) (t : FileTree) (directory : Path) (place : List Text)
    (s : FileTree) (report : OutputReport) : Prop where
  page : ∀ page ∈ site.pages.records, ∀ text,
    (site.renderPage t page.outputPath).2 = .ok text →
      s.entryAt? (directory.join ⟨page.outputPath⟩) = some (.file (.text text))
  search : s.entryAt? (directory.join ⟨searchFile⟩) = some (.file (.text site.searchText))
  only : ∀ names content, s.lookup (place ++ names) = some (.file content) →
    names = [searchFile] ∨ ∃ page, site.Rendered t page ∧ names = splitOn '/' page.outputPath
  written : report.written =
    (site.pages.list.filter fun page => (site.renderPage t page.outputPath).2.isOk).length
  failures : report.failures =
    site.pages.list.filterMap fun page => failure? (site.renderPage t page.outputPath).2

section Steady

variable (steady : site.engine.Steady t) (indexed : site.pages.Indexed)
include steady indexed

theorem mem_shown_of_steady {text : Text} :
    (names, text) ∈ shown (site.renderAll t).2 ↔
      ∃ page ∈ site.pages.records, names = splitOn '/' page.outputPath ∧
        (site.renderPage t page.outputPath).2 = .ok text := by
  rw [mem_shown, steady.renderAll indexed]
  constructor
  · rintro ⟨outputPath, member, rfl⟩
    obtain ⟨page, listed, same⟩ := List.mem_map.mp member
    obtain ⟨rfl, rendered⟩ := Prod.mk.inj same
    exact ⟨page, mem_list.mp listed, rfl, rendered⟩
  · rintro ⟨page, member, rfl, rendered⟩
    exact ⟨page.outputPath,
      List.mem_map.mpr ⟨page, mem_list.mpr member, by rw [rendered]⟩, rfl⟩

theorem mem_shown_names :
    names ∈ (shown (site.renderAll t).2).map Prod.fst ↔
      ∃ page, site.Rendered t page ∧ names = splitOn '/' page.outputPath := by
  rw [List.mem_map]
  constructor
  · rintro ⟨⟨names, text⟩, member, rfl⟩
    obtain ⟨page, inside, same, rendered⟩ := (mem_shown_of_steady steady indexed).mp member
    exact ⟨page, ⟨inside, text, rendered⟩, same⟩
  · rintro ⟨page, ⟨inside, text, rendered⟩, rfl⟩
    exact ⟨(_, text), (mem_shown_of_steady steady indexed).mpr ⟨page, inside, rfl, rendered⟩, rfl⟩

omit steady indexed in
/-- The names of pages that lie side by side, and of the index, are never in each other's way. -/
theorem SideBySide.spread (beside : site.SideBySide t) :
    Spread fun names => names = [searchFile] ∨
      ∃ page, site.Rendered t page ∧ names = splitOn '/' page.outputPath where
  nonempty names allowed := by
    rcases allowed with rfl | ⟨page, -, rfl⟩
    · simp
    · exact splitOn_ne_nil '/' _
  named names allowed := by
    rcases allowed with rfl | ⟨page, rendered, rfl⟩
    · decide
    · exact beside.named page rendered
  apart names others allowed allowed' inside := by
    rcases allowed with rfl | ⟨page, rendered, rfl⟩ <;>
      rcases allowed' with rfl | ⟨other, rendered', rfl⟩
    · rfl
    · exact absurd inside (beside.search other rendered')
    · -- What leads to a single name is that name.
      rcases List.prefix_cons_iff.mp inside with empty | ⟨rest, same, within⟩
      · exact absurd empty (splitOn_ne_nil '/' _)
      · rw [same, List.prefix_nil.mp within]
    · rw [beside.apart page other rendered rendered' inside]

/-- A site whose pages lie side by side is written exactly into an empty directory. -/
theorem SideBySide.writeOutput (beside : site.SideBySide t) (wellformed : t.Wellformed)
    (filled : directory.text ≠ []) (located : t.locate? directory = some place)
    (there : t.lookup place = some .directory) (blank : t.below place = []) :
    ∃ after s report, site.writeOutput directory t = (after, s, .ok report) ∧
      site.WrittenExactly t directory place s report := by
  obtain ⟨s, done, published, tidy'⟩ := writeOutput_tidy indexed beside.spread (Or.inl rfl)
    (fun names member => Or.inr ((mem_shown_names steady indexed).mp member))
    (fun member => by
      obtain ⟨page, rendered, same⟩ := (mem_shown_names steady indexed).mp member
      exact beside.search page rendered (same ▸ List.prefix_refl _))
    (Tidy.of_blank wellformed there blank) wellformed filled located there
  refine ⟨_, s, _, done, ?_⟩
  exact {
    page := by
      intro page member text rendered
      have inside := (mem_shown_of_steady steady indexed).mpr ⟨page, member, rfl, rendered⟩
      have file := published.entryAt filled located (splitOn_ne_nil '/' _)
        (beside.named page ⟨member, text, rendered⟩) (List.mem_append_left _ inside)
      rwa [join_splitOn] at file
    search := published.entryAt filled located (List.cons_ne_nil searchFile []) (by decide)
      (List.mem_append_right _ (List.mem_singleton_self _))
    only := fun names content file => tidy'.file names content file
    written := by
      rw [length_shown, steady.renderAll indexed, List.filter_map, List.length_map]
      rfl
    failures := by
      rw [unshown, steady.renderAll indexed, List.filterMap_map]
      rfl }

end Steady

/-- A site that has been built of any sources is written exactly into an empty directory, if its pages lie
side by side. -/
theorem built_site_is_written_exactly (steady : site.engine.Steady t) (wellformed : t.Wellformed)
    (filled : directory.text ≠ []) (located : t.locate? directory = some place)
    (there : t.lookup place = some .directory) (blank : t.below place = [])
    (beside : (site.build files paths).1.SideBySide t) :
    ∃ after s report,
      (site.build files paths).1.writeOutput directory t = (after, s, .ok report) ∧
      (site.build files paths).1.WrittenExactly t directory place s report := by
  have indexed := (sourced_build files paths site).indexed
  have steady' : (site.build files paths).1.engine.Steady t := steady
  exact SideBySide.writeOutput steady' indexed beside wellformed filled located there blank

/-- The files of some pages, and an empty directory for what is made of them. -/
def shelfFiles (pages : List (List Text × Entry)) : FileTree where
  entries :=
    [(["dist".toList], .directory), (["docs".toList], .directory)] ++
    pages.map fun (names, entry) => ("docs".toList :: names, entry)
  home := []

/-- A site whose layout shows a letter alone. -/
def shelfSite (extension : Text) : Site :=
  .create { Settings.standard with extension := extension } .empty
    ((Layouts.add? "default".toList ['x'] ⟨[], none⟩).getD ⟨[], none⟩).engine .standard

/-- The site that is built of all pages. -/
def shelf (extension : Text) (pages : List (List Text × Entry)) : Site :=
  ((shelfSite extension).build (shelfFiles pages)
    (((shelfSite extension).discover (shelfFiles pages)).toOption.getD [])).1

/-- Whether this site is written exactly. -/
def Shelved (extension : Text) (pages : List (List Text × Entry)) : Prop :=
  ∃ after s report, (shelf extension pages).writeOutput ⟨"dist".toList⟩ (shelfFiles pages) =
      (after, s, .ok report) ∧
    (shelf extension pages).WrittenExactly (shelfFiles pages) ⟨"dist".toList⟩ ["dist".toList] s report

/-- Two pages, one of them in a directory and with a layout that does not exist. -/
def twoPages : List (List Text × Entry) := [
  (["a.md".toList], .file (.text [])),
  (["b".toList], .directory),
  (["b".toList, "a.md".toList], .file (.text "---\nlayout: plain\n---\n".toList))]

/-- The two pages lie side by side, so that the first is written and the other one is reported. -/
theorem two_pages_are_written_exactly :
    (shelf "html".toList twoPages).SideBySide (shelfFiles twoPages) ∧
      Shelved "html".toList twoPages := by
  have named : ∀ page ∈ (shelf "html".toList twoPages).pages.records,
      ∀ piece ∈ splitOn '/' page.outputPath, IsName piece := by decide +kernel
  have apart : ∀ page ∈ (shelf "html".toList twoPages).pages.records,
      ∀ other ∈ (shelf "html".toList twoPages).pages.records,
        splitOn '/' page.outputPath <+: splitOn '/' other.outputPath →
          page.outputPath = other.outputPath := by decide +kernel
  have search : ∀ page ∈ (shelf "html".toList twoPages).pages.records,
      ¬[searchFile] <+: splitOn '/' page.outputPath := by decide +kernel
  have beside : (shelf "html".toList twoPages).SideBySide (shelfFiles twoPages) :=
    ⟨fun page rendered => named page rendered.1,
      fun page other rendered rendered' => apart page rendered.1 other rendered'.1,
      fun page rendered => search page rendered.1⟩
  have steady : (shelfSite "html".toList).engine.Steady (shelfFiles twoPages) :=
    Layouts.engine_steady _ _
  have wellformed : (shelfFiles twoPages).Wellformed := by decide +kernel
  have located : (shelfFiles twoPages).locate? ⟨"dist".toList⟩ = some ["dist".toList] := by
    decide +kernel
  exact ⟨beside, built_site_is_written_exactly steady wellformed (by decide) located
    (by decide +kernel) (by decide +kernel) beside⟩

theorem not_shelved_of_fault {extension : Text} {pages : List (List Text × Entry)}
    (fault : ((shelf extension pages).writeOutput ⟨"dist".toList⟩ (shelfFiles pages)).2.2.isOk =
      false) : ¬Shelved extension pages := by
  rintro ⟨after, s, report, done, -⟩
  rw [done] at fault
  cases fault

/-- A page at the place of the index. -/
def searchPage : List (List Text × Entry) := [(["search.md".toList], .file (.text []))]

/-- The index takes the place of a page, a page lies below another one, a page lies below the index, and a
page has no file name. -/
theorem not_every_site_is_written_exactly :
    ¬Shelved "json".toList searchPage ∧
    ¬Shelved "html".toList [(["a.html".toList], .directory),
      (["a.html".toList, "b.md".toList], .file (.text [])), (["a.md".toList], .file (.text []))] ∧
    ¬Shelved "html".toList [(["search.json".toList], .directory),
      (["search.json".toList, "a.md".toList], .file (.text []))] ∧
    ¬Shelved [] [(["01-..md".toList], .file (.text []))] := by
  refine ⟨?_, not_shelved_of_fault (by decide +kernel), not_shelved_of_fault (by decide +kernel),
    not_shelved_of_fault (by decide +kernel)⟩
  rintro ⟨after, s, report, -, exactly⟩
  have letters : ∀ page ∈ (shelf "json".toList searchPage).pages.records,
      page.outputPath = searchFile ∧ ((shelf "json".toList searchPage).renderPage
        (shelfFiles searchPage) page.outputPath).2.toOption = some ['x'] := by decide +kernel
  have filled : (shelf "json".toList searchPage).pages.records ≠ [] := by
    rw [← List.isEmpty_eq_false_iff]
    decide +kernel
  obtain ⟨page, member⟩ := List.exists_mem_of_ne_nil _ filled
  obtain ⟨same, shown⟩ := letters page member
  have index : (shelf "json".toList searchPage).searchText.head? = some '[' := by decide +kernel
  cases rendered : ((shelf "json".toList searchPage).renderPage (shelfFiles searchPage)
      page.outputPath).2 with
  | error e =>
    rw [rendered] at shown
    cases shown
  | ok text =>
    -- One file would hold both the letter and the index.
    have file := exactly.page page member text rendered
    rw [same, exactly.search, Option.some.injEq, Entry.file.injEq, Content.text.injEq] at file
    rw [rendered] at shown
    rw [file, Option.some.inj shown] at index
    cases index

end DocSite.Site
