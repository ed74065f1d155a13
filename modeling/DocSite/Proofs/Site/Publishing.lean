/-
# DocSite.Proofs.Site.Publishing -- a site and the files it is written to

A tree of files `Displays` a site below a place if the files there are the pages of the site as they are
rendered, each at the names of its output path, and the index. Writing a site makes it displayed, if
nothing is in the way and no other file is there (`writeOutput_displays`).
-/
import DocSite.Proofs.Site.Output
import DocSite.Proofs.Site.Reflection

set_option autoImplicit false

namespace DocSite.Site

open Text
open FileTree (Extends)
open Page (Record)

variable {site : Site} {layouts : Layouts} {t s : FileTree} {kept other : Kept} {page : Record}

/-! ## Rendered pages -/

/-- What a page is rendered to if no layouts are kept. -/
def textOf (t : FileTree) (page : Record) (site : Site) : Except RenderError Text :=
  (site.renderer.renderWith t [] page (site.renderer.siteValue site.pages)).text

/-- What a page is rendered to depends on the layouts that are there, and not on what is kept. -/
theorem textOf_congr (engine : site.engine = layouts.engine)
    (same : layouts.find s [] = layouts.find t []) (page : Record) :
    site.textOf s page = site.textOf t page := by
  have engine' : site.renderer.engine = layouts.engine := engine
  exact renderWith_text engine' same page _

theorem renderPage_eq (engine : site.engine = layouts.engine)
    (faithful : layouts.Faithful t site.kept) (indexed : site.pages.Indexed)
    (member : page ∈ site.pages.records) :
    (site.renderPage t page.outputPath).2 = site.textOf t page := by
  have found : site.pages.get? page.outputPath = some page := indexed.get_eq_some.mpr ⟨member, rfl⟩
  have engine' : site.renderer.engine = layouts.engine := engine
  simp only [renderPage, found]
  exact renderWith_text engine' faithful page _

theorem renderAll_eq (engine : site.engine = layouts.engine)
    (faithful : layouts.Faithful t site.kept) :
    (site.renderAll t).2 =
        site.pages.list.map (fun page => (page.outputPath, site.textOf t page)) ∧
      layouts.Faithful t (site.renderAll t).1.kept := by
  have engine' : site.renderer.engine = layouts.engine := engine
  obtain ⟨texts, found⟩ := renderEach_eq engine' t site.kept
    (site.renderer.siteValue site.pages) site.pages.list
  refine ⟨texts.trans (List.map_congr_left fun page _ => ?_), found.trans faithful⟩
  rw [renderWith_text engine' faithful, textOf]

/-- Sites with the same tools that list the same pages render a page to the same text. -/
theorem textOf_of_list_eq {site' : Site} (tools : site'.bare = site.bare)
    (same : site'.pages.list = site.pages.list) (t : FileTree) (page : Record) :
    site'.textOf t page = site.textOf t page := by
  have renderer : site'.renderer = site.renderer := by
    have bare : site'.bare.renderer = site.bare.renderer := by rw [tools]
    exact bare
  have groups : site'.pages.groups = site.pages.groups := by rw [Tree.groups, Tree.groups, same]
  unfold textOf Renderer.siteValue
  rw [renderer, same, groups]

theorem searchText_of_list_eq {site' : Site} (same : site'.pages.list = site.pages.list) :
    site'.searchText = site.searchText := by
  unfold searchText searchIndex
  rw [same]

/-! ## What is written -/

/-- Whether the files below a place are the pages of a site, as they are rendered, and the index. -/
def Displays (site : Site) (place : List Text) (t : FileTree) : Prop :=
  ∀ names content, t.lookup (place ++ names) = some (.file content) ↔
    (∃ page ∈ site.pages.records, ∃ text, names = splitOn '/' page.outputPath ∧
      site.textOf t page = .ok text ∧ content = .text text) ∨
    (names = [searchFile] ∧ content = .text site.searchText)

/-- Whether there are no files below a place but those of pages and of the index. -/
def Covers (site : Site) (place : List Text) (t : FileTree) : Prop :=
  ∀ names content, t.lookup (place ++ names) = some (.file content) →
    names = [searchFile] ∨ ∃ page ∈ site.pages.records, names = splitOn '/' page.outputPath

theorem Displays.covers {place : List Text} (displays : site.Displays place t) :
    site.Covers place t := by
  intro names content file
  rcases (displays names content).mp file with ⟨page, member, text, same, -, -⟩ | ⟨same, -⟩
  · exact Or.inr ⟨page, member, same⟩
  · exact Or.inl same

/-- With a page that is put in, a site covers what it covered. -/
theorem Covers.upsert {place : List Text} (covers : site.Covers place t) (indexed : site.pages.Indexed)
    (page : Record) (mode : UpsertMode) (kept : Kept) :
    Covers { site with pages := (site.pages.upsert page mode).1, kept := kept } place t := by
  intro names content there
  refine (covers names content there).imp_right ?_
  rintro ⟨old, member, rfl⟩
  by_cases replaced : old.outputPath = page.outputPath
  · exact ⟨page, (indexed.mem_upsert mode).mpr (Or.inl rfl), by rw [replaced]⟩
  · exact ⟨old, (indexed.mem_upsert mode).mpr (Or.inr ⟨member, replaced⟩), rfl⟩

/-- Without the page of a source, a site covers what it covered but for the file of this page. -/
theorem Covers.remove {place : List Text} (covers : site.Covers place t) (indexed : site.pages.Indexed)
    (path : Path) (fewer : ∀ names content, s.lookup (place ++ names) = some (.file content) →
      t.lookup (place ++ names) = some (.file content) ∧ names ≠ splitOn '/' (site.outputPath path)) :
    Covers (site.remove path).1 place s := by
  intro names content there
  obtain ⟨before, different⟩ := fewer names content there
  refine (covers names content before).imp_right ?_
  rintro ⟨old, member, rfl⟩
  exact ⟨old, indexed.mem_remove.mpr ⟨member, fun equal => different (by rw [equal])⟩, rfl⟩

theorem splitOn_injective {first second : Text} (same : splitOn '/' first = splitOn '/' second) :
    first = second := by
  rw [← join_splitOn '/' first, same, join_splitOn]

/-! ## Writing a site -/

theorem mem_list {tree : Tree} : page ∈ tree.list ↔ page ∈ tree.records := (sortBy_perm _).mem_iff

/-- Different pages are rendered to different names. -/
theorem renderAll_fst (site : Site) (t : FileTree) :
    (site.renderAll t).2.map Prod.fst = site.pages.list.map (·.outputPath) := by
  have each : ∀ (pages : List Record) (value : Template.Value) (kept : Kept),
      (renderEach t site.renderer value kept pages).1.map Prod.fst = pages.map (·.outputPath) := by
    intro pages value
    induction pages with
    | nil => exact fun _ => rfl
    | cons page rest ih => exact fun kept => congrArg _ (ih _)
  exact each _ _ _

theorem shown_distinct (indexed : site.pages.Indexed) (t : FileTree) :
    ((shown (site.renderAll t).2).map Prod.fst).Nodup := by
  refine List.Nodup.sublist (shown_sublist _) ?_
  have paths : (site.pages.list.map (·.outputPath)).Nodup :=
    ((sortBy_perm _).map _).nodup_iff.mpr indexed.distinct
  have split := paths.map (fun _ _ => splitOn_injective)
  rwa [← renderAll_fst site t, List.map_map] at split

/-- A site is written as a whole, as far as its pages can be rendered, if the output paths of those that
can are allowed. -/
theorem writeOutput_tidy {allowed : List Text → Prop} {place : List Text} {directory : Path}
    (indexed : site.pages.Indexed) (spread : Spread allowed) (search : allowed [searchFile])
    (allows : ∀ names ∈ (shown (site.renderAll t).2).map Prod.fst, allowed names)
    (elsewhere : [searchFile] ∉ (shown (site.renderAll t).2).map Prod.fst)
    (tidy : Tidy allowed place t) (wellformed : t.Wellformed) (filled : directory.text ≠ [])
    (located : t.locate? directory = some place) (there : t.lookup place = some .directory) :
    ∃ s, site.writeOutput directory t = ((site.renderAll t).1, s,
        .ok ⟨(shown (site.renderAll t).2).length, unshown (site.renderAll t).2⟩) ∧
      Published place (shown (site.renderAll t).2 ++ [([searchFile], site.searchText)]) t s ∧
      Tidy allowed place s := by
  obtain ⟨s, done, published, tidy'⟩ := writePages_tidy spread allows search
    (shown_distinct indexed t) elsewhere tidy wellformed filled located there site.searchText
  refine ⟨s, ?_, published, tidy'⟩
  have index : (site.renderAll t).1.searchText = site.searchText := rfl
  simp only [writeOutput, index, done]

theorem mem_shown_renderAll (engine : site.engine = layouts.engine)
    (faithful : layouts.Faithful t site.kept) {names : List Text} {text : Text} :
    (names, text) ∈ shown (site.renderAll t).2 ↔
      ∃ page ∈ site.pages.records, names = splitOn '/' page.outputPath ∧
        site.textOf t page = .ok text := by
  rw [mem_shown, (renderAll_eq engine faithful).1]
  constructor
  · rintro ⟨outputPath, member, rfl⟩
    obtain ⟨page, listed, same⟩ := List.mem_map.mp member
    obtain ⟨rfl, text⟩ := Prod.mk.inj same
    exact ⟨page, mem_list.mp listed, rfl, text⟩
  · rintro ⟨page, member, rfl, text⟩
    exact ⟨page.outputPath, List.mem_map.mpr ⟨page, mem_list.mpr member, by rw [text]⟩, rfl⟩

/-- Where the texts of all pages that can be rendered and the index are published, and no other files were
there, the site is displayed. -/
theorem displays_of_published {place : List Text} (engine : site.engine = layouts.engine)
    (faithful : layouts.Faithful t site.kept) (same : layouts.find s [] = layouts.find t [])
    (covers : ∀ names content, t.lookup (place ++ names) = some (.file content) →
      names = [searchFile] ∨ names ∈ (shown (site.renderAll t).2).map Prod.fst)
    (published : Published place (shown (site.renderAll t).2 ++ [([searchFile], site.searchText)]) t s) :
    site.Displays place s := by
  intro names content
  rw [published.file]
  constructor
  · rintro (⟨text, member, rfl⟩ | ⟨absent, before⟩)
    · rcases List.mem_append.mp member with target | index
      · obtain ⟨page, inside, rfl, shown⟩ := (mem_shown_renderAll engine faithful).mp target
        exact Or.inl ⟨page, inside, text, rfl, (textOf_congr engine same page).trans shown, rfl⟩
      · cases List.mem_singleton.mp index
        exact Or.inr ⟨rfl, rfl⟩
    · exfalso
      rw [List.map_append, List.mem_append, not_or] at absent
      rcases covers names content before with rfl | page
      · exact absent.2 (List.mem_singleton_self _)
      · exact absent.1 page
  · rintro (⟨page, inside, text, rfl, shown, rfl⟩ | ⟨rfl, rfl⟩)
    · have before := (textOf_congr engine same page).symm.trans shown
      have target := (mem_shown_renderAll engine faithful).mpr ⟨page, inside, rfl, before⟩
      exact Or.inl ⟨text, List.mem_append_left _ target, rfl⟩
    · exact Or.inl ⟨_, List.mem_append_right _ (List.mem_singleton_self _), rfl⟩

/-- A site whose pages can be rendered is displayed when it has been written, if its output paths are
allowed and no other files are there. -/
theorem writeOutput_displays {allowed : List Text → Prop} {place : List Text} {directory : Path}
    (renders : ∀ page ∈ site.pages.records, ∃ text, site.textOf t page = .ok text)
    (engine : site.engine = layouts.engine) (faithful : layouts.Faithful t site.kept)
    (indexed : site.pages.Indexed) (spread : Spread allowed) (search : allowed [searchFile])
    (allows : ∀ page ∈ site.pages.records, allowed (splitOn '/' page.outputPath))
    (elsewhere : ∀ page ∈ site.pages.records, splitOn '/' page.outputPath ≠ [searchFile])
    (tidy : Tidy allowed place t) (covers : site.Covers place t) (wellformed : t.Wellformed)
    (filled : directory.text ≠ []) (located : t.locate? directory = some place)
    (there : t.lookup place = some .directory) :
    ∃ kept s report, site.writeOutput directory t = ({ site with kept := kept }, s, .ok report) ∧
      layouts.Faithful t kept ∧ s.Wellformed ∧ Extends t s ∧ Tidy allowed place s ∧
      (∀ other, ¬place <+: other → s.lookup other = t.lookup other) ∧
      (layouts.find s [] = layouts.find t [] → site.Displays place s) := by
  have names : ∀ names, names ∈ (shown (site.renderAll t).2).map Prod.fst ↔
      ∃ page ∈ site.pages.records, names = splitOn '/' page.outputPath := by
    intro names
    rw [List.mem_map]
    constructor
    · rintro ⟨⟨_, text⟩, member, rfl⟩
      obtain ⟨page, inside, same, -⟩ := (mem_shown_renderAll engine faithful).mp member
      exact ⟨page, inside, same⟩
    · rintro ⟨page, inside, rfl⟩
      obtain ⟨text, rendered⟩ := renders page inside
      exact ⟨(_, text), (mem_shown_renderAll engine faithful).mpr ⟨page, inside, rfl, rendered⟩, rfl⟩
  obtain ⟨s, done, published, tidy'⟩ := writeOutput_tidy indexed spread search
    (fun others member => by
      obtain ⟨page, inside, rfl⟩ := (names others).mp member
      exact allows page inside)
    (fun member => by
      obtain ⟨page, inside, same⟩ := (names _).mp member
      exact elsewhere page inside same.symm)
    tidy wellformed filled located there
  refine ⟨(site.renderAll t).1.kept, s, _, done, (renderAll_eq engine faithful).2,
    published.wellformed, published.grown, tidy', published.outside, fun same => ?_⟩
  refine displays_of_published engine faithful same (fun others content file => ?_) published
  exact (covers others content file).imp id (names others).mpr

end DocSite.Site
