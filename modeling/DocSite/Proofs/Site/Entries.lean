/-
# DocSite.Proofs.Site.Entries -- all pages are rendered as each alone

Rendering all pages takes them from the list of the tree; rendering one page looks it up in the index. What
is done to a site step by step keeps the index true to the pages (`Step.indexed_apply`,
`indexed_after`), so there is one entry for each page, and it is what rendering the page alone
gives (`site_renders_each_alone`), in whatever order the pages are rendered (`entries_in_any_order`).
-/
import DocSite.Proofs.Site.Publishing
import DocSite.Proofs.Site.Reachable
import DocSite.Proofs.Site.Steady

set_option autoImplicit false

namespace DocSite.Site

open Text
open Page (Record)

/-! ## Steps -/

/-- What can be done to a site: something to its tree, reading of sources, dropping a source, and
rendering. -/
inductive Step where
  | operate (operation : Operation)
  | build (files : FileTree) (paths : List Path)
  | parse (files : FileTree) (path : Path) (mode : ParseMode)
  | remove (path : Path)
  | renderPage (files : FileTree) (outputPath : Text)
  | renderAll (files : FileTree)

/-- Does a step to a site. -/
def Step.apply (site : Site) : Step → Site
  | operate operation => { site with pages := (operation.onTree site.pages).1 }
  | build files paths => (site.build files paths).1
  | parse files path mode => (site.parse files path mode).1
  | remove path => (site.remove path).1
  | renderPage files outputPath => (site.renderPage files outputPath).1
  | renderAll files => (site.renderAll files).1

/-- A site after some steps. -/
def after (site : Site) (steps : List Step) : Site := steps.foldl Step.apply site

variable {site : Site} {files : FileTree} {kept : Kept}

theorem bare_renderPage (files : FileTree) (outputPath : Text) (site : Site) :
    (site.renderPage files outputPath).1.bare = site.bare ∧
      (site.renderPage files outputPath).1.pages = site.pages := by
  unfold renderPage
  split <;> exact ⟨rfl, rfl⟩

theorem indexed_parse (indexed : site.pages.Indexed) (files : FileTree) (path : Path)
    (mode : ParseMode) : (site.parse files path mode).1.pages.Indexed := by
  rcases parse_cases files path mode site with same | ⟨page, upsert, -, same⟩
  · rw [same]
    exact indexed
  · rw [same]
    exact Tree.indexed_upsert indexed page upsert

/-- No step changes what a site works with. -/
theorem Step.bare_apply (site : Site) (step : Step) : (step.apply site).bare = site.bare := by
  cases step with
  | operate operation => rfl
  | build files paths => exact bare_build files paths site
  | parse files path mode => exact bare_parse files path mode site
  | remove path => rfl
  | renderPage files outputPath => exact (bare_renderPage files outputPath site).1
  | renderAll files => rfl

/-- Every step leaves the index true to the pages. -/
theorem Step.indexed_apply (indexed : site.pages.Indexed) (step : Step) :
    (step.apply site).pages.Indexed := by
  cases step with
  | operate operation => exact Operation.indexed_onTree indexed operation
  | build files paths => exact (sourced_build files paths site).indexed
  | parse files path mode => exact indexed_parse indexed files path mode
  | remove path => exact Tree.indexed_remove indexed _
  | renderPage files outputPath =>
    rw [Step.apply, (bare_renderPage files outputPath site).2]
    exact indexed
  | renderAll files => exact indexed

theorem bare_after (site : Site) (steps : List Step) : (site.after steps).bare = site.bare := by
  induction steps generalizing site with
  | nil => rfl
  | cons step rest ih => exact (ih (step.apply site)).trans (step.bare_apply site)

theorem indexed_after (indexed : site.pages.Indexed) (steps : List Step) :
    (site.after steps).pages.Indexed := by
  induction steps generalizing site with
  | nil => exact indexed
  | cons step rest ih => exact ih (step.indexed_apply indexed)

/-! ## Entries -/

/-- Rendering a page is never what misses it. -/
theorem renderWith_ne_pageNotFound (renderer : Renderer) (files : FileTree) (kept : Kept)
    (page : Record) (value : Template.Value) (outputPath : Text) :
    (renderer.renderWith files kept page value).text ≠ .error (.pageNotFound outputPath) := by
  unfold Renderer.renderWith
  dsimp only
  split
  · split
    · split <;> simp
    · simp
  · simp
  · simp

/-- A page is missed only where the tree has none. -/
theorem renderPage_eq_pageNotFound {outputPath missed : Text} :
    (site.renderPage files outputPath).2 = .error (.pageNotFound missed) ↔
      missed = outputPath ∧ site.pages.get? outputPath = none := by
  unfold renderPage
  split
  next absent => simp [absent, eq_comm]
  next page found =>
    simp only [found, reduceCtorEq, and_false, iff_false]
    exact renderWith_ne_pageNotFound _ _ _ _ _ _

/-- After all pages have been rendered, each is still rendered as before. -/
theorem Engine.Steady.alike_renderEach {renderer : Renderer}
    (steady : renderer.engine.Steady files) (value : Template.Value) (kept : Kept)
    (pages : List Record) :
    renderer.engine.RendersAlike files kept (Site.renderEach files renderer value kept pages).2 := by
  induction pages generalizing kept with
  | nil => exact .refl ..
  | cons page rest ih =>
    have alike : renderer.engine.RendersAlike files kept
        (renderer.renderWith files kept page value).kept := steady.layout kept _ _
    exact alike.trans (ih _)

theorem renderPage_of_alike {other : Site} {outputPath : Text} (pages : other.pages = site.pages)
    (renderer : other.renderer = site.renderer)
    (alike : site.engine.RendersAlike files site.kept other.kept) :
    (other.renderPage files outputPath).2 = (site.renderPage files outputPath).2 := by
  have alike' : site.renderer.engine.RendersAlike files site.kept other.kept := alike
  unfold renderPage
  rw [pages, renderer]
  split
  · rfl
  · exact renderWith_of_alike alike' _ _

/-- The pages of an indexed tree have different output paths, also in the order of navigation. -/
theorem Tree.Indexed.distinct_list {tree : Tree} (indexed : tree.Indexed) :
    (tree.list.map (·.outputPath)).Nodup :=
  ((sortBy_perm _).map _).nodup_iff.mpr indexed.distinct

/-- The entries of an output path are what is rendered of the page that the index has for it. -/
theorem mem_renderAll (steady : site.engine.Steady files) (indexed : site.pages.Indexed)
    {outputPath : Text} {result : Except RenderError Text} :
    (outputPath, result) ∈ (site.renderAll files).2 ↔
      ∃ page, site.pages.get? outputPath = some page ∧
        result = (site.renderer.render files site.kept page site.pages).text := by
  have rendered : ∀ {page : Record}, site.pages.get? page.outputPath = some page →
      (site.renderPage files page.outputPath).2 =
        (site.renderer.render files site.kept page site.pages).text := by
    intro page found
    simp only [renderPage, found]
  rw [steady.renderAll indexed, List.mem_map]
  constructor
  · rintro ⟨page, listed, same⟩
    obtain ⟨rfl, rfl⟩ := Prod.mk.inj same
    have found := indexed.get_eq_some.mpr ⟨mem_list.mp listed, rfl⟩
    exact ⟨page, found, rendered found⟩
  · rintro ⟨page, found, rfl⟩
    obtain ⟨member, rfl⟩ := indexed.get_eq_some.mp found
    exact ⟨page, mem_list.mpr member, by rw [rendered found]⟩

/-- Whether rendering all pages of a site agrees with rendering each of them: there is one entry for each
page, in the order of navigation; what an entry holds is what is rendered of the page that the index has
for its output path, and what rendering this page alone gives, before and after; and a page is missed
only where there is no entry. -/
structure RendersEachAlone (site : Site) (files : FileTree) : Prop where
  listed : site.pages.list.Perm site.pages.records
  order : (site.renderAll files).2.map Prod.fst = site.pages.list.map (·.outputPath)
  distinct : ((site.renderAll files).2.map Prod.fst).Nodup
  alone : ∀ outputPath result, (outputPath, result) ∈ (site.renderAll files).2 → ∃ page,
    site.pages.get? outputPath = some page ∧
    result = (site.renderer.render files site.kept page site.pages).text ∧
    result = (site.renderPage files outputPath).2 ∧
    result = ((site.renderAll files).1.renderPage files outputPath).2
  missed : ∀ outputPath missed,
    (site.renderPage files outputPath).2 = .error (.pageNotFound missed) ↔
      missed = outputPath ∧ outputPath ∉ (site.renderAll files).2.map Prod.fst

theorem rendersEachAlone_of_indexed (steady : site.engine.Steady files)
    (indexed : site.pages.Indexed) : site.RendersEachAlone files := by
  have order : (site.renderAll files).2.map Prod.fst = site.pages.list.map (·.outputPath) := by
    rw [steady.renderAll indexed, List.map_map]
    rfl
  exact {
    listed := sortBy_perm _
    order := order
    distinct := order ▸ indexed.distinct_list
    alone := by
      intro outputPath result member
      obtain ⟨page, found, same⟩ := (mem_renderAll steady indexed).mp member
      have alone : result = (site.renderPage files outputPath).2 := by
        rw [same]
        simp only [renderPage, found]
      have steady' : site.renderer.engine.Steady files := steady
      have later : ((site.renderAll files).1.renderPage files outputPath).2 =
          (site.renderPage files outputPath).2 :=
        renderPage_of_alike rfl rfl (steady'.alike_renderEach _ _ _)
      exact ⟨page, found, same, alone, alone.trans later.symm⟩
    missed := by
      intro outputPath missed
      have absent : site.pages.get? outputPath = none ↔
          outputPath ∉ (site.renderAll files).2.map Prod.fst := by
        simp [order, indexed.get_eq_find, mem_list]
      rw [renderPage_eq_pageNotFound, absent] }

/-- All pages are rendered as each alone, whatever has been done to the site. -/
theorem site_renders_each_alone (settings : Settings) (registry : Doclet.Registry) {engine : Engine}
    (markdown : MarkdownRenderer) (steps : List Step) (steady : engine.Steady files) :
    ((Site.create settings registry engine markdown).after steps).RendersEachAlone files := by
  have tools : ((Site.create settings registry engine markdown).after steps).engine = engine :=
    congrArg Site.engine (bare_after (.create settings registry engine markdown) steps)
  exact rendersEachAlone_of_indexed (tools.symm ▸ steady) (indexed_after Tree.indexed_empty steps)

/-- Two chapters, of which the second is to come first, and a draft. -/
def chapterFiles : FileTree where
  entries := [
    (["docs".toList], .directory),
    (["docs".toList, "a.md".toList], .file (.text "---\norder: 2\n---\n".toList)),
    (["docs".toList, "b.md".toList], .file (.text "---\norder: 1\n---\n".toList)),
    (["docs".toList, "c.md".toList], .file (.text []))]
  home := []

/-- A site that shows the title of each page and those of all. -/
def chapterSite : Site :=
  .create .standard .empty ((Layouts.add? "default".toList
    "\x7b\x7b page.title \x7d\x7d:\x7b% for p in site.pages %\x7d \x7b\x7b p.title \x7d\x7d\x7b% endfor %\x7d".toList
    ⟨[], none⟩).getD ⟨[], none⟩).engine .standard

/-- The draft is dropped after a build, and the first chapter is read again. -/
def chapterSteps : List Step :=
  [.build chapterFiles [⟨"docs/a.md".toList⟩, ⟨"docs/b.md".toList⟩, ⟨"docs/c.md".toList⟩],
    .operate (.remove "c.html".toList), .parse chapterFiles ⟨"docs/a.md".toList⟩ .incremental]

/-- The chapters are rendered as each alone, and the draft is missed. -/
theorem chapters_render_each_alone :
    chapterSite.engine.Steady chapterFiles ∧
      (chapterSite.after chapterSteps).RendersEachAlone chapterFiles ∧
      ((chapterSite.after chapterSteps).renderAll chapterFiles).2.map
          (Prod.map id Except.toOption) =
        [("b.html".toList, some "b: b a".toList), ("a.html".toList, some "a: b a".toList)] ∧
      ((chapterSite.after chapterSteps).renderPage chapterFiles "c.html".toList).2.toOption =
        none := by
  have steady : chapterSite.engine.Steady chapterFiles := Layouts.engine_steady _ _
  exact ⟨steady, site_renders_each_alone .standard .empty .standard chapterSteps steady,
    by decide +kernel, by decide +kernel⟩

/-- Whatever the order in which the pages are rendered, they give the same entries. -/
theorem entries_in_any_order (steady : site.engine.Steady files) {pages : List Record}
    (order : pages.Perm site.pages.list) :
    (renderEach files site.renderer (site.renderer.siteValue site.pages) site.kept pages).1.Perm
      (site.renderAll files).2 := by
  have steady' : site.renderer.engine.Steady files := steady
  rw [show (site.renderAll files).2 = _ from steady'.renderEach _ _ _, steady'.renderEach]
  exact order.map _

end DocSite.Site
