/-
# DocSite.Proofs.Site.Commuting -- changes of different pages commute

Sources that are read again at the same time are read and put in in any order. What has been put in, what has
been read and what waits are together the pages that are read of each source alone: this holds of every
state that moves lead to (`Overlapping.Gathering`, `Gathering.step`, `Gathering.run`). So in the end each
page has been put in once, and if no two sources have the same output path the order makes no difference but for
that of new pages (`updates_in_any_order`): no page is lost.
-/
import DocSite.Proofs.Site.Updates
import DocSite.Site.Overlapping

set_option autoImplicit false

namespace DocSite.Site

open Page (Record)

variable {site : Site} {files : FileTree} {paths : List Path}

namespace Overlapping

variable {overlapping next last : Overlapping} {move : OverlappingMove} {moves : List OverlappingMove}

/-- A page that is put in. -/
def stored (page : Record) : Update := .upsert page .incremental

theorem unstored_read (result : Except PageError (Option Record)) (unstored : List Record) :
    (match result with
      | .ok (some page) => unstored ++ [page]
      | _ => unstored) = unstored ++ (pageOf? result).toList := by
  cases result with
  | error e => simp [pageOf?]
  | ok found => cases found <;> simp [pageOf?]

/-- What a move does: a source is read, or a page is put in. -/
theorem step_cases (step : overlapping.step? files move = some next) :
    (∃ path before after, overlapping.waiting = before ++ path :: after ∧
      next = ⟨{ overlapping.site with
          kept := (overlapping.site.reader.read files overlapping.site.kept path).kept },
        before ++ after, overlapping.unstored ++
          (pageOf? (overlapping.site.reader.read files overlapping.site.kept path).page).toList⟩) ∨
    (∃ page before after, overlapping.unstored = before ++ page :: after ∧
      next = ⟨{ overlapping.site with pages := overlapping.site.pages.updated [stored page] },
        overlapping.waiting, before ++ after⟩) := by
  cases move with
  | read source =>
    simp only [step?] at step
    split at step
    · cases step
    next path found =>
      obtain ⟨inside, here⟩ := List.getElem?_eq_some_iff.mp found
      refine .inl ⟨path, overlapping.waiting.take source, overlapping.waiting.drop (source + 1), ?_, ?_⟩
      · rw [← here, List.getElem_cons_drop, List.take_append_drop]
      · rw [← Option.some.inj step, List.eraseIdx_eq_take_drop_succ]
        exact congrArg (Overlapping.mk _ _) (unstored_read ..)
  | store position =>
    simp only [step?] at step
    split at step
    · cases step
    next page found =>
      obtain ⟨inside, here⟩ := List.getElem?_eq_some_iff.mp found
      refine .inr ⟨page, overlapping.unstored.take position, overlapping.unstored.drop (position + 1), ?_, ?_⟩
      · rw [← here, List.getElem_cons_drop, List.take_append_drop]
      · rw [← Option.some.inj step, List.eraseIdx_eq_take_drop_succ]
        rfl

/-- Whether the pages that have been put in, those that have been read and those of the sources that wait are
together what is read of some sources, and nothing else has been done to the site that it was begun with. -/
structure Gathering (files : FileTree) (site : Site) (paths : List Path) (overlapping : Overlapping) : Prop where
  bare : overlapping.site.bare = site.bare
  alike : site.engine.RendersAlike files site.kept overlapping.site.kept
  pages : ∃ put : List Record, overlapping.site.pages = site.pages.updated (put.map stored) ∧
    (put ++ overlapping.unstored ++ pagesOf (site.resultOf files) overlapping.waiting).Perm
      (pagesOf (site.resultOf files) paths)

theorem gathering_start (files : FileTree) (site : Site) (paths : List Path) :
    Gathering files site paths (start paths site) where
  bare := rfl
  alike := .refl ..
  pages := ⟨[], rfl, .refl _⟩

theorem Gathering.reader (gathering : Gathering files site paths overlapping) :
    overlapping.site.reader = site.reader := by
  have same : overlapping.site.bare.reader = site.bare.reader := by rw [gathering.bare]
  exact same

/-- What is read of a source is what was read of it before anything else. -/
theorem Gathering.resultOf (gathering : Gathering files site paths overlapping) (path : Path) :
    (overlapping.site.reader.read files overlapping.site.kept path).page = site.resultOf files path := by
  rw [gathering.reader]
  exact page_of_texts gathering.alike.template (fun _ _ _ _ => rfl) rfl

theorem pagesOf_append (read : Results) (first second : List Path) :
    pagesOf read (first ++ second) = pagesOf read first ++ pagesOf read second := List.filterMap_append

theorem pagesOf_cons_toList (read : Results) (path : Path) (rest : List Path) :
    pagesOf read (path :: rest) = (pageOf? (read path)).toList ++ pagesOf read rest := by
  rw [pagesOf, List.filterMap_cons]
  cases pageOf? (read path) <;> rfl

section Steady

variable (steady : site.engine.Steady files)
include steady

theorem Gathering.step (gathering : Gathering files site paths overlapping)
    (step : overlapping.step? files move = some next) : Gathering files site paths next := by
  obtain ⟨put, pages, all⟩ := gathering.pages
  have engine : overlapping.site.engine = site.engine := congrArg PageReader.engine gathering.reader
  rcases step_cases step with ⟨path, before, after, waiting, rfl⟩ | ⟨page, before, after, unstored, rfl⟩
  · refine ⟨gathering.bare, ?_, put, pages, ?_⟩
    · have steady' : overlapping.site.reader.engine.Steady files := by
        rw [gathering.reader]
        exact steady
      have later : overlapping.site.engine.RendersAlike files overlapping.site.kept
          (overlapping.site.reader.read files overlapping.site.kept path).kept := steady'.read _ path
      rw [engine] at later
      exact gathering.alike.trans later
    · -- The page that has been read moves from the sources that wait to the pages that are read.
      apply List.Perm.trans _ all
      rw [waiting, gathering.resultOf path, pagesOf_append, pagesOf_append, pagesOf_cons_toList]
      simp only [List.append_assoc]
      apply List.Perm.append_left
      apply List.Perm.append_left
      exact List.perm_append_comm_assoc ..
  · refine ⟨gathering.bare, gathering.alike, put ++ [page], ?_, ?_⟩
    · rw [List.map_append, Tree.updated_append, ← pages]
      rfl
    · apply List.Perm.trans _ all
      rw [unstored]
      simp only [List.append_assoc]
      apply List.Perm.append_left
      exact List.perm_append_comm_assoc [page] before _

theorem Gathering.run (gathering : Gathering files site paths overlapping)
    (run : overlapping.run? files moves = some last) : Gathering files site paths last := by
  induction moves generalizing overlapping with
  | nil =>
    cases run
    exact gathering
  | cons move moves ih =>
    obtain ⟨next, step, later⟩ := Option.bind_eq_some_iff.mp run
    exact ih (gathering.step steady step) later

/-- When all has been read and put in, each page has been put in once. -/
theorem pages_of_finished (run : (start paths site).run? files moves = some last)
    (finished : last.isFinished = true) :
    ∃ put : List Record, last.site.pages = site.pages.updated (put.map stored) ∧
      put.Perm (pagesOf (site.resultOf files) paths) := by
  obtain ⟨waiting, unstored⟩ : last.waiting = [] ∧ last.unstored = [] := by
    simpa [isFinished] using finished
  obtain ⟨put, pages, all⟩ := ((gathering_start files site paths).run steady run).pages
  rw [waiting, unstored, List.append_nil] at all
  exact ⟨put, pages, by simpa [pagesOf] using all⟩

end Steady

theorem parse_of_none {path : Path}
    (none : pageOf? (site.reader.read files site.kept path).page = none) :
    (site.parse files path .incremental).1 =
      { site with kept := (site.reader.read files site.kept path).kept } := by
  rcases parse_cases files path .incremental site with same | ⟨page, upsert, read, -⟩
  · exact same
  · rw [read] at none
    cases none

theorem parse_of_some {path : Path} {page : Record}
    (found : pageOf? (site.reader.read files site.kept path).page = some page) :
    (site.parse files path .incremental).1 =
      { site with
        kept := (site.reader.read files site.kept path).kept
        pages := (site.pages.upsert page .incremental).1 } := by
  have read : (site.reader.read files site.kept path).page = .ok (some page) := by
    cases result : (site.reader.read files site.kept path).page with
    | error e => rw [result] at found; cases found
    | ok given => rw [result] at found; exact congrArg _ found
  simp only [parse, read]

theorem step_read (files : FileTree) (path : Path) (rest : List Path) (site : Site) :
    (start (path :: rest) site).step? files (.read 0) =
      some ⟨{ site with kept := (site.reader.read files site.kept path).kept }, rest,
        (pageOf? (site.reader.read files site.kept path).page).toList⟩ :=
  congrArg (fun unstored => some (Overlapping.mk
    { site with kept := (site.reader.read files site.kept path).kept } rest unstored))
    (unstored_read (site.reader.read files site.kept path).page [])

/-- Reading sources one after the other is one of the ways in which they can be read at the same time. -/
theorem exists_run (files : FileTree) (paths : List Path) (site : Site) :
    ∃ moves, (start paths site).run? files moves = some (start [] (site.parseEach files paths)) := by
  induction paths generalizing site with
  | nil => exact ⟨[], rfl⟩
  | cons path rest ih =>
    obtain ⟨moves, run⟩ := ih (site.parse files path .incremental).1
    have each : site.parseEach files (path :: rest) =
        (site.parse files path .incremental).1.parseEach files rest := rfl
    rw [each, ← run]
    cases found : pageOf? (site.reader.read files site.kept path).page with
    | none =>
      refine ⟨.read 0 :: moves, ?_⟩
      rw [run?, List.foldlM_cons, step_read, found, parse_of_none found]
      rfl
    | some page =>
      refine ⟨.read 0 :: .store 0 :: moves, ?_⟩
      rw [run?, List.foldlM_cons, step_read, found, parse_of_some found]
      rfl

/-- Sources with different output paths give pages with different output paths. -/
theorem outputPaths_pagesOf_sublist (files : FileTree) (site : Site) (paths : List Path) :
    ((pagesOf (site.resultOf files) paths).map (·.outputPath)).Sublist (paths.map site.outputPath) := by
  induction paths with
  | nil => exact .slnil
  | cons path rest ih =>
    rw [pagesOf_cons_toList, List.map_append, List.map_cons]
    cases read : site.resultOf files path with
    | error e => exact ih.cons _
    | ok found =>
      cases found with
      | none => exact ih.cons _
      | some page =>
        have own : page.outputPath = site.outputPath path := (page_of_read read).2
        simp only [pageOf?, Option.toList_some, List.map_cons, List.map_nil, List.singleton_append, own]
        exact ih.cons_cons _

theorem path_stored (put : List Record) : (put.map stored).map Update.path = put.map (·.outputPath) := by
  rw [List.map_map]
  rfl

/-- Two ways of reading and putting in the same sources, no two of them with the same output path, make the
same tree but for the order of new pages, and each page that is read is there. -/
theorem sameButNew_of_finished {moves' : List OverlappingMove} {last' : Overlapping}
    (indexed : site.pages.Indexed) (steady : site.engine.Steady files)
    (apart : (paths.map site.outputPath).Nodup)
    (run : (start paths site).run? files moves = some last) (finished : last.isFinished = true)
    (run' : (start paths site).run? files moves' = some last') (finished' : last'.isFinished = true) :
    SameButNew site.pages last.site.pages last'.site.pages ∧
      ∀ path ∈ paths, ∀ page, site.resultOf files path = .ok (some page) →
        last.site.pages.get? page.outputPath = some page := by
  obtain ⟨put, pages, all⟩ := pages_of_finished steady run finished
  obtain ⟨put', pages', all'⟩ := pages_of_finished steady run' finished'
  have distinct : ((put.map stored).map Update.path).Nodup := by
    rw [path_stored, (all.map _).nodup_iff]
    exact apart.sublist (outputPaths_pagesOf_sublist files site paths)
  have order : (put.map stored).Perm (put'.map stored) := (all.trans all'.symm).map stored
  constructor
  · rw [pages, pages']
    exact indexed.sameButNew distinct order
  · intro path member page read
    have inside : page ∈ put := by
      rw [all.mem_iff]
      exact List.mem_filterMap.mpr ⟨path, member, by rw [read]; rfl⟩
    have found := (Tree.find_of_apart distinct).mpr ⟨List.mem_map_of_mem inside, rfl⟩
    have same : (stored page).path = page.outputPath := rfl
    rw [pages, indexed.get_updated distinct, ← same, found]
    rfl

end Overlapping

/-! ## Changes in any order -/

/-- Whatever has been done to the empty tree, changes of different pages can be made in any order: each output
path has the page that its change left, or the one from before; there are as many pages; and only new pages
stand in the order of their changes. Where there are no new pages, all slots are the same. The same holds of
the pages of a site when sources are read again at the same time, in whatever order they are done, which may
be one after the other, and no page that is read is lost. -/
theorem updates_in_any_order (operations : List Operation) {updates reordered : List Update}
    (apart : (updates.map Update.path).Nodup) (order : updates.Perm reordered) :
    SameButNew (treeOf operations) ((treeOf operations).updated updates)
        ((treeOf operations).updated reordered) ∧
      (∀ path, ((treeOf operations).updated updates).get? path =
        match updates.find? fun update => update.path = path with
        | some update => update.page?
        | none => (treeOf operations).get? path) ∧
      ((∀ update ∈ updates, ∀ page, update.page? = some page →
          (treeOf operations).contains page.outputPath = true) →
        ((treeOf operations).updated updates).records = ((treeOf operations).updated reordered).records ∧
          ∀ path, ((treeOf operations).updated updates).slot? path =
            ((treeOf operations).updated reordered).slot? path) ∧
      ∀ (site : Site) (files : FileTree) (paths : List Path), site.Reachable → site.engine.Steady files →
        (paths.map site.outputPath).Nodup →
        (∃ moves, (Overlapping.start paths site).run? files moves =
          some (Overlapping.start [] (site.parseEach files paths))) ∧
        ∀ (moves moves' : List OverlappingMove) (last last' : Overlapping),
          (Overlapping.start paths site).run? files moves = some last → last.isFinished = true →
          (Overlapping.start paths site).run? files moves' = some last' → last'.isFinished = true →
          SameButNew site.pages last.site.pages last'.site.pages ∧
            ∀ path ∈ paths, ∀ page, site.resultOf files path = .ok (some page) →
              last.site.pages.get? page.outputPath = some page := by
  have indexed := indexed_treeOf operations
  refine ⟨indexed.sameButNew apart order, indexed.get_updated apart, indexed.updated_eq apart order, ?_⟩
  intro site files paths reachable steady distinct
  refine ⟨Overlapping.exists_run files paths site, ?_⟩
  intro moves moves' last last' run finished run' finished'
  exact Overlapping.sameButNew_of_finished reachable.sourced.indexed steady distinct run finished run' finished'

/-- A page without text. -/
def chapter (name title : String) : Record where
  source := ⟨("docs/" ++ name ++ ".md").toList⟩
  outputPath := (name ++ ".html").toList
  frontMatter := .empty
  body := []
  title := title.toList
  group := none
  layout := none
  docs := []
  order := none

/-- Three chapters are written. -/
def writing : List Operation :=
  [.upsert (chapter "a" "Old") .full, .upsert (chapter "b" "Old") .full, .upsert (chapter "c" "Old") .full]

/-- One chapter is dropped, one is written anew, and there are two new ones. -/
def revising : List Update :=
  [.remove "b.html".toList, .upsert (chapter "d" "New") .incremental, .upsert (chapter "a" "New") .full,
    .upsert (chapter "e" "New") .incremental]

/-- Two chapters. -/
def reviewFiles : FileTree where
  entries := [
    (["docs".toList], .directory),
    (["docs".toList, "a.md".toList], .file (.text ['x'])),
    (["docs".toList, "b.md".toList], .file (.text ['y']))]
  home := []

def reviewPaths : List Path := [⟨"docs/a.md".toList⟩, ⟨"docs/b.md".toList⟩]

def reviewSite : Site := .create .standard .empty Layouts.builtin.engine .standard

/-- The chapters `d` and `e` stand in the order in which they were written, and nothing else differs. When the
second of two sources is done before the first, both have their pages. -/
theorem chapters_in_any_order :
    (revising.map Update.path).Nodup ∧ revising.Perm revising.reverse ∧
      SameButNew (treeOf writing) ((treeOf writing).updated revising)
        ((treeOf writing).updated revising.reverse) ∧
      ((treeOf writing).updated revising).outputPaths.map String.ofList =
        ["a.html", "c.html", "d.html", "e.html"] ∧
      ((treeOf writing).updated revising.reverse).outputPaths.map String.ofList =
        ["a.html", "c.html", "e.html", "d.html"] ∧
      ∃ last, (Overlapping.start reviewPaths reviewSite).run? reviewFiles
          [.read 1, .read 0, .store 0, .store 0] = some last ∧
        SameButNew reviewSite.pages last.site.pages (reviewSite.parseEach reviewFiles reviewPaths).pages ∧
        last.site.pages.outputPaths.map String.ofList = ["b.html", "a.html"] := by
  have apart : (revising.map Update.path).Nodup := by decide
  have order : revising.Perm revising.reverse := (List.reverse_perm _).symm
  obtain ⟨same, -, -, overlapping⟩ := updates_in_any_order writing apart order
  refine ⟨apart, order, same, by decide, by decide, ?_⟩
  have steady : reviewSite.engine.Steady reviewFiles := Layouts.builtin.engine_steady reviewFiles
  obtain ⟨⟨moves, inTurn⟩, alike⟩ := overlapping reviewSite reviewFiles reviewPaths (.create ..) steady
    (by decide)
  have outcome : ((Overlapping.start reviewPaths reviewSite).run? reviewFiles
      [.read 1, .read 0, .store 0, .store 0]).map
      (fun last => (last.isFinished, last.site.pages.outputPaths.map String.ofList)) =
        some (true, ["b.html", "a.html"]) := by decide +kernel
  obtain ⟨last, done, both⟩ := Option.map_eq_some_iff.mp outcome
  obtain ⟨finished, outputs⟩ := Prod.mk.inj both
  obtain ⟨pages, -⟩ := alike _ moves last _ done finished inTurn rfl
  exact ⟨last, done, pages, outputs⟩

end DocSite.Site
