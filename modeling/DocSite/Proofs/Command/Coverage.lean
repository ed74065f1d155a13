/-
# DocSite.Proofs.Command.Coverage -- what a build that succeeds has covered

If the build command succeeds, every source has been read and every page rendered. There is a page for
the output path of each source, which is that of the last source with this output path, and as many pages
have been written as there are output paths. What a page was rendered to is in its file, unless the index is
there instead, or, if the extension has a slash, another page (`build_covers_sources`). Sources and pages
need not be as many (`not_every_source_is_covered`).
-/
import DocSite.Command.Build
import DocSite.Proofs.Site.Building
import DocSite.Proofs.Site.Overwriting
import DocSite.Proofs.Site.Publishing

set_option autoImplicit false

namespace DocSite

open Text
open Page (Record)

namespace Site

variable {site : Site} {files t s : FileTree} {kept : Kept} {path : Path} {paths : List Path}
  {directory : Path} {read : Results} {outputPath : Path → Text}

/-! ## Sources that are found -/

/-- A file is not left out when it is read. -/
theorem read_of_file {reader : PageReader} {content : Content}
    (file : files.entryAt? path = some (.file content)) :
    (reader.read files kept path).page ≠ .ok none := by
  rcases reader.read_cases files kept path with ⟨apart, -⟩ | same | ⟨text, -, makes⟩
  · exact absurd file (apart content)
  · simp [same]
  · generalize reader.read files kept path = reading at makes ⊢
    cases makes <;> simp

theorem file_of_mem_discover (wellformed : files.Wellformed)
    (found : site.discover files = .ok paths) (member : path ∈ paths) :
    ∃ content, files.entryAt? path = some (.file content) := by
  obtain ⟨filled, place, located, -, -⟩ := discover_eq_ok.mp found
  obtain ⟨names, content, nonempty, taken, rfl, -, -⟩ :=
    (mem_discover wellformed located found).mp member
  refine ⟨content, ?_⟩
  rw [wellformed.entryAt_join_names filled located nonempty (names_of_taken wellformed taken), taken]

/-! ## Pages for all sources -/

section Reading

variable (pages : ∀ path ∈ paths, ∃ page, read path = .ok (some page) ∧ page.source = path ∧
  page.outputPath = outputPath path)
include pages

theorem outputPaths_pagesOf :
    (pagesOf read paths).map (·.outputPath) = paths.map outputPath := by
  induction paths with
  | nil => rfl
  | cons path rest ih =>
    obtain ⟨page, same, -, own⟩ := pages path (List.mem_cons_self ..)
    have later := ih fun other member => pages other (List.mem_cons_of_mem _ member)
    rw [pagesOf_cons same, List.map_cons, List.map_cons, own, later]

/-- The first page of an output path is that of the first source with this output path. -/
theorem source_of_find (target : Text) :
    ((pagesOf read paths).find? fun page => page.outputPath = target).map (·.source) =
      paths.find? fun path => outputPath path = target := by
  induction paths with
  | nil => rfl
  | cons path rest ih =>
    obtain ⟨page, same, source, own⟩ := pages path (List.mem_cons_self ..)
    have later := ih fun other member => pages other (List.mem_cons_of_mem _ member)
    rw [pagesOf_cons same, List.find?_cons, List.find?_cons, own]
    by_cases here : outputPath path = target
    · simp [here, source]
    · simpa [here] using later

/-- The page of an output path is that of the last source with this output path. -/
theorem Gathers.source {tree : Tree} {report : BuildReport}
    (gathers : Gathers read paths tree report) (target : Text) :
    (tree.get? target).map (·.source) =
      paths.reverse.find? fun path => outputPath path = target := by
  have reversed : (pagesOf read paths).reverse = pagesOf read paths.reverse := by
    rw [pagesOf, pagesOf, List.filterMap_reverse]
  rw [gathers.last, reversed]
  exact source_of_find (fun path member => pages path (List.mem_reverse.mp member)) target

end Reading

/-- Sources of which none failed all give pages. -/
theorem pages_of_no_failures {tree : Tree} {report : BuildReport}
    (gathers : Gathers read paths tree report) (clean : report.failures = [])
    (present : ∀ path ∈ paths, read path ≠ .ok none) (member : path ∈ paths) :
    ∃ page, read path = .ok (some page) := by
  rw [gathers.failures, List.filterMap_eq_nil_iff] at clean
  have fine := clean path member
  cases same : read path with
  | error e => simp [same, errorOf?] at fine
  | ok found =>
    cases found with
    | none => exact absurd same (present path member)
    | some page => exact ⟨page, rfl⟩

/-- If a build has no failures, every source that was found has become a page. -/
theorem page_of_mem_discover {built : Site} {report : BuildReport} (steady : site.engine.Steady t)
    (wellformed : t.Wellformed) (found : site.discover t = .ok paths)
    (made : site.build t paths = (built, report)) (clean : report.failures = [])
    (member : path ∈ paths) :
    ∃ page, site.resultOf t path = .ok (some page) ∧ page.source = path ∧
      page.outputPath = built.outputPath path := by
  have gathers := gathers_build steady paths
  have own : (site.build t paths).1.outputPath = site.outputPath := rfl
  rw [made] at gathers own
  have present : ∀ path ∈ paths, site.resultOf t path ≠ .ok none := by
    intro path member
    obtain ⟨content, there⟩ := file_of_mem_discover wellformed found member
    exact read_of_file there
  obtain ⟨page, same⟩ := pages_of_no_failures gathers clean present member
  obtain ⟨source, named⟩ := page_of_read same
  exact ⟨page, same, source, named.trans (congrFun own path).symm⟩

/-! ## Pages that share a file -/

/-- Whether the file of an output path is that of another page or of the index as well. -/
def SharesFile (s : FileTree) (directory : Path) (outputPath : Text) (site : Site) : Prop :=
  (∃ other ∈ site.pages.records, other.outputPath ≠ outputPath ∧
    s.locate? (directory.join ⟨other.outputPath⟩) = s.locate? (directory.join ⟨outputPath⟩)) ∨
  s.locate? (directory.join ⟨searchFile⟩) = s.locate? (directory.join ⟨outputPath⟩)

/-- Only the page at the path of the index shares its file, unless the extension of the site has a
slash. -/
theorem Sourced.outputPath_of_shared (sourced : site.Sourced) (plain : '/' ∉ site.settings.extension)
    (files : ∀ page ∈ site.pages.records, s.isFile (directory.join ⟨page.outputPath⟩) = true)
    (search : s.isFile (directory.join ⟨searchFile⟩) = true) {page : Record}
    (member : page ∈ site.pages.records) (shared : site.SharesFile s directory page.outputPath) :
    page.outputPath = searchFile := by
  have outer : ∀ page ∈ site.pages.records,
      ∀ piece ∈ (splitOn '/' page.outputPath).dropLast, Path.IsName piece := by
    intro page member
    rw [sourced.outputPath page member]
    exact outer_pieces plain _
  rcases shared with ⟨other, member', different, same⟩ | same
  · exact absurd (eq_of_same_place (outer other member') (outer page member) (files other member')
      (files page member) same) different
  · have single : ∀ piece ∈ (splitOn '/' searchFile).dropLast, Path.IsName piece := by decide
    exact (eq_of_same_place single (outer page member) search (files page member) same).symm

/-- When all pages of a site have been rendered and written, each is in its file, unless it shares its file
with another page or the index. -/
theorem written_of_no_failures {report : OutputReport} {after : Site} (steady : site.engine.Steady t)
    (indexed : site.pages.Indexed)
    (done : site.writeOutput directory t = (after, s, .ok report)) (clean : report.failures = []) :
    report.written = site.pages.size ∧
      s.isFile (directory.join ⟨searchFile⟩) = true ∧
      ∀ page ∈ site.pages.records, ∃ text, (site.renderPage t page.outputPath).2 = .ok text ∧
        s.isFile (directory.join ⟨page.outputPath⟩) = true ∧
        (s.readText? (directory.join ⟨page.outputPath⟩) = some text ∨
          site.SharesFile s directory page.outputPath) := by
  have distinct : ((site.renderAll t).2.map Prod.fst).Nodup := by
    rw [renderAll_fst]
    exact ((sortBy_perm _).map _).nodup_iff.mpr indexed.distinct
  have index : (site.renderAll t).1.searchText = site.searchText := rfl
  have wrote : writePages directory (site.renderAll t).2 site.searchText t = (s, .ok report) := by
    simp only [writeOutput, index] at done
    obtain ⟨-, same⟩ := Prod.mk.inj done
    exact same
  obtain ⟨rfl, search, files⟩ := writePages_ok distinct wrote
  rw [steady.renderAll indexed] at files clean ⊢
  have entry : ∀ page ∈ site.pages.records, (page.outputPath, (site.renderPage t page.outputPath).2) ∈
      site.pages.list.map fun page => (page.outputPath, (site.renderPage t page.outputPath).2) :=
    fun page member => List.mem_map.mpr ⟨page, mem_list.mpr member, rfl⟩
  refine ⟨?_, ?_, fun page member => ?_⟩
  · rw [length_shown, List.filter_eq_self.mpr, List.length_map]
    · exact (sortBy_perm _).length_eq
    · rintro ⟨outputPath, result⟩ listed
      obtain ⟨text, rfl⟩ := ok_of_unshown clean listed
      rfl
  · exact FileTree.isFile_iff.mpr ⟨_, FileTree.readText_eq_some.mp search⟩
  · obtain ⟨text, same⟩ := ok_of_unshown clean (entry page member)
    obtain ⟨file, holds⟩ := files _ text (same ▸ entry page member)
    refine ⟨text, same, file, holds.imp id (Or.imp ?_ id)⟩
    rintro ⟨outputPath, text', different, overwritten, -, here⟩
    obtain ⟨other, listed, pair⟩ := List.mem_map.mp overwritten
    obtain ⟨rfl, -⟩ := Prod.mk.inj pair
    exact ⟨other, mem_list.mp listed, different, here⟩

end Site

namespace Command

open Site (BuildReport OutputReport)

variable {t s : FileTree} {file : Path} {output : Option Path}

/-- What has happened when a site has been built and written. -/
theorem buildSite_eq_ok {directory : Path} {site after : Site} {report : BuildReport}
    {written : OutputReport}
    (done : buildSite directory t site = (after, s, .ok (report, written))) :
    ∃ paths built, site.discover t = .ok paths ∧ site.build t paths = (built, report) ∧
      built.writeOutput directory t = (after, s, .ok written) := by
  unfold buildSite at done
  cases found : site.discover t with
  | error e =>
    simp only [found] at done
    cases done
  | ok paths =>
    cases made : site.build t paths with
    | mk built report' =>
      cases wrote : built.writeOutput directory t with
      | mk after' rest =>
        obtain ⟨s', outcome⟩ := rest
        simp only [found, made, wrote] at done
        cases outcome with
        | error e => cases done
        | ok written' =>
          cases done
          exact ⟨paths, built, rfl, made, wrote⟩

/-- A build comes to a success if nothing has failed. -/
theorem verdict_eq_ok {report : BuildReport} {written : OutputReport} :
    verdict report written = .ok () ↔ report.failures = [] ∧ written.failures = [] := by
  unfold verdict
  simp

/-- What has happened when the build command succeeds. -/
theorem build_eq_ok (done : build file output t = (s, .ok ())) :
    ∃ config paths built report after written, Config.load t file = .ok config ∧
      (config.openSite t).discover t = .ok paths ∧
      (config.openSite t).build t paths = (built, report) ∧
      built.writeOutput (output.getD config.outputDirectory) t = (after, s, .ok written) ∧
      report.failures = [] ∧ written.failures = [] := by
  unfold build at done
  split at done
  · cases done
  next config loaded =>
    dsimp only at done
    split at done
    · cases done
    next after s' report written complete =>
      obtain ⟨rfl, passed⟩ := Prod.mk.inj done
      obtain ⟨paths, built, found, made, wrote⟩ := buildSite_eq_ok complete
      exact ⟨config, paths, built, report, after, written, loaded, found, made, wrote,
        verdict_eq_ok.mp passed⟩

/-- If the build command succeeds, there is a page for the output path of every source that was found. It is
that of the last of the sources with this output path, and what it was rendered to is in its file, unless
the index is there, or the extension has a slash and another text is there. As many pages have been written
as the sources have output paths. -/
theorem build_covers_sources (wellformed : t.Wellformed)
    (done : build file output t = (s, .ok ())) :
    ∃ config paths built report after written, Config.load t file = .ok config ∧
      (config.openSite t).discover t = .ok paths ∧
      (config.openSite t).build t paths = (built, report) ∧
      built.writeOutput (output.getD config.outputDirectory) t = (after, s, .ok written) ∧
      written.written = (paths.map built.outputPath).eraseDups.length ∧
      ∀ path ∈ paths, ∃ page text,
        built.pages.get? (built.outputPath path) = some page ∧
        paths.reverse.find? (fun other => built.outputPath other = built.outputPath path) =
          some page.source ∧
        page.outputPath = built.outputPath path ∧
        (built.renderPage t page.outputPath).2 = .ok text ∧
        (s.readText? ((output.getD config.outputDirectory).join ⟨page.outputPath⟩) = some text ∨
          page.outputPath = Site.searchFile ∨
          ('/' ∈ built.settings.extension ∧
            built.SharesFile s (output.getD config.outputDirectory) page.outputPath)) := by
  obtain ⟨config, paths, built, report, after, written, loaded, found, made, wrote, read, rendered⟩ :=
    build_eq_ok done
  refine ⟨config, paths, built, report, after, written, loaded, found, made, wrote, ?_⟩
  have engine : ∀ files, (config.openSite t).engine.Steady files := Site.Layouts.engine_steady _
  have sourced := Site.sourced_build t paths (config.openSite t)
  have gathers := Site.gathers_build (engine t) paths
  have steady : (Site.build t paths (config.openSite t)).1.engine.Steady t := engine t
  rw [made] at sourced gathers steady
  have pages : ∀ path ∈ paths, ∃ page, (config.openSite t).resultOf t path = .ok (some page) ∧
      page.source = path ∧ page.outputPath = built.outputPath path := fun path member =>
    Site.page_of_mem_discover (engine t) wellformed found made read member
  obtain ⟨count, search, files⟩ :=
    Site.written_of_no_failures steady sourced.indexed wrote rendered
  constructor
  · rw [count, gathers.fill, Site.Tree.size_fill, Site.outputPaths_pagesOf pages]
  · intro path member
    have source := gathers.source pages (built.outputPath path)
    cases there : built.pages.get? (built.outputPath path) with
    | none =>
      rw [there, Option.map_none] at source
      have missed := List.find?_eq_none.mp source.symm path (List.mem_reverse.mpr member)
      simp at missed
    | some page =>
      rw [there, Option.map_some] at source
      obtain ⟨inside, named⟩ := sourced.indexed.get_eq_some.mp there
      obtain ⟨text, shown, -, holds | shared⟩ := files page inside
      · exact ⟨page, text, rfl, source.symm, named, shown, Or.inl holds⟩
      · refine ⟨page, text, rfl, source.symm, named, shown, Or.inr ?_⟩
        by_cases plain : '/' ∈ built.settings.extension
        · exact Or.inr ⟨plain, shared⟩
        · have lies : ∀ page ∈ built.pages.records,
              s.isFile ((output.getD config.outputDirectory).join ⟨page.outputPath⟩) = true := by
            intro other present
            obtain ⟨-, -, file, -⟩ := files other present
            exact file
          exact Or.inl (sourced.outputPath_of_shared plain lies search inside shared)

/-- A project with some empty pages and a layout that shows their output paths. -/
def leafletFiles (settings : String) (sources : List String) : FileTree where
  entries :=
    [(["work".toList], .directory),
      (["work".toList, "docs".toList], .directory)] ++
    sources.map (fun name => (["work".toList, "docs".toList, name.toList], .file (.text []))) ++
    [(["work".toList, "layouts".toList], .directory),
      (["work".toList, "layouts".toList, "base.html".toList], .file (.text [])),
      (["work".toList, "layouts".toList, "default.html".toList],
        .file (.text "\x7b\x7b page.output_path \x7d\x7d".toList)),
      (["work".toList, "layouts".toList, "nav.html".toList], .file (.text [])),
      (["work".toList, "lectern.toml".toList], .file (.text settings.toList))]
  home := []

/-- The configuration file of the project. -/
def leafletFile : Path := ⟨"/work/lectern.toml".toList⟩

/-- The site of the project. -/
def leafletSite (settings : String) (sources : List String) : Site :=
  ((Config.load (leafletFiles settings sources) leafletFile).toOption.getD
    (.standard ⟨"/work".toList⟩)).openSite (leafletFiles settings sources)

/-- The sources of the project. -/
def leafletPaths (settings : String) (sources : List String) : List Path :=
  ((leafletSite settings sources).discover (leafletFiles settings sources)).toOption.getD []

/-- The site after a build. -/
def leaflet (settings : String) (sources : List String) : Site :=
  ((leafletSite settings sources).build (leafletFiles settings sources)
    (leafletPaths settings sources)).1

/-- Three sources of two output paths are built, and two pages are written. -/
theorem leaflet_covers_sources :
    ∃ s config paths built report after written,
      build leafletFile none (leafletFiles "" ["01-a.md", "a.md", "b.md"]) = (s, .ok ()) ∧
      (Config.openSite (leafletFiles "" ["01-a.md", "a.md", "b.md"]) config).build
        (leafletFiles "" ["01-a.md", "a.md", "b.md"]) paths = (built, report) ∧
      built.writeOutput config.outputDirectory (leafletFiles "" ["01-a.md", "a.md", "b.md"]) =
        (after, s, .ok written) ∧
      written.written = (paths.map built.outputPath).eraseDups.length := by
  have wellformed : (leafletFiles "" ["01-a.md", "a.md", "b.md"]).Wellformed := by decide +kernel
  have succeeds : (build leafletFile none (leafletFiles "" ["01-a.md", "a.md", "b.md"])).2 = .ok () := by
    decide +kernel
  generalize done : build leafletFile none (leafletFiles "" ["01-a.md", "a.md", "b.md"]) = result
    at succeeds
  obtain ⟨s, outcome⟩ := result
  cases succeeds
  obtain ⟨config, paths, built, report, after, written, -, -, made, wrote, count, -⟩ :=
    build_covers_sources wellformed done
  exact ⟨s, config, paths, built, report, after, written, rfl, made, wrote, count⟩

/-- Whether the project is built, and the file of a page does not hold what the page is rendered to. -/
def Misprinted (settings : String) (sources : List String) (outputPath : String) : Prop :=
  (build leafletFile none (leafletFiles settings sources)).2 = .ok () ∧
    ∃ page ∈ (leaflet settings sources).pages.records, page.outputPath = outputPath.toList ∧
      (build leafletFile none (leafletFiles settings sources)).1.readText?
          (Path.join ⟨"/work/dist".toList⟩ ⟨page.outputPath⟩) ≠
        ((leaflet settings sources).renderPage (leafletFiles settings sources)
          page.outputPath).2.toOption

/-- The second of two sources of one output path replaces the page of the first, the index replaces the
text of a page, and so does the text of another page that goes to the same file. -/
theorem not_every_source_is_covered :
    ((build leafletFile none (leafletFiles "" ["01-a.md", "a.md"])).2 = .ok () ∧
      ⟨"/work/docs/01-a.md".toList⟩ ∈ leafletPaths "" ["01-a.md", "a.md"] ∧
      ∀ page ∈ (leaflet "" ["01-a.md", "a.md"]).pages.records,
        page.source ≠ ⟨"/work/docs/01-a.md".toList⟩) ∧
    Misprinted "pages.extension = 'json'" ["search.md"] "search.json" ∧
    Misprinted "pages.extension = 'x/../z'" ["a.md", "b.md"] "a.x/../z" := by
  unfold Misprinted
  refine ⟨⟨?_, ?_, ?_⟩, ⟨?_, ?_⟩, ?_, ?_⟩
  all_goals decide +kernel

end Command

end DocSite
