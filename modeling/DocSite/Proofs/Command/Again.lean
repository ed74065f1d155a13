/-
# DocSite.Proofs.Command.Again -- building twice

A build that has not written anything that it reads (`Unread`) changes nothing when it is run again, and comes
to the same (`build_again`), whether it has succeeded or not. A build that has made sources of its pages, or
layouts, or what its pages document, reads them when it is run again (`not_every_build_repeats`).
-/
import DocSite.Proofs.Command.Coverage
import DocSite.Proofs.Config.Loading
import DocSite.Proofs.Doclet.Grown
import DocSite.Proofs.Site.Again

set_option autoImplicit false

namespace DocSite.Command

open FileTree (Extends)
open Doclet (Language)
open Site (BuildError BuildReport OutputReport)

variable {t s : FileTree} {file : Path} {output : Option Path} {config : Config}

/-- Whether what a build of a project reads is in a tree `s` as it was in a tree `t`: its configuration file,
its layouts, the sources that are found for its pages, and the files that its pages document. -/
structure Unread (file : Path) (config : Config) (t s : FileTree) : Prop where
  configuration : s.entryAt? file = t.entryAt? file
  directory : s.isDirectory config.layoutsDirectory = t.isDirectory config.layoutsDirectory
  layouts : ∀ place, t.locate? config.layoutsDirectory = some place →
    t.lookup place = some .directory → ∀ names, s.lookup (place ++ names) = t.lookup (place ++ names)
  sources : ∀ paths, (config.openSite t).discover s = .ok paths → ∀ path ∈ paths,
    s.entryAt? path = t.entryAt? path
  documented : ∀ paths, (config.openSite t).discover t = .ok paths → ∀ path ∈ paths,
    ∀ text, t.entryAt? path = some (.file (.text text)) →
    ∀ docs ∈ Site.declared path text, ∀ language : Language,
    config.registry.resolve? docs.1 = some (language.adapter (config.base.join config.adapters.base)) →
    ∀ wanted, Doclet.patterns docs.2 = .ok wanted → ∀ pattern ∈ wanted,
      Doclet.Unchanged t s (config.base.join config.adapters.base) language.extensions pattern

/-! ## What is read again -/

theorem Unread.layouts_eq (unread : Unread file config t s) (grown : Extends t s)
    (filled : config.base.text ≠ []) : config.layouts s = config.layouts t ∧
      (config.layouts t).find s [] = (config.layouts t).find t [] := by
  cases there : t.isDirectory config.layoutsDirectory with
  | false => exact Config.layouts_builtin there (unread.directory.trans there)
  | true =>
    obtain ⟨-, place, located, taken⟩ := FileTree.isDirectory_iff.mp there
    exact Config.layouts_congr (Path.join_ne_nil filled) located
      (FileTree.locate_mono grown.home grown.directory located) taken
      (unread.layouts place located taken)

/-- Whether an adapter is one of the library, with references relative to a directory. -/
def IsBundled (base : Path) (adapter : Doclet.Adapter) : Prop :=
  ∃ language : Language, adapter = language.adapter base

theorem isBundled_register {base : Path} {registry : Doclet.Registry} {adapter : Doclet.Adapter}
    (bundled : IsBundled base adapter)
    (each : ∀ entry ∈ registry.adapters, IsBundled base entry.2) (name : Text) :
    ∀ entry ∈ (registry.register name adapter).adapters, IsBundled base entry.2 := by
  unfold Doclet.Registry.register
  dsimp only
  generalize registry.adapters = adapters at each
  induction adapters with
  | nil => simpa [Doclet.Registry.insertAdapter] using bundled
  | cons first rest ih =>
    obtain ⟨here, later⟩ := List.forall_mem_cons.mp each
    unfold Doclet.Registry.insertAdapter
    split
    · exact List.forall_mem_cons.mpr ⟨bundled, each⟩
    · exact List.forall_mem_cons.mpr ⟨bundled, later⟩
    · exact List.forall_mem_cons.mpr ⟨here, ih later⟩

/-- Every adapter of a configuration is one of the library. -/
theorem isBundled_registry {name : Text} {adapter : Doclet.Adapter}
    (found : config.registry.resolve? name = some adapter) :
    IsBundled (config.base.join config.adapters.base) adapter := by
  have each : ∀ entry ∈ config.registry.adapters,
      IsBundled (config.base.join config.adapters.base) entry.2 := by
    unfold Config.registry
    dsimp only
    have none : ∀ entry ∈ Doclet.Registry.empty.adapters,
        IsBundled (config.base.join config.adapters.base) entry.2 := fun _ member => by cases member
    generalize Doclet.Registry.empty = registry at none
    induction config.adapters.enabled generalizing registry with
    | nil => exact none
    | cons name rest ih =>
      refine ih _ ?_
      dsimp only
      split
      · exact isBundled_register ⟨.sass, rfl⟩ none name
      · split
        · exact isBundled_register ⟨.script, rfl⟩ none name
        · exact none
  obtain ⟨before, after, split, -⟩ := List.lookup_eq_some_iff.mp found
  exact each (name, adapter) (by simp [split])

theorem Unread.run_eq (unread : Unread file config t s) (grown : Extends t s)
    (wellformed : t.Wellformed) (wellformed' : s.Wellformed) (absolute : config.base.isAbsolute = true)
    {paths : List Path} (found : (config.openSite t).discover t = .ok paths) {path : Path}
    (member : path ∈ paths) {text : Text} (source : t.entryAt? path = some (.file (.text text)))
    {docs : Text × Yaml.Value} (asked : docs ∈ Site.declared path text) :
    config.registry.run s docs.1 docs.2 = config.registry.run t docs.1 docs.2 := by
  unfold Doclet.Registry.run
  cases registered : config.registry.resolve? docs.1 with
  | none => rfl
  | some adapter =>
    obtain ⟨language, rfl⟩ := isBundled_registry registered
    simp only [Language.parse_adapter]
    rw [Doclet.parseFiles_grown grown wellformed wellformed' (Path.isAbsolute_join absolute _)
      (unread.documented paths found path member text source docs asked language registered)]

/-! ## Building again -/

/-- What a build comes to when its pages have been written, or could not be. -/
def conclude (report : BuildReport) (written : FileTree × Except BuildError OutputReport) :
    FileTree × Except Failure Unit :=
  (written.1, match written.2 with
    | .error e => .error (.build e)
    | .ok written => verdict report written)

/-- A build renders the pages of the sources that are found, and writes them. -/
theorem build_eq {paths : List Path} (loaded : Config.load t file = .ok config)
    (found : (config.openSite t).discover t = .ok paths) :
    build file output t = conclude ((config.openSite t).build t paths).2
      (Site.writePages (output.getD config.outputDirectory)
        (((config.openSite t).build t paths).1.renderAll t).2
        ((config.openSite t).build t paths).1.searchText t) := by
  unfold build buildSite
  simp only [loaded, found]
  obtain ⟨built, report⟩ := (config.openSite t).build t paths
  unfold Site.writeOutput conclude
  have index : (built.renderAll t).1.searchText = built.searchText := rfl
  dsimp only
  rw [index]
  rcases Site.writePages (output.getD config.outputDirectory) (built.renderAll t).2
    built.searchText t with ⟨s, e | written⟩ <;> rfl

/-- A build that has written nothing that it reads renders the same pages when it is run again. -/
theorem Unread.build_eq (unread : Unread file config t s) (grown : Extends t s)
    (wellformed : t.Wellformed) (wellformed' : s.Wellformed) {paths : List Path}
    (loaded : Config.load t file = .ok config)
    (found : (config.openSite t).discover t = .ok paths) :
    build file output s = conclude ((config.openSite t).build t paths).2
      (Site.writePages (output.getD config.outputDirectory)
        (((config.openSite t).build t paths).1.renderAll t).2
        ((config.openSite t).build t paths).1.searchText s) := by
  obtain ⟨same, finds⟩ := unread.layouts_eq grown (Config.base_ne_nil loaded)
  have site : config.openSite s = config.openSite t := by
    unfold Config.openSite
    rw [same]
  have found' : (config.openSite t).discover s = .ok paths :=
    Site.discover_grown grown wellformed wellformed' found unread.sources
  have engine : (config.openSite t).engine = (config.layouts t).engine := rfl
  have engine' : ((config.openSite t).build t paths).1.engine = (config.layouts t).engine := rfl
  obtain ⟨pages, report, finds'⟩ := Site.build_grown engine finds
    (fun path member text source docs asked =>
      unread.run_eq grown wellformed wellformed' (Config.isAbsolute_base loaded) found member source
        asked)
    (unread.sources paths found')
  have texts := Site.renderAll_grown engine' finds'
  rw [← pages] at texts
  have search : ((config.openSite t).build s paths).1.searchText =
      ((config.openSite t).build t paths).1.searchText := by
    rw [Site.searchText, Site.searchIndex, pages, Site.searchText, Site.searchIndex]
  rw [Command.build_eq (Config.load_congr grown unread.configuration loaded) (site ▸ found'), site,
    report, texts, search]

/-- A build that has written nothing that it reads changes nothing when it is run again, and comes to the
same. -/
theorem build_again (wellformed : t.Wellformed) (home : t.lookup t.home = some .directory)
    (unread : ∀ config, Config.load t file = .ok config →
      Unread file config t (build file output t).1) :
    build file output (build file output t).1 = build file output t := by
  cases loaded : Config.load t file with
  | error e =>
    have stopped : build file output t = (t, .error (.config e)) := by
      simp only [build, loaded]
    rw [stopped]
    exact stopped
  | ok config =>
    have unread := unread config loaded
    cases found : (config.openSite t).discover t with
    | error e =>
      have stopped : build file output t = (t, .error (.build e)) := by
        simp only [build, loaded, buildSite, found]
      rw [stopped]
      exact stopped
    | ok paths =>
      rw [build_eq loaded found] at unread ⊢
      have repeats := Site.repeats_writePages (output.getD config.outputDirectory)
        (((config.openSite t).build t paths).1.renderAll t).2
        ((config.openSite t).build t paths).1.searchText
      refine (unread.build_eq (repeats.grows t) wellformed (repeats.wellformed t wellformed home) loaded
        found).trans ?_
      exact congrArg _ (Site.writePages_again wellformed home ..)

/-! ## A project that is built twice -/

/-- A project with a page that documents a style sheet. The page is to be written beside its source, as a
text. -/
def swatchFiles : FileTree where
  entries := [
    (["work".toList], .directory),
    (["work".toList, "docs".toList], .directory),
    (["work".toList, "docs".toList, "a.md".toList],
      .file (.text "---\ndocs:\n  sass: '*.scss'\n---\n".toList)),
    (["work".toList, "layouts".toList], .directory),
    (["work".toList, "layouts".toList, "base.html".toList], .file (.text [])),
    (["work".toList, "layouts".toList, "default.html".toList],
      .file (.text "\x7b\x7b page.docs.sass.mixin | length \x7d\x7d".toList)),
    (["work".toList, "layouts".toList, "nav.html".toList], .file (.text [])),
    (["work".toList, "lectern.toml".toList],
      .file (.text "output.dir = 'docs/out'\npages.extension = 'txt'".toList)),
    (["work".toList, "swatch.scss".toList], .file (.text "/// x\n@mixin y".toList))]
  home := []

/-- The configuration file of the project. -/
def swatchFile : Path := ⟨"/work/lectern.toml".toList⟩

/-- The configuration of the project. -/
def swatchConfig : Config :=
  (Config.load swatchFiles swatchFile).toOption.getD (.standard ⟨"/work".toList⟩)

/-- The index of the project. -/
def swatchIndex : String :=
  "[\n  \x7b\n    \"title\": \"a\",\n    \"path\": \"a.txt\",\n    \"group\": null,\n" ++
    "    \"doclets\": [\n      \"y\"\n    ]\n  \x7d\n]"

/-- The project after a build. -/
def swatchBuilt : FileTree :=
  ((swatchFiles.put ["work".toList, "docs".toList, "out".toList] .directory).put
    ["work".toList, "docs".toList, "out".toList, "a.txt".toList] (.file (.text ['1']))).put
    ["work".toList, "docs".toList, "out".toList, "search.json".toList]
    (.file (.text swatchIndex.toList))

theorem swatch_build : build swatchFile none swatchFiles = (swatchBuilt, .ok ()) := by
  decide +kernel

theorem swatch_unread : Unread swatchFile swatchConfig swatchFiles swatchBuilt where
  configuration := by decide +kernel
  directory := by decide +kernel
  layouts := by
    have wellformed : swatchFiles.Wellformed ∧ swatchBuilt.Wellformed := by decide +kernel
    have below : swatchBuilt.below ["work".toList, "layouts".toList] =
        swatchFiles.below ["work".toList, "layouts".toList] := by decide +kernel
    have taken : swatchBuilt.lookup ["work".toList, "layouts".toList] =
        swatchFiles.lookup ["work".toList, "layouts".toList] := by decide +kernel
    have located : swatchFiles.locate? swatchConfig.layoutsDirectory =
        some ["work".toList, "layouts".toList] := by decide +kernel
    intro place located' _
    rw [located] at located'
    cases located'
    exact FileTree.lookup_of_below wellformed.1 wellformed.2 below taken
  sources := by
    have same : ((swatchConfig.openSite swatchFiles).discover swatchBuilt).toOption.all (fun paths =>
        paths.all fun path => swatchBuilt.entryAt? path == swatchFiles.entryAt? path) = true := by
      decide +kernel
    intro paths found path member
    rw [found] at same
    simpa using List.all_eq_true.mp same path member
  documented := by
    have source : ((swatchConfig.openSite swatchFiles).discover swatchFiles).toOption =
        some [⟨"/work/docs/a.md".toList⟩] := by decide +kernel
    have content : swatchFiles.entryAt? ⟨"/work/docs/a.md".toList⟩ =
        some (.file (.text "---\ndocs:\n  sass: '*.scss'\n---\n".toList)) := by decide +kernel
    have asked : ∀ docs ∈ Site.declared ⟨"/work/docs/a.md".toList⟩
        "---\ndocs:\n  sass: '*.scss'\n---\n".toList,
        (Doclet.patterns docs.2).toOption = some ["*.scss".toList] := by decide +kernel
    have same : ∀ language : Language, ((Doclet.namedFiles? swatchBuilt
        (swatchConfig.base.join swatchConfig.adapters.base) language.extensions
        "*.scss".toList).all fun paths =>
          paths.all fun path => swatchBuilt.entryAt? path == swatchFiles.entryAt? path) = true := by
      intro language
      cases language <;> decide +kernel
    intro paths found path member text there docs member' language _ wanted read pattern listed
    rw [found] at source
    cases source
    cases List.mem_singleton.mp member
    rw [content] at there
    cases there
    have wants := asked docs member'
    rw [read] at wants
    cases wants
    cases List.mem_singleton.mp listed
    refine ⟨by decide +kernel, fun paths found path inside => ?_⟩
    have all := same language
    rw [found] at all
    simpa using List.all_eq_true.mp all path inside

/-- Building the project twice leaves what building it once does. -/
theorem swatch_built_again :
    swatchFiles.Wellformed ∧ swatchFiles.lookup swatchFiles.home = some .directory ∧
    (∀ config, Config.load swatchFiles swatchFile = .ok config →
      Unread swatchFile config swatchFiles swatchBuilt) ∧
    build swatchFile none swatchFiles = (swatchBuilt, .ok ()) ∧
    build swatchFile none swatchBuilt = (swatchBuilt, .ok ()) := by
  have wellformed : swatchFiles.Wellformed := by decide +kernel
  have unread : ∀ config, Config.load swatchFiles swatchFile = .ok config →
      Unread swatchFile config swatchFiles swatchBuilt := by
    intro config loaded
    have same : swatchConfig = config := by
      rw [swatchConfig, loaded]
      rfl
    exact same ▸ swatch_unread
  have again : build swatchFile none (build swatchFile none swatchFiles).1 =
      build swatchFile none swatchFiles := build_again wellformed rfl fun config loaded => by
    rw [swatch_build]
    exact unread config loaded
  rw [swatch_build] at again
  exact ⟨wellformed, rfl, unread, swatch_build, again⟩

/-- Whether a second build of a project of empty pages leaves another text at a path than the first one. -/
def Unsettled (settings : String) (sources : List String) (path : String) : Prop :=
  (build leafletFile none (build leafletFile none (leafletFiles settings sources)).1).1.readText?
      ⟨path.toList⟩ ≠
    (build leafletFile none (leafletFiles settings sources)).1.readText? ⟨path.toList⟩

instance (settings : String) (sources : List String) (path : String) :
    Decidable (Unsettled settings sources path) := by unfold Unsettled; infer_instance

/-- A build does not repeat if its pages take the place of its layouts, or become sources. -/
theorem not_every_build_repeats :
    (¬∀ (t : FileTree) (file : Path) (output : Option Path), t.Wellformed →
      t.lookup t.home = some .directory →
      (build file output (build file output t).1).1 = (build file output t).1) ∧
    Unsettled "output.dir = 'layouts'" ["b.md", "default.md"] "/work/layouts/b.html" ∧
    Unsettled "output.dir = 'docs/out'" ["a.md"] "/work/docs/out/out/a.html" := by
  have layouts : Unsettled "output.dir = 'layouts'" ["b.md", "default.md"] "/work/layouts/b.html" := by
    decide +kernel
  refine ⟨fun all => ?_, layouts, by decide +kernel⟩
  have same := all (leafletFiles "output.dir = 'layouts'" ["b.md", "default.md"]) leafletFile none
    (by decide +kernel) rfl
  exact layouts (congrArg (FileTree.readText? ⟨"/work/layouts/b.html".toList⟩) same)

end DocSite.Command
