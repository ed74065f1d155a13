/-
# DocSite.Proofs.Watch.Edit -- edits of sources

A project is a configuration with the places of its page root and of its output directory, and an edit
writes or deletes a file below the page root. What an edit changes of the sources of a project is the
source that it writes or deletes; all other sources are there as before, and are read as before
(`read_congr`), as long as the layouts and what the adapters find stay the same (`Alike`), as layouts do
if nothing below their directory changes (`alike_of_below`).
-/
import DocSite.Proofs.Config.Loading
import DocSite.Proofs.Site.Reflection
import DocSite.Watch.Session

set_option autoImplicit false

namespace DocSite.Watch

open Text
open FileTree (Touched Written)
open DocSite.Path (IsName)
open Site (isHidden)

/-- A configuration, the path that is written to, the files at the beginning, and the places of the page
root and of the output directory. -/
structure Project where
  config : Config
  output : Path
  files : FileTree
  root : List Text
  out : List Text

namespace Project

variable (project : Project)

/-- The site of a project, without pages. -/
def site : Site := project.config.openSite project.files

/-- The layouts of a project. -/
def layouts : Site.Layouts := project.config.layouts project.files

/-- The path of a source, given by the names that lead to it from the page root. -/
def source (names : List Text) : Path := project.config.pageRoot.join ⟨join ['/'] names⟩

/-- What is read of sources if no layouts are kept. -/
def read (t : FileTree) : Site.Results := fun path => (project.site.reader.read t [] path).page

/-- Whether a path is a source that a build finds. -/
def IsSource (t : FileTree) (path : Path) : Prop :=
  ∃ paths, project.site.discover t = .ok paths ∧ path ∈ paths

/-- Whether the page root and the output directory are where they were. -/
structure Placed (t : FileTree) : Prop where
  wellformed : t.Wellformed
  root : t.locate? project.config.pageRoot = some project.root
  root_directory : t.lookup project.root = some .directory
  out : t.locate? project.output = some project.out
  out_directory : t.lookup project.out = some .directory

/-- Whether the layouts are there, and the adapters find, what they did at the beginning. -/
structure Alike (t : FileTree) : Prop where
  layouts : project.config.layouts t = project.layouts
  found : project.layouts.find t [] = project.layouts.find project.files []
  adapters : ∀ name reference, project.config.registry.run t name reference =
    project.config.registry.run project.files name reference

variable {project : Project} {t s : FileTree} {names : List Text} {path : Path} {place : List Text}

/-! ## What stays where it is -/

theorem Placed.grown (placed : project.Placed t) (wellformed : s.Wellformed) (home : s.home = t.home)
    (directory : ∀ place, t.lookup place = some .directory → s.lookup place = some .directory) :
    project.Placed s where
  wellformed := wellformed
  root := FileTree.locate_mono home directory placed.root
  root_directory := directory _ placed.root_directory
  out := FileTree.locate_mono home directory placed.out
  out_directory := directory _ placed.out_directory

theorem Placed.touched (placed : project.Placed t) (touched : Touched place t s) :
    project.Placed s := placed.grown touched.wellformed touched.home touched.directory

theorem Alike.find_eq (alike : project.Alike t) (alike' : project.Alike s) :
    project.layouts.find s [] = project.layouts.find t [] := alike'.found.trans alike.found.symm

theorem Alike.openSite (alike : project.Alike t) : project.config.openSite t = project.site := by
  have layouts := alike.layouts
  unfold Project.layouts at layouts
  rw [site, Config.openSite, Config.openSite, layouts]

/-- A source is read as before if it is there as before. -/
theorem read_congr (alike : project.Alike t) (alike' : project.Alike s)
    (same : s.entryAt? path = t.entryAt? path) : project.read s path = project.read t path := by
  have engine : project.site.reader.engine = project.layouts.engine := rfl
  exact Site.read_page engine (alike.find_eq alike')
    (fun name reference => (alike'.adapters name reference).trans (alike.adapters name reference).symm)
    same

/-- Layouts stay what they are as long as everything below their directory is the same. -/
theorem alike_of_below (wellformed : project.files.Wellformed) (wellformed' : t.Wellformed)
    (parts : project.config.layoutsDirectory.parts = .root :: place.map .name)
    (there : project.files.lookup place = some .directory)
    (there' : t.lookup place = some .directory)
    (same : t.below place = project.files.below place)
    (adapters : ∀ name reference, project.config.registry.run t name reference =
      project.config.registry.run project.files name reference) : project.Alike t := by
  have lookups : ∀ names, t.lookup (place ++ names) = project.files.lookup (place ++ names) := by
    intro names
    by_cases empty : names = []
    · rw [empty, List.append_nil, there, there']
    · refine Option.ext fun entry => ?_
      have here : (names, entry) ∈ t.below place ↔ (names, entry) ∈ project.files.below place := by
        rw [same]
      simpa [wellformed'.mem_below, wellformed.mem_below, empty] using here
  have filled : project.config.layoutsDirectory.text ≠ [] := by
    intro empty
    rw [Path.parts, empty] at parts
    cases parts
  obtain ⟨layouts, found⟩ := Config.layouts_congr filled (wellformed.locate_names parts there)
    (wellformed'.locate_names parts there') there lookups
  exact ⟨layouts, found, adapters⟩

/-! ## Sources by their names -/

section Sources

variable (filled : project.config.pageRoot.text ≠ [])
include filled

theorem source_injective {others : List Text} (nonempty : names ≠ [])
    (named : ∀ name ∈ names, IsName name) (nonempty' : others ≠ [])
    (named' : ∀ name ∈ others, IsName name) (same : project.source names = project.source others) :
    names = others :=
  Path.join_names_injective filled nonempty named nonempty' named' same

theorem entryAt_source (placed : project.Placed t) (nonempty : names ≠ [])
    (named : ∀ name ∈ names, IsName name) :
    t.entryAt? (project.source names) = t.lookup (project.root ++ names) :=
  placed.wellformed.entryAt_join_names filled placed.root nonempty named

theorem discover_placed (placed : project.Placed t) :
    ∃ paths, project.site.discover t = .ok paths :=
  ⟨_, Site.discover_eq_ok.mpr ⟨filled, project.root, placed.root, placed.root_directory, rfl⟩⟩

theorem isSource_iff (placed : project.Placed t) : project.IsSource t path ↔
    ∃ names content, names ≠ [] ∧ t.lookup (project.root ++ names) = some (.file content) ∧
      path = project.source names ∧ names.any isHidden = false ∧
      project.site.isPageSource path = true := by
  obtain ⟨paths, found⟩ := discover_placed filled placed
  rw [IsSource, found]
  constructor
  · rintro ⟨paths', same, member⟩
    cases same
    exact (Site.mem_discover placed.wellformed placed.root found).mp member
  · intro there
    exact ⟨paths, rfl, (Site.mem_discover placed.wellformed placed.root found).mpr there⟩

/-- Every source is that of some file names below the page root. -/
theorem names_of_isSource (placed : project.Placed t) (there : project.IsSource t path) :
    ∃ names, names ≠ [] ∧ (∀ name ∈ names, IsName name) ∧ path = project.source names ∧
      ∃ content, t.lookup (project.root ++ names) = some (.file content) := by
  obtain ⟨names, content, nonempty, file, same, -, -⟩ := (isSource_iff filled placed).mp there
  exact ⟨names, nonempty, Site.names_of_taken placed.wellformed file, same, content, file⟩

theorem isSource_source (placed : project.Placed t) (nonempty : names ≠ [])
    (named : ∀ name ∈ names, IsName name) : project.IsSource t (project.source names) ↔
      (∃ content, t.lookup (project.root ++ names) = some (.file content)) ∧
        names.any isHidden = false ∧ project.site.isPageSource (project.source names) = true := by
  rw [isSource_iff filled placed]
  constructor
  · rintro ⟨others, content, nonempty', file, same, visible, looks⟩
    have equal := source_injective filled nonempty named nonempty'
      (Site.names_of_taken placed.wellformed file) same
    subst equal
    exact ⟨⟨content, file⟩, visible, looks⟩
  · rintro ⟨⟨content, file⟩, visible, looks⟩
    exact ⟨names, content, nonempty, file, rfl, visible, looks⟩

/-- A source is still there, and read as before, if its file is as before. -/
theorem isSource_congr (placed : project.Placed t) (placed' : project.Placed s)
    (nonempty : names ≠ []) (named : ∀ name ∈ names, IsName name)
    (same : ∀ content, s.lookup (project.root ++ names) = some (.file content) ↔
      t.lookup (project.root ++ names) = some (.file content)) :
    project.IsSource s (project.source names) ↔ project.IsSource t (project.source names) := by
  simp only [isSource_source filled placed nonempty named,
    isSource_source filled placed' nonempty named, same]

/-- Sources stay, and are read as before, if no file below the page root but one changes. -/
theorem isSource_other (placed : project.Placed t) (placed' : project.Placed s)
    (elsewhere : ∀ names, project.source names = path → project.root ++ names ≠ place)
    (touched : Touched place t s) : project.IsSource s path ↔ project.IsSource t path := by
  constructor
  · intro there
    obtain ⟨names, nonempty, named, rfl, -⟩ := names_of_isSource filled placed' there
    exact (isSource_congr filled placed placed' nonempty named
      fun content => touched.file _ content (elsewhere names rfl)).mp there
  · intro there
    obtain ⟨names, nonempty, named, rfl, -⟩ := names_of_isSource filled placed there
    exact (isSource_congr filled placed placed' nonempty named
      fun content => touched.file _ content (elsewhere names rfl)).mpr there

theorem read_other (placed : project.Placed t) (placed' : project.Placed s)
    (alike : project.Alike t) (alike' : project.Alike s)
    (elsewhere : ∀ names, project.source names = path → project.root ++ names ≠ place)
    (touched : Touched place t s) (there : project.IsSource t path) :
    project.read s path = project.read t path := by
  obtain ⟨names, nonempty, named, rfl, content, file⟩ := names_of_isSource filled placed there
  refine read_congr alike alike' ?_
  rw [entryAt_source filled placed nonempty named, entryAt_source filled placed' nonempty named, file]
  exact (touched.file _ content (elsewhere names rfl)).mpr file

/-- What is outside of the page root does not matter for the sources. -/
theorem isSource_outside (placed : project.Placed t) (placed' : project.Placed s)
    (same : ∀ names, s.lookup (project.root ++ names) = t.lookup (project.root ++ names)) :
    project.IsSource s path ↔ project.IsSource t path := by
  simp only [isSource_iff filled placed, isSource_iff filled placed', same]

theorem read_outside (placed : project.Placed t) (placed' : project.Placed s)
    (alike : project.Alike t) (alike' : project.Alike s)
    (same : ∀ names, s.lookup (project.root ++ names) = t.lookup (project.root ++ names))
    (there : project.IsSource t path) : project.read s path = project.read t path := by
  obtain ⟨names, nonempty, named, rfl, -⟩ := names_of_isSource filled placed there
  refine read_congr alike alike' ?_
  rw [entryAt_source filled placed nonempty named, entryAt_source filled placed' nonempty named, same]

end Sources

end Project

/-! ## Edits -/

/-- An edit of a file below the page root, given by the names that lead to it. -/
inductive Edit where
  | write (names : List Text) (content : Content)
  | delete (names : List Text)

namespace Edit

/-- The names of the file that is edited. -/
def names : Edit → List Text
  | write names _ => names
  | delete names => names

/-- The files after an edit, if it can be made. Only files are deleted. -/
def make? (root : List Text) (files : FileTree) : Edit → Option FileTree
  | write names content => files.writeWithDirectories? (root ++ names) content
  | delete names =>
    if files.isFileAt (root ++ names) then some (files.remove (root ++ names)) else none

/-- What happened to the file. -/
def event (root : Path) : Edit → Event
  | write names _ => .changed (root.join ⟨join ['/'] names⟩)
  | delete names => .removed (root.join ⟨join ['/'] names⟩)

end Edit

namespace Project

variable {project : Project} {t s : FileTree} {names : List Text}

theorem place_named (placed : project.Placed t) : ∀ name ∈ project.root, IsName name :=
  placed.wellformed.isName_of_lookup (by rw [placed.root_directory]; rfl)

/-- Names that have been written or deleted below a directory lead somewhere. -/
theorem nonempty_of_edit (placed : project.Placed t) {edit : Edit}
    (edited : edit.make? project.root t = some s) : edit.names ≠ [] := by
  intro empty
  cases edit with
  | write names content =>
    rw [Edit.names] at empty
    subst empty
    rw [Edit.make?, List.append_nil] at edited
    exact (placed.wellformed.written (place_named placed) edited).free placed.root_directory
  | delete names =>
    rw [Edit.names] at empty
    subst empty
    simp [Edit.make?, FileTree.isFileAt, placed.root_directory] at edited

theorem written_of_edit (placed : project.Placed t) {content : Content}
    (named : ∀ name ∈ names, IsName name)
    (edited : (Edit.write names content).make? project.root t = some s) :
    Written (project.root ++ names) content t s := by
  refine placed.wellformed.written (fun name member => ?_) edited
  rcases List.mem_append.mp member with outer | inner
  · exact place_named placed name outer
  · exact named name inner

theorem removed_of_edit (edited : (Edit.delete names).make? project.root t = some s) :
    (∃ content, t.lookup (project.root ++ names) = some (.file content)) ∧
      s = t.remove (project.root ++ names) := by
  rw [Edit.make?] at edited
  split at edited
  next file => exact ⟨FileTree.isFileAt_iff.mp file, (Option.some.inj edited).symm⟩
  · cases edited

/-- An edit touches its file alone. -/
theorem touched_of_edit (placed : project.Placed t) {edit : Edit}
    (named : ∀ name ∈ edit.names, IsName name)
    (edited : edit.make? project.root t = some s) :
    Touched (project.root ++ edit.names) t s := by
  cases edit with
  | write names content => exact (written_of_edit placed named edited).touched
  | delete names =>
    obtain ⟨⟨content, file⟩, rfl⟩ := removed_of_edit edited
    exact placed.wellformed.touched_remove file

end Project

end DocSite.Watch
