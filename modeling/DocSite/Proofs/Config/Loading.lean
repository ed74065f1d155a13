/-
# DocSite.Proofs.Config.Loading -- what a configuration is read from

A configuration depends on its file and on the directory that this lies in (`load_congr`), and its layouts
on what is below their directory (`layouts_congr`). Directories that are added elsewhere, and files
that are written elsewhere, make no difference.
-/
import DocSite.Config
import DocSite.Proofs.FileTree.Writing
import DocSite.Proofs.Site.Kept

set_option autoImplicit false

namespace DocSite.Config

open FileTree (Extends)

variable {t s files : FileTree} {file : Path} {config : Config} {place : List Text}

/-! ## Loading -/

/-- The base directory of a configuration that has been loaded is that of its file. -/
theorem canonical_of_load (loaded : load files file = .ok config) :
    canonical? files (directoryOf file) = some config.base := by
  unfold load at loaded
  split at loaded
  · cases loaded
  next base found =>
    split at loaded
    · split at loaded
      · cases loaded
      · split at loaded
        · cases loaded
        next config' read =>
          cases loaded
          obtain ⟨entries, -, chosen⟩ := Option.bind_eq_some_iff.mp read
          simp only [ofEntries?, Option.bind_eq_bind, Option.bind_eq_some_iff] at chosen
          obtain ⟨_, -, _, -, _, -, _, -, _, -, _, -, last⟩ := chosen
          cases Option.some.inj last
          exact found
    · cases loaded
      exact found

/-- The directory of a configuration that has been loaded has a path. -/
theorem base_ne_nil (loaded : load files file = .ok config) : config.base.text ≠ [] := by
  obtain ⟨place, -, same⟩ := Option.map_eq_some_iff.mp (canonical_of_load loaded)
  simp [← same, FileTree.pathOf]

/-- The path of this directory begins at the root. -/
theorem isAbsolute_base (loaded : load files file = .ok config) : config.base.isAbsolute = true := by
  obtain ⟨place, -, same⟩ := Option.map_eq_some_iff.mp (canonical_of_load loaded)
  simp [← same, FileTree.pathOf, Path.isAbsolute]

/-- A configuration is loaded as before from a tree that has only grown, if its file is as before. -/
theorem load_congr (grown : Extends t s) (same : s.entryAt? file = t.entryAt? file)
    (loaded : load t file = .ok config) : load s file = .ok config := by
  have base := canonical_of_load loaded
  have base' : canonical? s (directoryOf file) = some config.base := by
    obtain ⟨place, found, made⟩ := Option.map_eq_some_iff.mp base
    obtain ⟨located, there⟩ := Option.filter_eq_some_iff.mp found
    refine Option.map_eq_some_iff.mpr ⟨place, Option.filter_eq_some_iff.mpr ⟨?_, ?_⟩, made⟩
    · exact FileTree.locate_mono grown.home grown.directory located
    · exact grown.isSome_lookup there
  have text : s.readText? file = t.readText? file := by
    rw [FileTree.readText?, same, FileTree.readText?]
  have taken : s.exists? file = t.exists? file := by
    rw [FileTree.exists?, same, FileTree.exists?]
  unfold load at loaded ⊢
  rw [base] at loaded
  rw [base', text, taken]
  exact loaded

/-! ## Layouts -/

/-- The layouts of a configuration are found as before if nothing below their directory has changed. -/
theorem layouts_congr (filled : config.layoutsDirectory.text ≠ [])
    (located : t.locate? config.layoutsDirectory = some place)
    (located' : s.locate? config.layoutsDirectory = some place)
    (there : t.lookup place = some .directory)
    (same : ∀ names, s.lookup (place ++ names) = t.lookup (place ++ names)) :
    config.layouts s = config.layouts t ∧
      (config.layouts t).find s [] = (config.layouts t).find t [] := by
  have there' : s.lookup place = some .directory := by
    simpa [there] using same []
  have directory := FileTree.isDirectory_iff.mpr ⟨filled, place, located, there⟩
  have directory' := FileTree.isDirectory_iff.mpr ⟨filled, place, located', there'⟩
  have chosen : config.layouts t = .ofDirectory t config.layoutsDirectory := by
    rw [layouts, if_pos directory]
  refine ⟨?_, ?_⟩
  · rw [chosen, layouts, if_pos directory', Site.Layouts.ofDirectory_congr filled located located' same]
  · funext name
    rw [chosen]
    simp only [Site.Layouts.find, Site.Layouts.ofDirectory,
      Site.Layouts.findIn_congr filled located located' same there]

/-- The built-in layouts are found as before if there is still no directory of layouts. -/
theorem layouts_builtin (missing : t.isDirectory config.layoutsDirectory = false)
    (missing' : s.isDirectory config.layoutsDirectory = false) :
    config.layouts s = config.layouts t ∧
      (config.layouts t).find s [] = (config.layouts t).find t [] := by
  have chosen : config.layouts t = .builtin := by
    rw [layouts, missing]
    rfl
  refine ⟨?_, ?_⟩
  · rw [chosen, layouts, missing']
    rfl
  · have alone : Site.Layouts.builtin.directory = none := rfl
    funext name
    simp only [chosen, Site.Layouts.find, alone]

end DocSite.Config
