/-
# DocSite.Proofs.Site.Building -- what a build makes of its sources

A build puts the pages that it reads into an empty tree, one after the other. In this tree each output path
has the page that came last, in the slot of the one that came first (`Tree.get_fill`, `Tree.slot_fill`).
So what a build makes and reports is known from what is read of each source alone (`Gathers`), if the
engine renders a text no matter what it has rendered before (`Engine.Steady`).
-/
import DocSite.Proofs.Site.Reflection
import DocSite.Proofs.Site.Steady
import Mathlib.Data.List.Basic

set_option autoImplicit false

namespace DocSite.Site

open Page (Record)

/-- What comes last is new just if it has not come before. -/
theorem eraseDups_snoc {α : Type} [BEq α] [LawfulBEq α] (xs : List α) (x : α) :
    (xs ++ [x]).eraseDups = if x ∈ xs then xs.eraseDups else xs.eraseDups ++ [x] := by
  rw [List.eraseDups_append]
  by_cases old : x ∈ xs
  · have nothing : [x].removeAll xs = [] := by simp [List.removeAll, old]
    rw [if_pos old, nothing, List.eraseDups_nil, List.append_nil]
  · have itself : [x].removeAll xs = [x] := by simp [List.removeAll, old]
    rw [if_neg old, itself, List.eraseDups_cons, List.filter_nil, List.eraseDups_nil]

theorem nodup_eraseDups {α : Type} [BEq α] [LawfulBEq α] (xs : List α) : xs.eraseDups.Nodup := by
  induction xs using List.reverseRecOn with
  | nil => exact .nil
  | append_singleton xs x ih =>
    rw [eraseDups_snoc]
    split
    · exact ih
    next new =>
      rw [← List.mem_eraseDups] at new
      simpa using ih.concat new

/-! ## Pages put in one after the other -/

namespace Tree

/-- The tree that pages make when they are put in one after the other. -/
def fill (pages : List Record) : Tree :=
  pages.foldl (fun tree page => (tree.upsert page .full).1) .empty

variable {tree : Tree} {page : Record}

@[simp]
theorem fill_snoc (pages : List Record) (page : Record) :
    fill (pages ++ [page]) = ((fill pages).upsert page .full).1 := by
  simp [fill]

theorem indexed_fill (pages : List Record) : (fill pages).Indexed := by
  induction pages using List.reverseRecOn with
  | nil => exact indexed_empty
  | append_singleton pages page ih =>
    rw [fill_snoc]
    exact indexed_upsert ih page .full

/-- The page of an output path is the one that came last. -/
theorem get_fill (pages : List Record) (path : Text) :
    (fill pages).get? path = pages.reverse.find? fun page => page.outputPath = path := by
  induction pages using List.reverseRecOn with
  | nil => rfl
  | append_singleton pages page ih =>
    rw [fill_snoc, (indexed_fill pages).get_upsert, List.reverse_concat, List.find?_cons, ih]
    by_cases here : path = page.outputPath
    · simp [here]
    · simp [here, Ne.symm here]

/-- A page takes the slot of its output path, if there is one, and a new slot behind all others if not. -/
theorem Indexed.outputPaths_upsert (indexed : tree.Indexed) (mode : UpsertMode) :
    (tree.upsert page mode).1.records.map (·.outputPath) =
      if page.outputPath ∈ tree.records.map (·.outputPath) then tree.records.map (·.outputPath)
      else tree.records.map (·.outputPath) ++ [page.outputPath] := by
  unfold upsert
  split
  next slot found =>
    obtain ⟨old, taken, same⟩ := indexed.page_of_slot found
    have there : (tree.records.map (·.outputPath))[slot]? = some page.outputPath := by
      simp [taken, same]
    obtain ⟨inside, here⟩ := List.getElem?_eq_some_iff.mp there
    rw [if_pos (List.mem_of_getElem? there), List.map_set, ← here, List.set_getElem_self]
  next free =>
    have absent : page.outputPath ∉ tree.records.map (·.outputPath) := by
      intro member
      obtain ⟨old, inside, same⟩ := List.mem_map.mp member
      obtain ⟨slot, found, -⟩ := indexed.slot_of_mem inside
      rw [same, free] at found
      cases found
    rw [if_neg absent, List.map_append, List.map_singleton]

/-- The output paths have slots in the order in which they came first. -/
theorem outputPaths_fill (pages : List Record) :
    (fill pages).records.map (·.outputPath) = (pages.map (·.outputPath)).eraseDups := by
  induction pages using List.reverseRecOn with
  | nil => rfl
  | append_singleton pages page ih =>
    rw [fill_snoc, (indexed_fill pages).outputPaths_upsert, ih, List.map_append, List.map_singleton,
      eraseDups_snoc]
    simp only [List.mem_eraseDups]

theorem slot_fill (pages : List Record) (path : Text) :
    (fill pages).slot? path = (pages.map (·.outputPath)).eraseDups.idxOf? path := by
  rw [(indexed_fill pages).slot_eq_findIdx, ← outputPaths_fill, List.idxOf?, List.findIdx?_map]
  congr 1
  funext page
  simp [Bool.beq_eq_decide_eq]

theorem size_fill (pages : List Record) :
    (fill pages).size = (pages.map (·.outputPath)).eraseDups.length := by
  rw [size, ← outputPaths_fill, List.length_map]

end Tree

/-! ## What is read of sources -/

/-- The page that was read of a source, if there is one. -/
def pageOf? : Except PageError (Option Record) → Option Record
  | .ok page => page
  | .error _ => none

/-- Why a source could not be read. -/
def errorOf? : Except PageError (Option Record) → Option PageError
  | .ok _ => none
  | .error e => some e

theorem takeIn_eq (tree : Tree) (failures : List PageError)
    (results : List (Except PageError (Option Record))) :
    results.foldl (fun (tree, failures) result => takeIn tree failures result) (tree, failures) =
      ((results.filterMap pageOf?).foldl (fun tree page => (tree.upsert page .full).1) tree,
        failures ++ results.filterMap errorOf?) := by
  induction results generalizing tree failures with
  | nil => simp
  | cons result rest ih =>
    rw [List.foldl_cons]
    match result with
    | .ok (some page) => exact ih (tree.upsert page .full).1 failures
    | .ok none => exact ih tree failures
    | .error e =>
      refine (ih tree (failures ++ [e])).trans ?_
      rw [List.append_assoc]
      rfl

theorem pages_build (files : FileTree) (paths : List Path) (site : Site) :
    (site.build files paths).1.pages =
      Tree.fill ((readAll files site.reader site.kept paths).1.filterMap pageOf?) :=
  congrArg Prod.fst (takeIn_eq _ _ _)

variable {site : Site} {files : FileTree} {kept : Kept} {path : Path}

theorem path_of_resolveDocs {reader : PageReader} {declared : List (Text × Yaml.Value)}
    {e : PageError} (failed : reader.resolveDocs files path declared = .error e) : e.path = path := by
  obtain ⟨asked, -, same⟩ := Mapping.exists_of_mapM_error (PageReader.resolveDocs_error_iff.mp failed)
  unfold PageReader.answer at same
  split at same <;> cases same
  rfl

/-- Why a source could not be read names the source. -/
theorem path_of_error {reader : PageReader} {e : PageError}
    (failed : (reader.read files kept path).page = .error e) : e.path = path := by
  rcases reader.read_cases files kept path with ⟨-, same⟩ | same | ⟨text, -, makes⟩
  · rw [same] at failed
    cases failed
  · rw [same] at failed
    cases failed
    rfl
  · generalize reader.read files kept path = reading at failed makes
    cases makes with
    | unextracted => cases failed; rfl
    | unrendered => cases failed; rfl
    | undocumented _ _ asked =>
      cases failed
      exact path_of_resolveDocs asked
    | page => cases failed

/-! ## Builds -/

/-- The pages that are read of sources, in their order. -/
def pagesOf (read : Results) (paths : List Path) : List Record :=
  paths.filterMap fun path => pageOf? (read path)

theorem pagesOf_cons {read : Results} {path : Path} {page : Record}
    (same : read path = .ok (some page)) (paths : List Path) :
    pagesOf read (path :: paths) = page :: pagesOf read paths := by
  simp [pagesOf, same, pageOf?]

/-- Whether a tree and a report are what sources come to that are read in their order: each output path
has the page that came last, in the slot of the one that came first, and the sources that failed are
reported in their order. -/
structure Gathers (read : Results) (paths : List Path) (tree : Tree) (report : BuildReport) :
    Prop where
  fill : tree = Tree.fill (pagesOf read paths)
  last : ∀ outputPath, tree.get? outputPath =
    (pagesOf read paths).reverse.find? fun page => page.outputPath = outputPath
  slot : ∀ outputPath, tree.slot? outputPath =
    ((pagesOf read paths).map (·.outputPath)).eraseDups.idxOf? outputPath
  failures : report.failures = paths.filterMap fun path => errorOf? (read path)
  failing : report.failures.map PageError.path =
    paths.filter fun path => (errorOf? (read path)).isSome
  pages : report.pages = ((pagesOf read paths).map (·.outputPath)).eraseDups.length

/-- The pages do not change if sources that give none are left out. -/
theorem pagesOf_filter (read : Results) (paths : List Path) :
    pagesOf read (paths.filter fun path => (pageOf? (read path)).isSome) = pagesOf read paths := by
  rw [pagesOf, pagesOf, List.filterMap_filter]
  refine List.filterMap_congr fun path _ => ?_
  cases pageOf? (read path) <;> rfl

/-- What was read of sources is taken in as it should be. -/
theorem gathers_of_results {read : Results} {paths : List Path}
    (named : ∀ path e, read path = .error e → e.path = path) {tree : Tree}
    {failures : List PageError} (taken : (paths.map read).foldl
      (fun (tree, failures) result => takeIn tree failures result) (.empty, []) = (tree, failures)) :
    Gathers read paths tree ⟨tree.size, failures⟩ := by
  rw [takeIn_eq, List.filterMap_map, List.filterMap_map, List.nil_append] at taken
  obtain ⟨rfl, rfl⟩ := Prod.mk.inj taken
  have names : ∀ path e, errorOf? (read path) = some e → e.path = path := by
    intro path e failed
    cases same : read path with
    | ok page => simp [same, errorOf?] at failed
    | error e' =>
      rw [same] at failed
      cases failed
      exact named path _ same
  exact {
    fill := rfl
    last := Tree.get_fill _
    slot := Tree.slot_fill _
    failures := rfl
    failing := by
      induction paths with
      | nil => rfl
      | cons path rest ih =>
        cases failed : errorOf? (read path) with
        | none => simpa [failed] using ih
        | some e => simpa [failed, names path e failed] using ih
    pages := Tree.size_fill _ }

/-! ## Sites -/

/-- What is read of a source by a site, before any other source is read. -/
def resultOf (files : FileTree) (site : Site) : Results :=
  fun path => (site.reader.read files site.kept path).page

/-- A build gathers what is read of each source alone. -/
theorem gathers_build (steady : site.engine.Steady files) (paths : List Path) :
    Gathers (site.resultOf files) paths (site.build files paths).1.pages
      (site.build files paths).2 := by
  have steady' : site.reader.engine.Steady files := steady
  have results := steady'.readAll site.kept paths
  refine gathers_of_results (fun path e failed => path_of_error failed) ?_
  rw [← results]
  rfl

end DocSite.Site
