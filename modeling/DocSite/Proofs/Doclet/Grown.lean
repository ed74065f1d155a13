/-
# DocSite.Proofs.Doclet.Grown -- references in a tree that has grown

When a tree grows, a pattern names the same files as before if it names no new directory and every file that
it names is as it was (`Unchanged`, `Unchanged.named`). If that holds of the patterns of a reference, an
adapter reads the same doclets (`parseFiles_grown`).
-/
import DocSite.Proofs.Doclet.Naming
import DocSite.Proofs.Glob.Grown

set_option autoImplicit false

namespace DocSite.Doclet

open Text
open FileTree (Extends)
open DocSite.Path (IsName)

variable {t s : FileTree} {base p : Path} {extensions : List Text} {pattern : Text}

/-- Whether a pattern names no directory that it did not name before, and every file that it names is as it
was. -/
structure Unchanged (t s : FileTree) (base : Path) (extensions : List Text) (pattern : Text) : Prop where
  directory : s.isDirectory (base.join ⟨pattern⟩) = t.isDirectory (base.join ⟨pattern⟩)
  file : ∀ paths, namedFiles? s base extensions pattern = some paths →
    ∀ p ∈ paths, s.entryAt? p = t.entryAt? p

section Grown

variable (grown : Extends t s) (wellformed : t.Wellformed) (wellformed' : s.Wellformed)
include grown wellformed wellformed'

/-- The files below a directory that count are as before, if each of them is. -/
theorem filter_filesBelow {directory : Path} {counts : Path → Bool}
    (there : t.isDirectory directory = true)
    (same : ∀ p ∈ (filesBelow s directory).filter counts, s.entryAt? p = t.entryAt? p) :
    (filesBelow s directory).filter counts = (filesBelow t directory).filter counts := by
  obtain ⟨filled, place, located, taken⟩ := FileTree.isDirectory_iff.mp there
  have located' := FileTree.locate_mono grown.home grown.directory located
  unfold filesBelow at same ⊢
  rw [located'] at same
  rw [located', located]
  dsimp only at same ⊢
  rw [List.filter_filterMap, List.filter_filterMap]
  refine FileTree.filterMap_below_grown grown wellformed wellformed' (fun _ => rfl)
    (fun _ _ _ => rfl) fun names content nonempty named picked found => ?_
  have entry := wellformed.entryAt_join_names filled located nonempty named
  have entry' := wellformed'.entryAt_join_names filled located' nonempty named
  rw [← entry, ← entry']
  refine same _ (List.mem_filter.mpr ⟨List.mem_filterMap.mpr
    ⟨(names, .file content), wellformed'.mem_below.mpr ⟨nonempty, found⟩, rfl⟩, ?_⟩)
  have counted : (Option.filter counts (some (directory.join ⟨join ['/'] names⟩))).isSome := picked
  simpa using counted

/-- A pattern that is unchanged names the files that it named before. -/
theorem Unchanged.named (unchanged : Unchanged t s base extensions pattern)
    (absolute : base.isAbsolute = true) :
    namedFiles? s base extensions pattern = namedFiles? t base extensions pattern := by
  have file := unchanged.file
  unfold namedFiles? at file ⊢
  dsimp only at file ⊢
  rw [unchanged.directory] at file ⊢
  split
  next there =>
    rw [if_pos there] at file
    rw [filter_filesBelow grown wellformed wellformed' there (file _ rfl)]
  next elsewhere =>
    rw [if_neg elsewhere] at file
    have found := Glob.find_grown grown wellformed wellformed'
      (Path.isAbsolute_join absolute ⟨pattern⟩)
    revert found file
    cases Glob.find? (base.join ⟨pattern⟩) s <;> cases Glob.find? (base.join ⟨pattern⟩) t
    · exact fun _ _ => rfl
    · intro _ found; cases found
    · intro _ found; cases found
    next paths' paths =>
      intro file found
      have kept : paths'.filter (t.isFile ·) = paths.filter (t.isFile ·) := Option.some.inj found
      have same : ∀ p ∈ paths', (s.isFile p && !isTest p) = (t.isFile p && !isTest p) := by
        intro p member
        cases counts : s.isFile p && !isTest p with
        | true =>
          have entry := file _ rfl p (List.mem_filter.mpr ⟨member, counts⟩)
          rw [← counts, FileTree.isFile, entry, FileTree.isFile]
        | false =>
          cases there : t.isFile p with
          | false => rfl
          | true => rw [grown.isFile there] at counts; exact counts.symm
      have split : ∀ list : List Path, (list.filter fun p => t.isFile p && !isTest p) =
          (list.filter (t.isFile ·)).filter fun p => !isTest p := by
        intro list
        rw [List.filter_filter]
        exact List.filter_congr fun p _ => Bool.and_comm ..
      rw [Option.map_some, Option.map_some, List.filter_congr same, split, split, kept]

end Grown

/-! ## Adapters -/

theorem mem_insertPath {q : Path} {found : List Path} (member : q ∈ insertPath p found) :
    q = p ∨ q ∈ found := by
  induction found with
  | nil => exact Or.inl (List.mem_singleton.mp member)
  | cons first rest ih =>
    unfold insertPath at member
    split at member
    · exact List.mem_cons.mp member
    · exact Or.inr member
    · rcases List.mem_cons.mp member with rfl | later
      · exact Or.inr (List.mem_cons_self ..)
      · exact (ih later).imp_right (List.mem_cons_of_mem _)

theorem mem_foldl_insertPath {paths found : List Path}
    (member : p ∈ paths.foldl (fun found p => insertPath p found) found) : p ∈ paths ∨ p ∈ found := by
  induction paths generalizing found with
  | nil => exact Or.inr member
  | cons first rest ih =>
    rcases ih member with later | here
    · exact Or.inl (List.mem_cons_of_mem _ later)
    · rcases mem_insertPath here with rfl | before
      · exact Or.inl (List.mem_cons_self ..)
      · exact Or.inr before

/-- Each file that is collected is one that a pattern names. -/
theorem mem_collected {tree : FileTree} {patterns : List Text} {found files : List Path}
    (collected : patterns.foldlM (addNamed tree base extensions) found = .ok files)
    (member : p ∈ files) : p ∈ found ∨
      ∃ pattern ∈ patterns, ∃ paths, namedFiles? tree base extensions pattern = some paths ∧ p ∈ paths := by
  induction patterns generalizing found with
  | nil =>
    cases collected
    exact Or.inl member
  | cons pattern rest ih =>
    rw [List.foldlM_cons, addNamed] at collected
    cases named : namedFiles? tree base extensions pattern with
    | none => rw [named] at collected; cases collected
    | some paths =>
      rw [named] at collected
      rcases ih collected with here | ⟨other, listed, later⟩
      · rcases mem_foldl_insertPath here with new | before
        · exact Or.inr ⟨pattern, List.mem_cons_self .., paths, named, new⟩
        · exact Or.inl before
      · exact Or.inr ⟨other, List.mem_cons_of_mem _ listed, later⟩

theorem collect_congr {patterns : List Text} (same : ∀ pattern ∈ patterns,
      namedFiles? s base extensions pattern = namedFiles? t base extensions pattern) :
    collect s base extensions patterns = collect t base extensions patterns := by
  unfold collect
  generalize ([] : List Path) = found
  induction patterns generalizing found with
  | nil => rfl
  | cons pattern rest ih =>
    obtain ⟨first, later⟩ := List.forall_mem_cons.mp same
    rw [List.foldlM_cons, List.foldlM_cons, addNamed, first, addNamed]
    cases namedFiles? t base extensions pattern with
    | none => rfl
    | some paths => exact ih later _

/-- An adapter reads the same doclets if the patterns of the reference are unchanged. -/
theorem parseFiles_grown {extract : Text → Text → Except Script.Unterminated (List Json.Value)}
    {reference : Yaml.Value} (grown : Extends t s) (wellformed : t.Wellformed)
    (wellformed' : s.Wellformed) (absolute : base.isAbsolute = true)
    (unchanged : ∀ wanted, patterns reference = .ok wanted → ∀ pattern ∈ wanted,
      Unchanged t s base extensions pattern) :
    parseFiles base extensions extract s reference = parseFiles base extensions extract t reference := by
  unfold parseFiles
  cases wanted : patterns reference with
  | error e => rfl
  | ok wanted' =>
    have each := unchanged wanted' wanted
    have same := collect_congr fun pattern member =>
      (each pattern member).named grown wellformed wellformed' absolute
    simp only [bind, Except.bind, same]
    cases collected : collect t base extensions wanted' with
    | error pattern => rfl
    | ok files =>
      dsimp only
      rw [Mapping.mapM_congr fun file member => ?_]
      obtain none | ⟨pattern, listed, paths, named, inside⟩ :=
        mem_collected (same.trans collected) member
      · cases none
      · rw [FileTree.readText?, (each pattern listed).file paths named file inside, FileTree.readText?]

end DocSite.Doclet
