/-
# DocSite.Proofs.Doclet.Collecting -- collected files are a union

The files of patterns are put into one list in the order of paths, each path once (`ascending_insertPath`,
`mem_insertPath_iff`). So what patterns name together is what they name one by one (`collect_eq`), and the
list does not depend on the order of the patterns or on how often they stand there. A pattern that names a
directory stands for the files below it (`mem_filesBelow`). Paths count as the same if they have the same
parts; of two that are written differently, the one that was found first stays.
-/
import DocSite.Proofs.Doclet.Grown
import DocSite.Proofs.Path.Order
import DocSite.Proofs.Text.Phrases

set_option autoImplicit false

namespace DocSite.Doclet

open Text
open DocSite.Path (Ascending IsName Part)

variable {tree : FileTree} {base p q : Path} {found paths files : List Path} {extensions patterns : List Text}
  {pattern : Text} {parts : List Part}

/-! ## One path more -/

theorem mem_insertPath_iff :
    parts ∈ (insertPath p found).map Path.parts ↔ parts = p.parts ∨ parts ∈ found.map Path.parts := by
  induction found with
  | nil => simp [insertPath]
  | cons first rest ih =>
    unfold insertPath
    split
    · simp
    next same =>
      rw [Path.compare_eq_iff.mp same]
      simp
    · rw [List.map_cons, List.mem_cons, ih, List.map_cons, List.mem_cons, or_left_comm]

theorem ascending_insertPath (p : Path) (ascending : Ascending found) : Ascending (insertPath p found) := by
  induction found with
  | nil => exact List.pairwise_singleton ..
  | cons first rest ih =>
    obtain ⟨ahead, later⟩ := List.pairwise_cons.mp ascending
    unfold insertPath
    split
    next before =>
      refine List.pairwise_cons.mpr ⟨fun q member => ?_, ascending⟩
      rcases List.mem_cons.mp member with rfl | inside
      · exact before
      · exact Std.TransCmp.lt_trans before (ahead q inside)
    · exact ascending
    next after =>
      refine List.pairwise_cons.mpr ⟨fun q member => ?_, ih later⟩
      rcases mem_insertPath member with rfl | inside
      · exact Std.OrientedCmp.lt_of_gt after
      · exact ahead q inside

/-! ## Many paths -/

/-- Paths put in order, each once. -/
def inOrder (paths : List Path) : List Path := paths.foldl (fun found p => insertPath p found) []

theorem ascending_foldl (ascending : Ascending found) (paths : List Path) :
    Ascending (paths.foldl (fun found p => insertPath p found) found) := by
  induction paths generalizing found with
  | nil => exact ascending
  | cons first rest ih => exact ih (ascending_insertPath first ascending)

theorem mem_foldl_iff : parts ∈ (paths.foldl (fun found p => insertPath p found) found).map Path.parts ↔
    parts ∈ paths.map Path.parts ∨ parts ∈ found.map Path.parts := by
  induction paths generalizing found with
  | nil => simp
  | cons first rest ih =>
    rw [List.foldl_cons, ih, mem_insertPath_iff, List.map_cons, List.mem_cons, or_left_comm, or_assoc]

theorem mem_inOrder : parts ∈ (inOrder paths).map Path.parts ↔ parts ∈ paths.map Path.parts := by
  rw [inOrder, mem_foldl_iff]
  simp

/-- Paths in order depend on nothing but which paths there are. -/
theorem inOrder_congr {paths' : List Path}
    (same : ∀ parts, parts ∈ paths.map Path.parts ↔ parts ∈ paths'.map Path.parts) :
    (inOrder paths).map Path.parts = (inOrder paths').map Path.parts := by
  refine (ascending_foldl .nil paths).eq_of_mem_iff (ascending_foldl .nil paths') fun parts => ?_
  exact mem_inOrder.trans ((same parts).trans mem_inOrder.symm)

/-! ## Patterns -/

/-- The paths that patterns name, one pattern after the other. -/
def namedBy (tree : FileTree) (base : Path) (extensions patterns : List Text) : List Path :=
  patterns.flatMap fun pattern => (namedFiles? tree base extensions pattern).getD []

/-- Whether a pattern is malformed. -/
def isMalformed (tree : FileTree) (base : Path) (extensions : List Text) (pattern : Text) : Bool :=
  (namedFiles? tree base extensions pattern).isNone

theorem foldlM_addNamed (tree : FileTree) (base : Path) (extensions patterns : List Text) (found : List Path) :
    patterns.foldlM (addNamed tree base extensions) found =
      match patterns.find? (isMalformed tree base extensions) with
      | some pattern => .error pattern
      | none => .ok ((namedBy tree base extensions patterns).foldl (fun found p => insertPath p found) found) := by
  induction patterns generalizing found with
  | nil => rfl
  | cons pattern rest ih =>
    rw [List.foldlM_cons, addNamed, List.find?_cons, isMalformed, namedBy, List.flatMap_cons]
    cases namedFiles? tree base extensions pattern with
    | none => rfl
    | some paths =>
      refine (ih _).trans ?_
      rw [Option.getD_some, List.foldl_append]
      rfl

/-- What is collected is what the patterns name, in order, unless one of them is malformed. -/
theorem collect_eq (tree : FileTree) (base : Path) (extensions patterns : List Text) :
    collect tree base extensions patterns =
      match patterns.find? (isMalformed tree base extensions) with
      | some pattern => .error pattern
      | none => .ok (inOrder (namedBy tree base extensions patterns)) :=
  foldlM_addNamed tree base extensions patterns []

theorem collect_eq_ok : collect tree base extensions patterns = .ok files ↔
    (∀ pattern ∈ patterns, isMalformed tree base extensions pattern = false) ∧
      files = inOrder (namedBy tree base extensions patterns) := by
  rw [collect_eq]
  cases faulty : patterns.find? (isMalformed tree base extensions) with
  | none =>
    have sound : ∀ pattern ∈ patterns, isMalformed tree base extensions pattern = false := by
      simpa using faulty
    exact ⟨fun done => ⟨sound, (Except.ok.inj done).symm⟩, fun ⟨_, same⟩ => by rw [same]⟩
  | some pattern =>
    refine ⟨nofun, fun ⟨sound, _⟩ => ?_⟩
    have malformed := List.find?_some faulty
    rw [sound pattern (List.mem_of_find?_eq_some faulty)] at malformed
    cases malformed

theorem collect_eq_error {e : Text} : collect tree base extensions patterns = .error e ↔
    ∃ before after, patterns = before ++ e :: after ∧ isMalformed tree base extensions e = true ∧
      ∀ earlier ∈ before, isMalformed tree base extensions earlier = false := by
  have failed : collect tree base extensions patterns = .error e ↔
      patterns.find? (isMalformed tree base extensions) = some e := by
    rw [collect_eq]
    cases patterns.find? (isMalformed tree base extensions) <;> simp
  rw [failed, List.find?_eq_some_iff_append]
  constructor
  · rintro ⟨malformed, before, after, same, sound⟩
    exact ⟨before, after, same, malformed, fun earlier member => by simpa using sound earlier member⟩
  · rintro ⟨before, after, same, malformed, sound⟩
    exact ⟨malformed, before, after, same, fun earlier member => by simpa using sound earlier member⟩

theorem collect_single (tree : FileTree) (base : Path) (extensions : List Text) (pattern : Text) :
    collect tree base extensions [pattern] =
      match namedFiles? tree base extensions pattern with
      | none => .error pattern
      | some paths => .ok (inOrder paths) := by
  rw [collect, List.foldlM_cons, addNamed]
  cases namedFiles? tree base extensions pattern <;> rfl

/-- A pattern alone fails just if it is malformed. -/
theorem isMalformed_iff {e : Text} : isMalformed tree base extensions pattern = true ∧ e = pattern ↔
    collect tree base extensions [pattern] = .error e := by
  rw [collect_single, isMalformed]
  cases namedFiles? tree base extensions pattern with
  | none => simp [eq_comm]
  | some paths => simp

theorem not_isMalformed_iff : isMalformed tree base extensions pattern = false ↔
    ∃ single, collect tree base extensions [pattern] = .ok single := by
  rw [collect_single, isMalformed]
  cases namedFiles? tree base extensions pattern <;> simp

/-- The paths that are named together are those that the patterns collect one by one. -/
theorem mem_namedBy (sound : ∀ pattern ∈ patterns, isMalformed tree base extensions pattern = false) :
    parts ∈ (namedBy tree base extensions patterns).map Path.parts ↔
      ∃ pattern ∈ patterns, ∃ single, collect tree base extensions [pattern] = .ok single ∧
        parts ∈ single.map Path.parts := by
  rw [namedBy, List.map_flatMap, List.mem_flatMap]
  refine exists_congr fun pattern => and_congr_right fun member => ?_
  have sound' := sound pattern member
  rw [isMalformed] at sound'
  rw [collect_single]
  cases named : namedFiles? tree base extensions pattern with
  | none =>
    rw [named] at sound'
    cases sound'
  | some paths =>
    simp only [Option.getD_some, Except.ok.injEq, exists_eq_left']
    exact mem_inOrder.symm

/-! ## Files that count -/

/-- Whether a path leads on from a directory by names. -/
def Under (directory p : Path) : Prop :=
  ∃ names : List Text, names ≠ [] ∧ p.parts = directory.parts ++ names.map .name

/-- Whether a path ends with a name, and one that has no mark of a test. -/
def Untested (p : Path) : Prop :=
  ∃ name, p.name? = some name ∧ ¬".test.".toList <:+: name ∧ ¬".spec.".toList <:+: name

theorem isTest_congr (same : p.parts = q.parts) : isTest p = isTest q := by
  rw [isTest, Path.name_congr same, isTest]

theorem hasExtension_congr (same : p.parts = q.parts) : hasExtension extensions p = hasExtension extensions q := by
  rw [hasExtension, Path.extension?, Path.name_congr same, hasExtension, Path.extension?]

theorem hasExtension_iff : hasExtension extensions p = true ↔
    ∃ extension ∈ extensions, (p.extension?.getD []).map Char.toLower = extension.map Char.toLower := by
  simp [hasExtension, sameLetters]

/-- The path of a file ends with a name. -/
theorem exists_name_of_isFile (file : tree.isFile p = true) : ∃ name, p.name? = some name := by
  obtain ⟨content, found⟩ := FileTree.isFile_iff.mp file
  obtain ⟨-, ending, -⟩ := FileTree.entryAt_eq_file.mp found
  rw [FileTree.endsWithName, Bool.and_eq_true] at ending
  exact Option.isSome_iff_exists.mp ending.1

theorem untested_iff (file : tree.isFile p = true) : isTest p = false ↔ Untested p := by
  obtain ⟨name, named⟩ := exists_name_of_isFile file
  rw [isTest, named, Option.getD_some, isTestName, Bool.or_eq_false_iff, ← Bool.not_eq_true,
    ← Bool.not_eq_true, containsPhrase_iff (by decide), containsPhrase_iff (by decide), Untested, named]
  simp

/-! ## Directories -/

section Wellformed

variable (wellformed : tree.Wellformed) {directory : Path}
include wellformed

theorem isFile_of_mem_filesBelow (there : tree.isDirectory directory = true)
    (member : p ∈ filesBelow tree directory) : Under directory p ∧ tree.isFile p = true := by
  obtain ⟨filled, place, located, -⟩ := FileTree.isDirectory_iff.mp there
  rw [filesBelow, located] at member
  obtain ⟨⟨names, entry⟩, inside, same⟩ := List.mem_filterMap.mp member
  cases entry with
  | directory => cases same
  | file content =>
    cases same
    obtain ⟨nonempty, found⟩ := wellformed.mem_below.mp inside
    have named : ∀ name ∈ names, IsName name := fun name member =>
      wellformed.isName_of_lookup (by rw [found]; rfl) name (List.mem_append_right _ member)
    refine ⟨⟨names, nonempty, Path.parts_join_names filled nonempty named⟩, FileTree.isFile_iff.mpr ⟨content, ?_⟩⟩
    rw [wellformed.entryAt_join_names filled located nonempty named, found]

/-- The files below a directory are those whose paths lead on from it. -/
theorem mem_filesBelow (there : tree.isDirectory directory = true) {counts : Path → Bool}
    (steady : ∀ p q : Path, p.parts = q.parts → counts p = counts q) :
    parts ∈ ((filesBelow tree directory).filter counts).map Path.parts ↔
      ∃ p : Path, p.parts = parts ∧ Under directory p ∧ tree.isFile p = true ∧ counts p = true := by
  constructor
  · intro member
    obtain ⟨p, inside, rfl⟩ := List.mem_map.mp member
    obtain ⟨below, counted⟩ := List.mem_filter.mp inside
    obtain ⟨under, file⟩ := isFile_of_mem_filesBelow wellformed there below
    exact ⟨p, rfl, under, file, counted⟩
  · rintro ⟨p, rfl, ⟨names, nonempty, same⟩, file, counted⟩
    obtain ⟨filled, place, located, -⟩ := FileTree.isDirectory_iff.mp there
    obtain ⟨content, found⟩ := FileTree.isFile_iff.mp file
    obtain ⟨-, -, target, way, taken⟩ := FileTree.entryAt_eq_file.mp found
    -- The way to the file goes through the directory, and from there by the names alone.
    have on : tree.follow place (names.map .name) = some target := by
      rw [FileTree.locate?] at way located
      rw [same, FileTree.follow_append, located] at way
      exact way
    obtain rfl := FileTree.eq_of_follow_names on
    have named : ∀ name ∈ names, IsName name := fun name member =>
      wellformed.isName_of_lookup (by rw [taken]; rfl) name (List.mem_append_right _ member)
    have parts := (Path.parts_join_names filled nonempty named).trans same.symm
    refine List.mem_map.mpr ⟨directory.join ⟨join ['/'] names⟩, List.mem_filter.mpr ⟨?_, ?_⟩, parts⟩
    · rw [filesBelow, located]
      exact List.mem_filterMap.mpr ⟨(names, .file content), wellformed.mem_below.mpr ⟨nonempty, taken⟩, rfl⟩
    · rw [steady _ p parts, counted]

/-- Every file that a pattern names exists and is no test. -/
theorem isFile_of_named (named : namedFiles? tree base extensions pattern = some paths) (member : p ∈ paths) :
    tree.isFile p = true ∧ isTest p = false := by
  rw [namedFiles?] at named
  split at named
  next there =>
    cases named
    obtain ⟨inside, counted⟩ := List.mem_filter.mp member
    obtain ⟨-, file⟩ := isFile_of_mem_filesBelow wellformed there inside
    rw [Bool.and_eq_true, Bool.not_eq_true'] at counted
    exact ⟨file, counted.2⟩
  · obtain ⟨found, -, rfl⟩ := Option.map_eq_some_iff.mp named
    obtain ⟨-, counted⟩ := List.mem_filter.mp member
    rwa [Bool.and_eq_true, Bool.not_eq_true'] at counted

/-- A pattern that names a directory stands for the files below it with one of the extensions that are no
tests. -/
theorem collect_directory (there : tree.isDirectory (base.join ⟨pattern⟩) = true) (extensions : List Text) :
    ∃ single, collect tree base extensions [pattern] = .ok single ∧
      ∀ parts, parts ∈ single.map Path.parts ↔
        ∃ p : Path, p.parts = parts ∧ Under (base.join ⟨pattern⟩) p ∧ tree.isFile p = true ∧
          (∃ extension ∈ extensions, (p.extension?.getD []).map Char.toLower = extension.map Char.toLower) ∧
          Untested p := by
  have named : namedFiles? tree base extensions pattern =
      some ((filesBelow tree (base.join ⟨pattern⟩)).filter fun p => hasExtension extensions p && !isTest p) :=
    if_pos there
  rw [collect_single, named]
  refine ⟨_, rfl, fun parts => mem_inOrder.trans ((mem_filesBelow wellformed there ?_).trans ?_)⟩
  · intro p q same
    rw [hasExtension_congr same, isTest_congr same]
  · refine exists_congr fun p => and_congr_right fun _ => and_congr_right fun _ => and_congr_right fun file => ?_
    rw [Bool.and_eq_true, Bool.not_eq_true', hasExtension_iff, untested_iff file]

end Wellformed

/-! ## The union -/

/-- Whether files are the union of what patterns name: they are in ascending order, each once; there are just
those that the patterns collect one by one; each of them exists and is no test; and other patterns, of which
the same ones stand there in any order and any number of times, collect the same paths, all at once or in two
goes. Where paths that are the same are also written alike, they are the same as written. -/
structure IsUnion (tree : FileTree) (base : Path) (extensions patterns : List Text) (files : List Path) :
    Prop where
  ascending : Ascending files
  union : ∀ parts, parts ∈ files.map Path.parts ↔
    ∃ pattern ∈ patterns, ∃ single, collect tree base extensions [pattern] = .ok single ∧
      parts ∈ single.map Path.parts
  exist : ∀ p ∈ files, tree.isFile p = true ∧ Untested p
  again : ∀ patterns', (∀ pattern, pattern ∈ patterns' ↔ pattern ∈ patterns) →
    ∃ files', collect tree base extensions patterns' = .ok files' ∧
      files'.map Path.parts = files.map Path.parts
  split : ∀ first second, (∀ pattern, pattern ∈ first ++ second ↔ pattern ∈ patterns) →
    ∃ before after, collect tree base extensions first = .ok before ∧
      collect tree base extensions second = .ok after ∧
      ∀ parts, parts ∈ files.map Path.parts ↔ parts ∈ before.map Path.parts ∨ parts ∈ after.map Path.parts
  written : (∀ p ∈ namedBy tree base extensions patterns, ∀ q ∈ namedBy tree base extensions patterns,
      p.parts = q.parts → p = q) →
    ∀ patterns', (∀ pattern, pattern ∈ patterns' ↔ pattern ∈ patterns) →
      collect tree base extensions patterns' = .ok files

theorem mem_of_mem_inOrder (member : p ∈ inOrder paths) : p ∈ paths :=
  (mem_foldl_insertPath member).resolve_right List.not_mem_nil

theorem namedBy_append (tree : FileTree) (base : Path) (extensions first second : List Text) :
    namedBy tree base extensions (first ++ second) =
      namedBy tree base extensions first ++ namedBy tree base extensions second := List.flatMap_append

/-- Paths that have the same parts are the same if they are written alike. -/
theorem eq_of_parts {paths' : List Path} (same : paths.map Path.parts = paths'.map Path.parts)
    (alike : ∀ p ∈ paths, ∀ q ∈ paths', p.parts = q.parts → p = q) : paths = paths' := by
  induction paths generalizing paths' with
  | nil => exact (List.map_eq_nil_iff.mp same.symm).symm
  | cons first rest ih =>
    cases paths' with
    | nil => cases same
    | cons first' rest' =>
      obtain ⟨here, later⟩ := List.cons.inj same
      obtain rfl := alike first List.mem_cons_self first' List.mem_cons_self here
      rw [ih later fun p member q member' => alike p (.tail _ member) q (.tail _ member')]

theorem mem_namedBy_congr {patterns' : List Text}
    (same : ∀ pattern, pattern ∈ patterns' ↔ pattern ∈ patterns) :
    p ∈ namedBy tree base extensions patterns' ↔ p ∈ namedBy tree base extensions patterns := by
  rw [namedBy, List.mem_flatMap, namedBy, List.mem_flatMap]
  exact exists_congr fun pattern => and_congr_left' (same pattern)

section Collected

variable (collected : collect tree base extensions patterns = .ok files)
include collected

/-- The same patterns in any order and any number collect the same paths. -/
theorem collect_again {patterns' : List Text} (same : ∀ pattern, pattern ∈ patterns' ↔ pattern ∈ patterns) :
    collect tree base extensions patterns' = .ok (inOrder (namedBy tree base extensions patterns')) ∧
      (inOrder (namedBy tree base extensions patterns')).map Path.parts = files.map Path.parts := by
  obtain ⟨sound, rfl⟩ := collect_eq_ok.mp collected
  refine ⟨collect_eq_ok.mpr ⟨fun pattern member => sound pattern ((same pattern).mp member), rfl⟩, ?_⟩
  refine inOrder_congr fun parts => ?_
  rw [List.mem_map, List.mem_map]
  exact exists_congr fun p => and_congr_left' (mem_namedBy_congr same)

/-- Patterns that are collected in two goes collect the same paths together. -/
theorem collect_split {first second : List Text}
    (same : ∀ pattern, pattern ∈ first ++ second ↔ pattern ∈ patterns) :
    ∃ before after, collect tree base extensions first = .ok before ∧
      collect tree base extensions second = .ok after ∧
      ∀ parts, parts ∈ files.map Path.parts ↔
        parts ∈ before.map Path.parts ∨ parts ∈ after.map Path.parts := by
  obtain ⟨done, parts⟩ := collect_again collected same
  obtain ⟨sound, -⟩ := collect_eq_ok.mp done
  obtain ⟨soundFirst, soundSecond⟩ := List.forall_mem_append.mp sound
  refine ⟨_, _, collect_eq_ok.mpr ⟨soundFirst, rfl⟩, collect_eq_ok.mpr ⟨soundSecond, rfl⟩, fun p => ?_⟩
  rw [← parts, mem_inOrder, mem_inOrder, mem_inOrder, namedBy_append, List.map_append, List.mem_append]

theorem exists_of_collected (wellformed : tree.Wellformed) :
    ∀ p ∈ files, tree.isFile p = true ∧ Untested p := by
  intro p member
  obtain none | ⟨pattern, -, paths, named, inside⟩ := mem_collected collected member
  · cases none
  · obtain ⟨file, tested⟩ := isFile_of_named wellformed named inside
    exact ⟨file, (untested_iff file).mp tested⟩

theorem isUnion_of_collect (wellformed : tree.Wellformed) : IsUnion tree base extensions patterns files where
  ascending := by
    obtain ⟨-, rfl⟩ := collect_eq_ok.mp collected
    exact ascending_foldl .nil _
  union parts := by
    obtain ⟨sound, rfl⟩ := collect_eq_ok.mp collected
    exact mem_inOrder.trans (mem_namedBy sound)
  exist := exists_of_collected collected wellformed
  again patterns' same := ⟨_, collect_again collected same⟩
  split first second := collect_split collected
  written alike patterns' same := by
    obtain ⟨done, parts⟩ := collect_again collected same
    obtain ⟨-, rfl⟩ := collect_eq_ok.mp collected
    rw [done, eq_of_parts parts fun p member q member' =>
      alike p ((mem_namedBy_congr same).mp (mem_of_mem_inOrder member)) q (mem_of_mem_inOrder member')]

end Collected

/-- Collecting files is a union: if it succeeds, the files are the union of what the patterns collect one by
one. A pattern that names a directory collects the files below it that have one of the extensions and are no
tests. It fails just if a pattern alone fails, with the error of the first one that does. -/
theorem collects_union (wellformed : tree.Wellformed) (base : Path) (extensions patterns : List Text) :
    (∀ files, collect tree base extensions patterns = .ok files →
      IsUnion tree base extensions patterns files) ∧
    (∀ pattern, tree.isDirectory (base.join ⟨pattern⟩) = true →
      ∃ single, collect tree base extensions [pattern] = .ok single ∧
        ∀ parts, parts ∈ single.map Path.parts ↔
          ∃ p : Path, p.parts = parts ∧ Under (base.join ⟨pattern⟩) p ∧ tree.isFile p = true ∧
            (∃ extension ∈ extensions,
              (p.extension?.getD []).map Char.toLower = extension.map Char.toLower) ∧ Untested p) ∧
    ∀ e, collect tree base extensions patterns = .error e ↔
      ∃ before pattern after, patterns = before ++ pattern :: after ∧
        collect tree base extensions [pattern] = .error e ∧
        ∀ earlier ∈ before, ∃ single, collect tree base extensions [earlier] = .ok single := by
  refine ⟨fun files collected => isUnion_of_collect collected wellformed,
    fun pattern there => collect_directory wellformed there extensions, fun e => collect_eq_error.trans ?_⟩
  constructor
  · rintro ⟨before, after, same, malformed, sound⟩
    exact ⟨before, e, after, same, isMalformed_iff.mp ⟨malformed, rfl⟩,
      fun earlier member => not_isMalformed_iff.mp (sound earlier member)⟩
  · rintro ⟨before, pattern, after, same, failed, sound⟩
    obtain ⟨malformed, rfl⟩ := isMalformed_iff.mpr failed
    exact ⟨before, after, same, malformed, fun earlier member => not_isMalformed_iff.mpr (sound earlier member)⟩

/-- A directory with a source, a test, a text, and a source further down. -/
def styleFiles : FileTree where
  entries := [
    (["lib".toList], .directory),
    (["lib".toList, "a.scss".toList], .file (.text [])),
    (["lib".toList, "a.test.scss".toList], .file (.text [])),
    (["lib".toList, "deep".toList], .directory),
    (["lib".toList, "deep".toList, "b.SCSS".toList], .file (.text [])),
    (["lib".toList, "notes.txt".toList], .file (.text []))]
  home := []

/-- The directory, and a pattern that finds a file in it again. -/
def stylePatterns : List Text := ["lib".toList, "lib/*.*".toList]

/-- The two patterns overlap, and each file is collected once. -/
theorem styles_are_a_union :
    styleFiles.Wellformed ∧ styleFiles.isDirectory (Path.join ⟨['/']⟩ ⟨"lib".toList⟩) = true ∧
      collect styleFiles ⟨['/']⟩ ["scss".toList] stylePatterns =
        .ok [⟨"/lib/a.scss".toList⟩, ⟨"/lib/deep/b.SCSS".toList⟩, ⟨"/lib/notes.txt".toList⟩] ∧
      IsUnion styleFiles ⟨['/']⟩ ["scss".toList] stylePatterns
        [⟨"/lib/a.scss".toList⟩, ⟨"/lib/deep/b.SCSS".toList⟩, ⟨"/lib/notes.txt".toList⟩] ∧
      ∃ single, collect styleFiles ⟨['/']⟩ ["scss".toList] ["lib".toList] = .ok single := by
  have wellformed : styleFiles.Wellformed := by decide +kernel
  have there : styleFiles.isDirectory (Path.join ⟨['/']⟩ ⟨"lib".toList⟩) = true := by decide +kernel
  have collected : collect styleFiles ⟨['/']⟩ ["scss".toList] stylePatterns =
      .ok [⟨"/lib/a.scss".toList⟩, ⟨"/lib/deep/b.SCSS".toList⟩, ⟨"/lib/notes.txt".toList⟩] := by
    decide +kernel
  obtain ⟨united, directory, -⟩ := collects_union wellformed ⟨['/']⟩ ["scss".toList] stylePatterns
  obtain ⟨single, done, -⟩ := directory "lib".toList there
  exact ⟨wellformed, there, collected, united _ collected, single, done⟩

end DocSite.Doclet
