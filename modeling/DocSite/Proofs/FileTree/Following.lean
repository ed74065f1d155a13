/-
# DocSite.Proofs.FileTree.Following -- where paths lead

File names that are followed from a directory lead to the place below it that they name, if there are
directories on the way. So what is at a path below a directory is what is found at this place
(`entryAt_join_names`), and a directory that is found stays where it is as long as directories stay
(`follow_mono`). Paths below a directory lead to the same things as long as everything below it is the
same (`entryAt_congr`).
-/
import DocSite.Proofs.FileTree.Places

set_option autoImplicit false

namespace DocSite.FileTree

open Text
open DocSite.Path (IsName Part)

variable {t : FileTree} {base path : Path} {place target : List Text} {names : List Text}

theorem follow_append (t : FileTree) (place : List Text) (parts rest : List Part) :
    t.follow place (parts ++ rest) =
      (t.follow place parts).bind fun place => t.follow place rest := by
  induction parts generalizing place with
  | nil => rfl
  | cons part parts ih =>
    cases part with
    | root | here => simpa [follow] using ih _
    | up | name =>
      rw [List.cons_append, follow, follow]
      split
      · exact ih _
      · rfl

/-- Names can only lead to the place that they name. -/
theorem eq_of_follow_names (found : t.follow place (names.map .name) = some target) :
    target = place ++ names := by
  induction names generalizing place with
  | nil => simpa [follow] using found.symm
  | cons name names ih =>
    rw [List.map_cons, follow] at found
    split at found
    · simpa using ih found
    · cases found

/-- Names lead somewhere if there is a directory before the last of them. -/
theorem Wellformed.follow_names (wellformed : t.Wellformed)
    (directory : names ≠ [] → t.lookup (place ++ names.dropLast) = some .directory) :
    t.follow place (names.map .name) = some (place ++ names) := by
  induction names generalizing place with
  | nil => simp [follow]
  | cons name names ih =>
    have here : t.lookup place = some .directory := by
      cases names with
      | nil => simpa using directory (by simp)
      | cons next names =>
        have filled : name :: (next :: names).dropLast ≠ [] := by simp
        have deeper := directory (by simp)
        rw [List.dropLast_cons_cons] at deeper
        exact wellformed.directory_of_prefix filled (by rw [deeper]; rfl)
    rw [List.map_cons, follow, if_pos (isDirectoryAt_iff.mpr here), ih, List.append_assoc,
      List.singleton_append]
    intro filled
    simpa [List.dropLast_cons_of_ne_nil filled] using directory (by simp)

theorem locate_join_names (filled : base.text ≠ []) (nonempty : names ≠ [])
    (named : ∀ name ∈ names, IsName name) :
    t.locate? (base.join ⟨join ['/'] names⟩) =
      (t.locate? base).bind fun place => t.follow place (names.map .name) := by
  rw [locate?, Path.parts_join_names filled nonempty named, follow_append]
  rfl

/-- What is at a path that leads to a place: a path that does not end with a name leads to directories
alone. -/
theorem entryAt_of_locate (filled : path.text ≠ []) (located : t.locate? path = some place) :
    t.entryAt? path =
      (t.lookup place).filter fun e => e == .directory || endsWithName path := by
  simp [entryAt?, filled, located]

/-- What there is at a path is at the place that the path leads to. -/
theorem entryAt_eq_some {entry : Entry} :
    t.entryAt? path = some entry ↔
      path.text ≠ [] ∧ (entry = .directory ∨ endsWithName path = true) ∧
        ∃ place, t.locate? path = some place ∧ t.lookup place = some entry := by
  by_cases filled : path.text = []
  · simp [entryAt?, filled]
  · cases located : t.locate? path with
    | none => simp [entryAt?, filled, located]
    | some place =>
      rw [entryAt_of_locate filled located]
      simp [filled, Option.filter_eq_some_iff, and_comm]

theorem entryAt_eq_file {content : Content} :
    t.entryAt? path = some (.file content) ↔
      path.text ≠ [] ∧ endsWithName path = true ∧
        ∃ place, t.locate? path = some place ∧ t.lookup place = some (.file content) := by
  simp [entryAt_eq_some]

theorem exists_eq_true :
    t.exists? path = true ↔ ∃ entry, t.entryAt? path = some entry := by
  rw [exists?, Option.isSome_iff_exists]

theorem filled_of_exists (there : t.exists? path = true) : path.text ≠ [] := by
  obtain ⟨entry, found⟩ := exists_eq_true.mp there
  exact (entryAt_eq_some.mp found).1

theorem located_of_exists (there : t.exists? path = true) : ∃ place, t.locate? path = some place := by
  obtain ⟨entry, found⟩ := exists_eq_true.mp there
  obtain ⟨-, -, place, located, -⟩ := entryAt_eq_some.mp found
  exact ⟨place, located⟩

/-- A path that ends with a name and leads to a file. -/
theorem entryAt_of_ending {content : Content} (ending : endsWithName path = true)
    (located : t.locate? path = some place) (taken : t.lookup place = some (.file content)) :
    t.entryAt? path = some (.file content) := by
  refine entryAt_eq_file.mpr ⟨?_, ending, place, located, taken⟩
  intro empty
  have last : path.name? = none := by simp [Path.name?, Path.parts, empty, splitOn]
  simp [endsWithName, last] at ending

theorem isFile_iff :
    t.isFile path = true ↔ ∃ content, t.entryAt? path = some (.file content) := by
  unfold isFile
  split <;> simp_all

theorem readText_eq_some {text : Text} :
    t.readText? path = some text ↔ t.entryAt? path = some (.file (.text text)) := by
  unfold readText?
  split
  next value found => simp [found]
  next other => exact ⟨fun none => (by cases none), fun found => absurd found (other text)⟩

theorem isDirectory_iff :
    t.isDirectory path = true ↔
      path.text ≠ [] ∧ ∃ place, t.locate? path = some place ∧ t.lookup place = some .directory := by
  rw [isDirectory, beq_iff_eq, entryAt_eq_some]
  simp

/-- What is at a path below a directory is what is found at the place below it. -/
theorem Wellformed.entryAt_join_names (wellformed : t.Wellformed) (filled : base.text ≠ [])
    (located : t.locate? base = some place) (nonempty : names ≠ [])
    (named : ∀ name ∈ names, IsName name) :
    t.entryAt? (base.join ⟨join ['/'] names⟩) = t.lookup (place ++ names) := by
  have whole : (base.join ⟨join ['/'] names⟩).text ≠ [] := Path.join_names_ne_nil nonempty named
  have ending := Path.endsWithName_join_names filled nonempty named
  have way := locate_join_names (t := t) filled nonempty named
  rw [located, Option.bind_some] at way
  cases found : t.lookup (place ++ names) with
  | none =>
    cases reached : t.follow place (names.map .name) with
    | none => simp [entryAt?, whole, way, reached]
    | some target =>
      rw [eq_of_follow_names reached] at reached
      simp [entryAt?, whole, way, reached, found]
  | some entry =>
    have above : t.lookup (place ++ names.dropLast) = some .directory := by
      have whole := List.dropLast_append_getLast nonempty
      rw [← whole, ← List.append_assoc] at found
      exact wellformed.rooted _ _ (by rw [found]; rfl)
    rw [wellformed.follow_names fun _ => above] at way
    rw [entryAt_of_locate whole way, found]
    simp [ending]

/-! ## Trees with more directories -/

/-- Where parts lead as long as the directories on the way are still there. -/
theorem follow_mono {s : FileTree} {parts : List Part}
    (stays : ∀ place, t.lookup place = some .directory → s.lookup place = some .directory)
    (found : t.follow place parts = some target) : s.follow place parts = some target := by
  induction parts generalizing place with
  | nil => exact found
  | cons part parts ih =>
    cases part with
    | root | here => exact ih found
    | up | name =>
      rw [follow] at found ⊢
      split at found
      next directory =>
        rw [if_pos (isDirectoryAt_iff.mpr (stays _ (isDirectoryAt_iff.mp directory)))]
        exact ih found
      · cases found

theorem locate_mono {s : FileTree} (home : s.home = t.home)
    (stays : ∀ place, t.lookup place = some .directory → s.lookup place = some .directory)
    (found : t.locate? path = some place) : s.locate? path = some place := by
  rw [locate?, home]
  exact follow_mono stays found

/-! ## On the way to a directory -/

/-- Parts of a path that come after its first one. -/
def Inner (parts : List Part) : Prop := ∀ part ∈ parts, part ≠ .root ∧ part ≠ .here

/-- What stands between slashes counts as a name or leads up, if it counts at all. -/
theorem inner_pieces (pieces : List Text) : Inner (pieces.filterMap Path.partOf?) := by
  intro part member
  obtain ⟨piece, -, counts⟩ := List.mem_filterMap.mp member
  unfold Path.partOf? at counts
  split at counts
  · cases counts
  · split at counts <;> cases counts <;> simp

theorem inner_tail_parts (p : Path) : Inner p.parts.tail := by
  unfold Path.parts
  split
  · intro part member
    cases member
  next first rest _ =>
    have start : ∀ start : List Part, start.length ≤ 1 →
        Inner (start ++ rest.filterMap Path.partOf?).tail := by
      intro start short part member
      cases start with
      | nil => exact inner_pieces rest part (List.mem_of_mem_tail member)
      | cons first more =>
        have alone : more = [] := List.length_eq_zero_iff.mp (by simpa using short)
        subst alone
        exact inner_pieces rest part member
    refine start _ ?_
    split
    · split <;> simp
    · split
      · simp
      · cases Path.partOf? first <;> simp

theorem directory_of_follow {parts : List Part} (inner : Inner parts)
    (found : t.follow place parts = some target) (directory : t.lookup target = some .directory) :
    t.lookup place = some .directory := by
  cases parts with
  | nil =>
    cases found
    exact directory
  | cons part parts =>
    have plain := inner part (List.mem_cons_self ..)
    cases part with
    | root => exact absurd rfl plain.1
    | here => exact absurd rfl plain.2
    | up | name =>
      rw [follow] at found
      split at found
      next there => exact isDirectoryAt_iff.mp there
      · cases found

/-- There is no file on the way to a directory that is there. -/
theorem passesFile_of_follow {parts : List Part} (inner : Inner parts)
    (found : t.follow place parts = some target) (directory : t.lookup target = some .directory)
    (rest : List Part) : t.passesFile place (parts ++ rest) = t.passesFile target rest := by
  have clear : ∀ {next : List Text}, t.lookup next = some .directory → t.isFileAt next = false :=
    fun there => by simp [isFileAt, there]
  induction parts generalizing place with
  | nil =>
    cases found
    rfl
  | cons part parts ih =>
    have plain := inner part (List.mem_cons_self ..)
    have inner' : Inner parts := fun other member => inner other (List.mem_cons_of_mem _ member)
    cases part with
    | root => exact absurd rfl plain.1
    | here => exact absurd rfl plain.2
    | up | name =>
      rw [follow] at found
      split at found
      · have next := clear (directory_of_follow inner' found directory)
        rw [List.cons_append, passesFile]
        simp only [next]
        exact ih inner' found
      · cases found

theorem passesFile_of_locate (located : t.locate? path = some place)
    (directory : t.lookup place = some .directory) (rest : List Part) :
    t.passesFile t.home (path.parts ++ rest) = t.passesFile place rest := by
  have inner := inner_tail_parts path
  have clear : ∀ {next : List Text}, t.lookup next = some .directory → t.isFileAt next = false :=
    fun there => by simp [isFileAt, there]
  rw [locate?] at located
  cases begun : path.parts with
  | nil =>
    rw [begun] at located
    cases located
    rfl
  | cons part parts =>
    rw [begun] at located inner
    cases part with
    | root =>
      have found : t.follow [] parts = some place := located
      have next := clear (directory_of_follow inner found directory)
      rw [List.cons_append, passesFile]
      simp only [next]
      exact passesFile_of_follow inner found directory rest
    | here =>
      have found : t.follow t.home parts = some place := located
      have next := clear (directory_of_follow inner found directory)
      rw [List.cons_append, passesFile]
      simp only [next]
      exact passesFile_of_follow inner found directory rest
    | up | name =>
      refine passesFile_of_follow (fun other member => ?_) located directory rest
      rcases List.mem_cons.mp member with rfl | later
      · simp
      · exact inner other later

/-- A path from the root leads to the directory that its names say. -/
theorem Wellformed.locate_names (wellformed : t.Wellformed)
    (parts : path.parts = .root :: names.map .name) (directory : t.lookup names = some .directory) :
    t.locate? path = some names := by
  have above : t.follow [] (names.map .name) = some ([] ++ names) := by
    refine wellformed.follow_names fun filled => ?_
    refine wellformed.rooted _ (names.getLast filled) ?_
    simp [List.dropLast_append_getLast, directory]
  rw [locate?, parts, follow, above, List.nil_append]

/-! ## Directories that stay as they are -/

section Staying

variable {s : FileTree}

theorem follow_congr (same : ∀ names, s.lookup (place ++ names) = t.lookup (place ++ names))
    (names : List Text) :
    s.follow place (names.map .name) = t.follow place (names.map .name) := by
  induction names generalizing place with
  | nil => rfl
  | cons name names ih =>
    have here : s.isDirectoryAt place = t.isDirectoryAt place := by
      simpa [isDirectoryAt] using congrArg (· == some .directory) (same [])
    rw [List.map_cons, follow, follow, here, ih fun others => by simpa using same (name :: others)]

theorem passesFile_congr (same : ∀ names, s.lookup (place ++ names) = t.lookup (place ++ names))
    (names : List Text) :
    s.passesFile place (names.map .name) = t.passesFile place (names.map .name) := by
  induction names generalizing place with
  | nil => rfl
  | cons name names ih =>
    have here : s.isFileAt (place ++ [name]) = t.isFileAt (place ++ [name]) := by
      rw [isFileAt, same, isFileAt]
    have below : ∀ others, s.lookup (place ++ [name] ++ others) = t.lookup (place ++ [name] ++ others) :=
      fun others => by simpa using same (name :: others)
    rw [List.map_cons, passesFile, passesFile]
    simp only [here, ih below]

variable (located : t.locate? base = some place) (located' : s.locate? base = some place)
  (same : ∀ names, s.lookup (place ++ names) = t.lookup (place ++ names))
  (parts : path.parts = base.parts ++ names.map .name)
include located located' same parts

theorem locate_congr : s.locate? path = t.locate? path := by
  rw [locate?] at located located'
  rw [locate?, locate?, parts, follow_append, follow_append, located, located', Option.bind_some,
    Option.bind_some, follow_congr same]

omit located' same in
theorem eq_of_locate_below (way : t.locate? path = some target) : target = place ++ names := by
  rw [locate?] at located way
  rw [parts, follow_append, located] at way
  exact eq_of_follow_names way

/-- A path below a directory leads to the same thing as long as everything below the directory is the
same. -/
theorem entryAt_congr : s.entryAt? path = t.entryAt? path := by
  have leads := locate_congr located located' same parts
  cases way : t.locate? path with
  | none => simp [entryAt?, leads, way]
  | some target =>
    have inside := eq_of_locate_below located parts way
    simp only [entryAt?, leads, way, inside, Option.bind_some, same]

theorem isBlocked_congr (directory : t.lookup place = some .directory) :
    s.isBlocked path = t.isBlocked path := by
  have directory' : s.lookup place = some .directory := by
    simpa [directory] using same []
  have leads := locate_congr located located' same parts
  have passes : s.passesFile s.home path.parts = t.passesFile t.home path.parts := by
    rw [parts, passesFile_of_locate located' directory', passesFile_of_locate located directory,
      passesFile_congr same]
  cases way : t.locate? path with
  | none => simp [isBlocked, leads, way, passes]
  | some target =>
    have inside := eq_of_locate_below located parts way
    simp [isBlocked, leads, way, passes, inside, isFileAt, same]

end Staying

end DocSite.FileTree
