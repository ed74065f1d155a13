/-
# DocSite.Proofs.FileTree.Writing -- what writing leaves as it was

Whatever is written, directories stay directories and files stay files (`Extends`). A file that is
written below a directory takes its place, makes directories on the way to it, and changes nothing
else (`Written`); this goes well if there is no file on the way and no directory in its place
(`reach_clear`).
-/
import DocSite.Proofs.FileTree.Following

set_option autoImplicit false

namespace DocSite.FileTree

open Text
open DocSite.Path (IsName Part)

variable {t s u : FileTree} {base path : Path} {place target other : List Text} {names : List Text}
  {content : Content}

/-! ## Trees that only grow -/

/-- A tree has all directories and files of another one; the files may hold something else. -/
structure Extends (t s : FileTree) : Prop where
  home : s.home = t.home
  directory : ∀ place, t.lookup place = some .directory → s.lookup place = some .directory
  file : ∀ place, t.isFileAt place = true → s.isFileAt place = true

theorem Extends.refl (t : FileTree) : Extends t t := ⟨rfl, fun _ => id, fun _ => id⟩

theorem Extends.trans (first : Extends t s) (second : Extends s u) : Extends t u where
  home := second.home.trans first.home
  directory place there := second.directory place (first.directory place there)
  file place there := second.file place (first.file place there)

theorem ne_root_of_lookup (free : t.lookup place ≠ some .directory) : place ≠ [] := by
  rintro rfl
  exact free rfl

/-- A directory that is new changes nothing that was there. -/
theorem lookup_put_directory (free : t.lookup place = none) {entry : Entry}
    (there : t.lookup other = some entry) :
    (t.put place .directory).lookup other = some entry := by
  have filled := ne_root_of_lookup (by simp [free] : t.lookup place ≠ some .directory)
  rw [lookup_put filled, if_neg, there]
  rintro rfl
  rw [free] at there
  cases there

theorem extends_put_directory (free : t.lookup place = none) :
    Extends t (t.put place .directory) := by
  refine ⟨rfl, fun other there => lookup_put_directory free there, fun other there => ?_⟩
  obtain ⟨content, there⟩ := isFileAt_iff.mp there
  exact isFileAt_iff.mpr ⟨content, lookup_put_directory free there⟩

theorem extends_put_file (free : t.lookup place ≠ some .directory) (content : Content) :
    Extends t (t.put place (.file content)) := by
  have filled := ne_root_of_lookup free
  refine ⟨rfl, fun other there => ?_, fun other there => ?_⟩
  · rw [lookup_put filled, if_neg, there]
    rintro rfl
    exact free there
  · obtain ⟨content', there⟩ := isFileAt_iff.mp there
    rw [isFileAt_iff, lookup_put filled]
    split
    · exact ⟨content, rfl⟩
    · exact ⟨content', there⟩

theorem extends_reach {parts : List Part} (made : t.reach place parts = .ok (s, target)) :
    Extends t s := by
  induction parts generalizing t place with
  | nil =>
    cases made
    exact Extends.refl _
  | cons part parts ih =>
    cases part with
    | root | here | up => exact ih made
    | name name =>
      rw [reach] at made
      split at made
      · exact ih made
      · cases made
      next free => exact (extends_put_directory free).trans (ih made)

/-- Making directories changes nothing that was there. -/
theorem lookup_reach {parts : List Part} (made : t.reach place parts = .ok (s, target))
    {entry : Entry} (there : t.lookup other = some entry) : s.lookup other = some entry := by
  induction parts generalizing t place with
  | nil =>
    cases made
    exact there
  | cons part parts ih =>
    cases part with
    | root | here | up => exact ih made there
    | name name =>
      rw [reach] at made
      split at made
      · exact ih made there
      · cases made
      next free => exact ih made (lookup_put_directory free there)

theorem makePath_eq_ok :
    t.makePath path = .ok s ↔ ∃ target, t.reach t.home path.parts = .ok (s, target) := by
  rw [makePath]
  cases t.reach t.home path.parts with
  | error fault => simp [Except.map]
  | ok result => simp [Except.map, Prod.ext_iff]

theorem makeParents_eq_ok :
    t.makeParents path = .ok s ↔ ∃ target, t.reach t.home path.parts.dropLast = .ok (s, target) := by
  rw [makeParents]
  cases t.reach t.home path.parts.dropLast with
  | error fault => simp [Except.map]
  | ok result => simp [Except.map, Prod.ext_iff]

theorem extends_makePath (made : t.makePath path = .ok s) : Extends t s := by
  obtain ⟨target, reached⟩ := makePath_eq_ok.mp made
  exact extends_reach reached

theorem extends_makeParents (made : t.makeParents path = .ok s) : Extends t s := by
  obtain ⟨target, reached⟩ := makeParents_eq_ok.mp made
  exact extends_reach reached

/-- A file is written in a directory, and not over a directory. -/
theorem writeFile_eq_some :
    t.writeFile? place content = some s ↔
      place ≠ [] ∧ t.lookup place.dropLast = some .directory ∧
        t.lookup place ≠ some .directory ∧ s = t.put place (.file content) := by
  by_cases filled : place = []
  · simp [writeFile?, filled]
  by_cases parent : t.lookup place.dropLast = some .directory
  · by_cases taken : t.lookup place = some .directory
    · simp [writeFile?, isDirectoryAt, taken]
    · rw [writeFile?, if_neg (by simp [isDirectoryAt, filled, parent, taken])]
      constructor
      · intro same
        exact ⟨filled, parent, taken, (Option.some.inj same).symm⟩
      · rintro ⟨-, -, -, rfl⟩
        rfl
  · simp [writeFile?, isDirectoryAt, parent]

theorem writeText_eq_ok {text : Text} :
    t.writeText path text = .ok s ↔ endsWithName path = true ∧
      ∃ place, t.locate? path = some place ∧ t.writeFile? place (.text text) = some s := by
  unfold writeText
  cases ending : endsWithName path with
  | false => simp
  | true =>
    cases located : t.locate? path with
    | none => simp
    | some place => cases done : t.writeFile? place (.text text) <;> simp [done]

theorem extends_writeText {text : Text} (written : t.writeText path text = .ok s) :
    Extends t s := by
  obtain ⟨-, place, -, done⟩ := writeText_eq_ok.mp written
  obtain ⟨-, -, free, rfl⟩ := writeFile_eq_some.mp done
  exact extends_put_file free _

theorem Extends.isFile (grown : Extends t s) (file : t.isFile path = true) :
    s.isFile path = true := by
  obtain ⟨content, found⟩ := isFile_iff.mp file
  obtain ⟨filled, ending, place, located, taken⟩ := entryAt_eq_file.mp found
  obtain ⟨content', taken'⟩ := isFileAt_iff.mp (grown.file place (isFileAt_iff.mpr ⟨_, taken⟩))
  exact isFile_iff.mpr ⟨content', entryAt_eq_file.mpr
    ⟨filled, ending, place, locate_mono grown.home grown.directory located, taken'⟩⟩

theorem Extends.isDirectory (grown : Extends t s) (directory : t.isDirectory path = true) :
    s.isDirectory path = true := by
  obtain ⟨filled, place, located, taken⟩ := isDirectory_iff.mp directory
  exact isDirectory_iff.mpr ⟨filled, place,
    locate_mono grown.home grown.directory located, grown.directory place taken⟩

/-- What exists still does in a tree that has only grown. -/
theorem Extends.isSome_lookup (grown : Extends t s) (there : (t.lookup place).isSome) :
    (s.lookup place).isSome := by
  obtain ⟨entry, found⟩ := Option.isSome_iff_exists.mp there
  cases entry with
  | directory => rw [grown.directory place found]; rfl
  | file content =>
    obtain ⟨other, found'⟩ := isFileAt_iff.mp (grown.file place (isFileAt_iff.mpr ⟨content, found⟩))
    rw [found']
    rfl

theorem exists_of_isFile (file : t.isFile path = true) : t.exists? path = true := by
  obtain ⟨content, found⟩ := isFile_iff.mp file
  rw [exists?, found]
  rfl

theorem exists_of_isDirectory (directory : t.isDirectory path = true) : t.exists? path = true := by
  rw [isDirectory, beq_iff_eq] at directory
  rw [exists?, directory]
  rfl

theorem not_isFile_of_isDirectory (directory : t.isDirectory path = true) :
    t.isFile path = false := by
  rw [isDirectory, beq_iff_eq] at directory
  rw [isFile, directory]

/-- What is at a path is there still when files are written. -/
theorem Extends.exists (grown : Extends t s) (there : t.exists? path = true) :
    s.exists? path = true := by
  obtain ⟨entry, found⟩ := exists_eq_true.mp there
  cases entry with
  | file content => exact exists_of_isFile (grown.isFile (isFile_iff.mpr ⟨content, found⟩))
  | directory =>
    exact exists_of_isDirectory (grown.isDirectory (by simp [FileTree.isDirectory, found]))

/-! ## Making directories -/

/-- A tree has a directory at a place and on the way to it, where there was no file, and is otherwise
as another one. -/
structure Made (place : List Text) (t s : FileTree) : Prop where
  home : s.home = t.home
  wellformed : s.Wellformed
  clear : ∀ upper, upper <+: place → t.isFileAt upper = false
  lookup : ∀ other, s.lookup other = if other <+: place then some .directory else t.lookup other

/-- What is above a directory is a directory. -/
theorem Wellformed.lookup_above (wellformed : t.Wellformed) (directory : t.lookup place = some .directory)
    (above : other <+: place) : t.lookup other = some .directory := by
  obtain ⟨rest, rfl⟩ := above
  by_cases empty : rest = []
  · simpa [empty] using directory
  · exact wellformed.directory_of_prefix empty (by simp [directory])

theorem Wellformed.made (wellformed : t.Wellformed) (directory : t.lookup place = some .directory) :
    Made place t t := by
  have above : ∀ upper, upper <+: place → t.lookup upper = some .directory :=
    fun upper on => wellformed.lookup_above directory on
  refine ⟨rfl, wellformed, fun upper on => by simp [isFileAt, above upper on], fun other => ?_⟩
  split
  next on => exact above other on
  · rfl

/-- What is made below a directory changes nothing elsewhere. -/
theorem Made.lookup_outside (made : Made (place ++ names) t s) (wellformed : t.Wellformed)
    (directory : t.lookup place = some .directory) (outside : ¬(place <+: other ∧ other ≠ place)) :
    s.lookup other = t.lookup other := by
  rw [made.lookup]
  split
  next on =>
    rcases List.prefix_or_prefix_of_prefix on (List.prefix_append place names) with above | below
    · exact (wellformed.lookup_above directory above).symm
    · have here : other = place := by
        by_contra different
        exact outside ⟨below, different⟩
      rw [here, directory]
  · rfl

/-- What is made on the way to a place below a directory are the directories that were missing. -/
theorem Wellformed.made_of_reach (wellformed : t.Wellformed)
    (directory : t.lookup place = some .directory) (named : ∀ name ∈ names, IsName name)
    (made : t.reach place (names.map .name) = .ok (s, target)) :
    target = place ++ names ∧ Made (place ++ names) t s := by
  induction names generalizing t place with
  | nil =>
    cases made
    exact ⟨by simp, by simpa using wellformed.made directory⟩
  | cons name names ih =>
    have later : ∀ other ∈ names, IsName other :=
      fun other member => named other (List.mem_cons_of_mem _ member)
    rw [List.append_cons]
    rw [List.map_cons, reach] at made
    split at made
    next there => exact ih wellformed there later made
    · cases made
    next free =>
      have wellformed' := wellformed.put directory (named name (List.mem_cons_self ..)) .directory
        (Or.inl rfl)
      have there : (t.put (place ++ [name]) .directory).lookup (place ++ [name]) =
          some .directory := by rw [lookup_put (by simp), if_pos rfl]
      obtain ⟨reached, made⟩ := ih wellformed' there later made
      have before : ∀ other, other ≠ place ++ [name] →
          (t.put (place ++ [name]) .directory).lookup other = t.lookup other :=
        fun other different => by rw [lookup_put (by simp), if_neg different]
      refine ⟨reached, made.home, made.wellformed, fun upper on => ?_, fun other => ?_⟩
      · by_cases here : upper = place ++ [name]
        · rw [here, isFileAt, free]
        · have clear := made.clear upper on
          rwa [isFileAt, before upper here] at clear
      · by_cases here : other = place ++ [name]
        · rw [made.lookup, here, if_pos (List.prefix_append _ _), if_pos (List.prefix_append _ _)]
        · rw [made.lookup, before other here]

/-- Directories can be made on a way without files. -/
theorem reach_clear (clear : ∀ upper, place <+: upper → upper <+: place ++ names →
      t.isFileAt upper = false) :
    ∃ s, t.reach place (names.map .name) = .ok (s, place ++ names) := by
  induction names generalizing t place with
  | nil => exact ⟨t, by simp [reach]⟩
  | cons name names ih =>
    rw [List.append_cons] at clear ⊢
    have ahead : ∀ upper, place ++ [name] <+: upper → upper <+: place ++ [name] ++ names →
        t.isFileAt upper = false :=
      fun upper below => clear upper ((List.prefix_append _ _).trans below)
    rw [List.map_cons, reach]
    cases there : t.lookup (place ++ [name]) with
    | none =>
      refine ih fun upper below above => ?_
      have free := ahead upper below above
      rw [isFileAt, lookup_put (by simp)]
      by_cases here : upper = place ++ [name]
      · rw [if_pos here]
      · rw [if_neg here]
        exact free
    | some entry =>
      cases entry with
      | directory => exact ih ahead
      | file content =>
        have free := ahead _ (List.prefix_refl _) (List.prefix_append _ _)
        simp [isFileAt, there] at free

theorem reach_append {parts rest : List Part} (made : t.reach place parts = .ok (s, target)) :
    t.reach place (parts ++ rest) = s.reach target rest := by
  induction parts generalizing t place with
  | nil =>
    cases made
    rfl
  | cons part parts ih =>
    cases part with
    | root | here | up => exact ih made
    | name name =>
      rw [reach] at made
      rw [List.cons_append, reach]
      split at made
      · exact ih made
      · cases made
      · exact ih made

theorem makeDirectories_eq_some :
    t.makeDirectories? place names = some s ↔
      t.reach place (names.map .name) = .ok (s, place ++ names) := by
  induction names generalizing t place with
  | nil => simp [makeDirectories?, reach]
  | cons name names ih =>
    have whole : place ++ name :: names = place ++ [name] ++ names := by simp
    rw [whole, List.map_cons, makeDirectories?, reach]
    cases there : t.lookup (place ++ [name]) with
    | none => exact ih
    | some entry =>
      cases entry with
      | directory => exact ih
      | file content => exact ⟨fun none => (by cases none), fun error => (by cases error)⟩

/-! ## Following a path to a directory -/

/-- Nothing has to be made on the way to a directory that is there. -/
theorem reach_of_follow {parts : List Part} (inner : Inner parts)
    (found : t.follow place parts = some target) (directory : t.lookup target = some .directory) :
    t.reach place parts = .ok (t, target) := by
  induction parts generalizing place with
  | nil =>
    cases found
    rfl
  | cons part parts ih =>
    have plain := inner part (List.mem_cons_self ..)
    have inner' : Inner parts := fun other member => inner other (List.mem_cons_of_mem _ member)
    cases part with
    | root => exact absurd rfl plain.1
    | here => exact absurd rfl plain.2
    | up =>
      rw [follow] at found
      split at found
      · exact ih inner' found
      · cases found
    | name name =>
      rw [follow] at found
      split at found
      · rw [reach, directory_of_follow inner' found directory]
        exact ih inner' found
      · cases found

theorem reach_of_locate (located : t.locate? path = some place)
    (directory : t.lookup place = some .directory) :
    t.reach t.home path.parts = .ok (t, place) := by
  have inner := inner_tail_parts path
  rw [locate?] at located
  cases start : path.parts with
  | nil =>
    rw [start] at located
    cases located
    rfl
  | cons part parts =>
    rw [start] at located inner
    cases part with
    | root =>
      have below : t.reach [] parts = .ok (t, place) := reach_of_follow inner located directory
      exact below
    | here =>
      have below : t.reach t.home parts = .ok (t, place) :=
        reach_of_follow inner located directory
      exact below
    | up | name =>
      refine reach_of_follow (fun other member => ?_) located directory
      rcases List.mem_cons.mp member with rfl | later
      · simp
      · exact inner other later

theorem makePath_of_locate (located : t.locate? path = some place)
    (directory : t.lookup place = some .directory) : t.makePath path = .ok t := by
  rw [makePath, reach_of_locate located directory]
  rfl

/-- The directories of a file below a directory that is there are made from this directory on. -/
theorem makeParents_below (located : t.locate? base = some place)
    (directory : t.lookup place = some .directory) (nonempty : names ≠ [])
    (parts : path.parts = base.parts ++ names.map .name) :
    t.makeParents path = .ok s ↔
      ∃ target, t.reach place (names.dropLast.map .name) = .ok (s, target) := by
  rw [makeParents_eq_ok, parts, List.dropLast_append_of_ne_nil (by simpa using nonempty), ← List.map_dropLast,
    reach_append (reach_of_locate located directory)]

/-! ## Writing a file -/

theorem not_prefix_dropLast (filled : place ≠ []) : ¬place <+: place.dropLast := by
  intro inside
  have short := inside.length_le
  have long := List.length_pos_iff.mpr filled
  rw [List.length_dropLast] at short
  omega

/-- A tree has a file at a place, where there was no directory, and directories on the way to it, where
there was no file, and is otherwise as another one. -/
structure Written (place : List Text) (content : Content) (t s : FileTree) : Prop where
  home : s.home = t.home
  wellformed : s.Wellformed
  free : t.lookup place ≠ some .directory
  clear : ∀ upper, upper <+: place → upper ≠ place → t.isFileAt upper = false
  lookup : ∀ other, s.lookup other =
    if other = place then some (.file content)
    else if other <+: place then some .directory else t.lookup other

theorem Made.written (made : Made place.dropLast t s) (named : ∀ name ∈ place, IsName name)
    (done : s.writeFile? place content = some u) : Written place content t u := by
  obtain ⟨filled, parent, free, rfl⟩ := writeFile_eq_some.mp done
  have whole := List.dropLast_append_getLast filled
  have above : ∀ other, other <+: place ↔ other = place ∨ other <+: place.dropLast := by
    intro other
    conv_lhs => rw [← whole]
    rw [List.prefix_concat_iff, whole]
  have beyond := not_prefix_dropLast filled
  refine ⟨made.home, ?_, ?_, fun upper on different => ?_, fun other => ?_⟩
  · have wellformed := made.wellformed.put parent (named _ (List.getLast_mem filled))
      (.file content) (Or.inr (by rwa [whole]))
    rwa [whole] at wellformed
  · rwa [made.lookup, if_neg beyond] at free
  · exact made.clear upper (((above upper).mp on).resolve_left different)
  · rw [lookup_put filled, made.lookup]
    by_cases here : other = place <;> simp [here, above]

theorem Wellformed.written (wellformed : t.Wellformed) (named : ∀ name ∈ place, IsName name)
    (done : t.writeWithDirectories? place content = some s) : Written place content t s := by
  obtain ⟨u, made, done⟩ := Option.bind_eq_some_iff.mp done
  have reached := makeDirectories_eq_some.mp made
  obtain ⟨-, made⟩ := wellformed.made_of_reach rfl
    (fun name member => named name (List.dropLast_subset _ member)) reached
  exact made.written named done

/-- A file that is written is the only one that is new or holds something else. -/
theorem Written.file_iff (written : Written place content t s) {found : Content} :
    s.lookup other = some (.file found) ↔
      (other = place ∧ found = content) ∨ (other ≠ place ∧ t.lookup other = some (.file found)) := by
  rw [written.lookup]
  by_cases here : other = place
  · simp [here, eq_comm]
  · by_cases on : other <+: place
    · have clear := written.clear other on here
      have none : t.lookup other ≠ some (.file found) := by
        intro file
        simp [isFileAt, file] at clear
      simp [here, on, none]
    · simp [here, on]

theorem Written.outside (written : Written place content t s) (apart : ¬other <+: place) :
    s.lookup other = t.lookup other := by
  rw [written.lookup, if_neg, if_neg apart]
  rintro rfl
  exact apart (List.prefix_refl _)

theorem Written.extends (written : Written place content t s) : Extends t s := by
  refine ⟨written.home, fun other there => ?_, fun other there => ?_⟩
  · rw [written.lookup, if_neg]
    · split
      · rfl
      · exact there
    · rintro rfl
      exact written.free there
  · obtain ⟨found, file⟩ := isFileAt_iff.mp there
    by_cases here : other = place
    · exact isFileAt_iff.mpr ⟨content, written.file_iff.mpr (Or.inl ⟨here, rfl⟩)⟩
    · exact isFileAt_iff.mpr ⟨found, written.file_iff.mpr (Or.inr ⟨here, file⟩)⟩

/-! ## Changes of one file -/

/-- At most the file at a place differs, and directories on the way to it are new. -/
structure Touched (place : List Text) (t s : FileTree) : Prop where
  home : s.home = t.home
  wellformed : s.Wellformed
  directory : ∀ other, t.lookup other = some .directory → s.lookup other = some .directory
  file : ∀ other content, other ≠ place →
    (s.lookup other = some (.file content) ↔ t.lookup other = some (.file content))
  outside : ∀ other, ¬other <+: place → s.lookup other = t.lookup other

theorem Written.touched (written : Written place content t s) : Touched place t s where
  home := written.home
  wellformed := written.wellformed
  directory := written.extends.directory
  file other found different := by simp [written.file_iff, different]
  outside _ := written.outside

theorem Wellformed.touched_remove (wellformed : t.Wellformed)
    (file : t.lookup place = some (.file content)) : Touched place t (t.remove place) where
  home := rfl
  wellformed := wellformed.remove_file file
  directory other there := by
    rw [wellformed.lookup_remove_file file, if_neg, there]
    rintro rfl
    rw [file] at there
    cases there
  file other found different := by rw [wellformed.lookup_remove_file file, if_neg different]
  outside other apart := by
    rw [wellformed.lookup_remove_file file, if_neg]
    rintro rfl
    exact apart (List.prefix_refl _)

theorem Touched.refl (wellformed : t.Wellformed) (place : List Text) : Touched place t t :=
  ⟨rfl, wellformed, fun _ => id, fun _ _ _ => Iff.rfl, fun _ _ => rfl⟩

theorem Touched.locate (touched : Touched place t s) (located : t.locate? path = some target) :
    s.locate? path = some target := locate_mono touched.home touched.directory located

/-! ## Removing a file -/

/-- Removing the file at a path leaves a file at another path, unless both lead to one place. -/
theorem Wellformed.isFile_removeFile (wellformed : t.Wellformed) {gone : Path}
    (file : t.isFile path = true) (different : t.locate? path ≠ t.locate? gone) :
    (t.removeFile gone).isFile path = true := by
  unfold removeFile
  split
  next content place found located =>
    obtain ⟨-, -, place', located', taken⟩ := entryAt_eq_file.mp found
    rw [located] at located'
    cases located'
    obtain ⟨content', found'⟩ := isFile_iff.mp file
    obtain ⟨filled, ending, target, reached, there⟩ := entryAt_eq_file.mp found'
    have elsewhere : target ≠ place := by
      rintro rfl
      exact different (reached.trans located.symm)
    have still := (wellformed.touched_remove taken).locate reached
    refine isFile_iff.mpr ⟨content', entryAt_eq_file.mpr ⟨filled, ending, target, still, ?_⟩⟩
    rw [wellformed.lookup_remove_file taken, if_neg elsewhere, there]
  · exact file

theorem removeFile_of_not_isFile (missing : t.isFile path = false) : t.removeFile path = t := by
  unfold removeFile
  split
  next content place found _ =>
    have there := isFile_iff.mpr ⟨content, found⟩
    rw [missing] at there
    cases there
  · rfl

/-- Removing what is at names below a directory removes a file at the place below it. -/
theorem Wellformed.removeFile_join_names (wellformed : t.Wellformed) (filled : base.text ≠ [])
    (located : t.locate? base = some place) (nonempty : names ≠ [])
    (named : ∀ name ∈ names, IsName name) :
    t.removeFile (base.join ⟨join ['/'] names⟩) =
      if t.isFileAt (place ++ names) then t.remove (place ++ names) else t := by
  have found := wellformed.entryAt_join_names filled located nonempty named
  cases file : t.isFileAt (place ++ names) with
  | false =>
    refine removeFile_of_not_isFile ?_
    rw [isFile, found]
    exact file
  | true =>
    obtain ⟨content, taken⟩ := isFileAt_iff.mp file
    rw [taken] at found
    obtain ⟨-, -, target, reached, -⟩ := entryAt_eq_file.mp found
    have way := locate_join_names (t := t) filled nonempty named
    rw [located, reached, Option.bind_some] at way
    rw [eq_of_follow_names way.symm] at reached
    simp [removeFile, found, reached]

/-- After what is at names below a directory has been removed, there is no file at the place below it,
and nothing else has changed. -/
theorem Wellformed.touched_removeFile (wellformed : t.Wellformed) (filled : base.text ≠ [])
    (located : t.locate? base = some place) (nonempty : names ≠ [])
    (named : ∀ name ∈ names, IsName name) :
    Touched (place ++ names) t (t.removeFile (base.join ⟨join ['/'] names⟩)) ∧
      ∀ content, (t.removeFile (base.join ⟨join ['/'] names⟩)).lookup (place ++ names) ≠
        some (.file content) := by
  rw [wellformed.removeFile_join_names filled located nonempty named]
  split
  next file =>
    obtain ⟨content, taken⟩ := isFileAt_iff.mp file
    refine ⟨wellformed.touched_remove taken, fun found there => ?_⟩
    rw [wellformed.lookup_remove_file taken, if_pos rfl] at there
    cases there
  next missing =>
    refine ⟨.refl wellformed _, fun found there => missing ?_⟩
    exact isFileAt_iff.mpr ⟨found, there⟩

end DocSite.FileTree
