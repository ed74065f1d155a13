/-
# DocSite.Proofs.Path.Parts -- the parts of paths that are put together

A file name (`Path.IsName`) is a piece of a path that counts as a name: it is neither empty nor made
of one or two dots, and there is no slash in it. File names that are followed from a directory lead
on by just these names (`parts_join_names`), so that different names give different paths
(`join_names_injective`), and the path ends with the last of them (`name_join_names`).
-/
import DocSite.FileTree
import DocSite.Page.Location
import Mathlib.Data.List.Basic

set_option autoImplicit false

namespace DocSite

open Text

namespace Text

/-! ## Splitting and joining -/

theorem splitOn_ne_nil (separator : Char) (text : Text) : splitOn separator text ≠ [] := by
  cases text with
  | nil => simp [splitOn]
  | cons c rest =>
    unfold splitOn
    split
    · simp
    · split <;> simp

theorem splitOn_append (separator : Char) (before after : Text) :
    splitOn separator (before ++ separator :: after) =
      splitOn separator before ++ splitOn separator after := by
  induction before with
  | nil => simp [splitOn]
  | cons c rest ih =>
    rw [List.cons_append, splitOn, splitOn, ih]
    by_cases hit : c = separator
    · simp [hit]
    · cases pieces : splitOn separator rest with
      | nil => exact absurd pieces (splitOn_ne_nil separator rest)
      | cons piece pieces => simp [hit]

theorem splitOn_of_not_mem {separator : Char} {text : Text} (plain : separator ∉ text) :
    splitOn separator text = [text] := by
  induction text with
  | nil => rfl
  | cons c rest ih =>
    rw [List.mem_cons, not_or] at plain
    simp [splitOn, Ne.symm plain.1, ih plain.2]

theorem not_mem_of_mem_splitOn {separator : Char} {text piece : Text}
    (member : piece ∈ splitOn separator text) : separator ∉ piece := by
  induction text generalizing piece with
  | nil =>
    rw [splitOn, List.mem_singleton] at member
    simp [member]
  | cons c rest ih =>
    rw [splitOn] at member
    split at member
    · rcases List.mem_cons.mp member with rfl | member
      · simp
      · exact ih member
    next other =>
      cases pieces : splitOn separator rest with
      | nil => exact absurd pieces (splitOn_ne_nil separator rest)
      | cons first pieces' =>
        rw [pieces] at member ih
        rcases List.mem_cons.mp member with rfl | member
        · simpa [Ne.symm other] using ih (List.mem_cons_self ..)
        · exact ih (List.mem_cons_of_mem _ member)

theorem splitOn_join {separator : Char} {pieces : List Text} (nonempty : pieces ≠ [])
    (plain : ∀ piece ∈ pieces, separator ∉ piece) :
    splitOn separator (join [separator] pieces) = pieces := by
  induction pieces with
  | nil => exact absurd rfl nonempty
  | cons piece pieces ih =>
    have first := splitOn_of_not_mem (plain piece (List.mem_cons_self ..))
    cases pieces with
    | nil => exact first
    | cons next pieces =>
      have rest := ih (by simp) fun other member => plain other (List.mem_cons_of_mem _ member)
      rw [join, List.append_assoc, List.singleton_append, splitOn_append, first, rest]
      · rfl
      · simp

theorem join_splitOn (separator : Char) (text : Text) :
    join [separator] (splitOn separator text) = text := by
  induction text with
  | nil => rfl
  | cons c rest ih =>
    rw [splitOn]
    cases pieces : splitOn separator rest with
    | nil => exact absurd pieces (splitOn_ne_nil separator rest)
    | cons piece more =>
      rw [pieces] at ih
      by_cases hit : c = separator
      · simp [hit, join, ih]
      · cases more with
        | nil => simpa [hit, join] using ih
        | cons next more => simpa [hit, join] using ih

end Text

namespace Path

/-- Whether a text can be the name of a file. -/
def IsName (name : Text) : Prop := name ≠ [] ∧ name ≠ ['.'] ∧ name ≠ ['.', '.'] ∧ '/' ∉ name

instance (name : Text) : Decidable (IsName name) := by unfold IsName; infer_instance

variable {base : Path} {names : List Text}

/-! ## Parts of texts -/

theorem partOf_name {name : Text} (named : IsName name) : partOf? name = some (.name name) := by
  obtain ⟨filled, notDot, notDots, -⟩ := named
  simp [partOf?, filled, notDot, notDots]

theorem isName_of_partOf {piece name : Text} (plain : '/' ∉ piece)
    (part : partOf? piece = some (.name name)) : IsName name := by
  unfold partOf? at part
  split at part
  · cases part
  next counts =>
    split at part
    · cases part
    next notDots =>
      cases part
      simp only [Bool.or_eq_true, List.isEmpty_iff, decide_eq_true_eq, not_or] at counts
      exact ⟨counts.1, counts.2, notDots, plain⟩

theorem filterMap_partOf (named : ∀ name ∈ names, IsName name) :
    names.filterMap partOf? = names.map .name := by
  induction names with
  | nil => rfl
  | cons name names ih =>
    rw [List.filterMap_cons, partOf_name (named name (List.mem_cons_self ..)),
      ih fun other member => named other (List.mem_cons_of_mem _ member)]
    rfl

/-- What follows a slash adds its parts to those of what stands before it. -/
theorem parts_append (before after : Text) :
    parts ⟨before ++ '/' :: after⟩ =
      parts ⟨before ++ ['/']⟩ ++ (splitOn '/' after).filterMap partOf? := by
  have ended : splitOn '/' (before ++ ['/']) = splitOn '/' before ++ [[]] := splitOn_append ..
  cases pieces : splitOn '/' before with
  | nil => exact absurd pieces (splitOn_ne_nil '/' before)
  | cons first rest =>
    have more := splitOn_ne_nil '/' after
    rw [parts, parts, ended, splitOn_append, pieces]
    simp [List.filterMap_append, more, partOf?]

theorem parts_slash {before : Text} (filled : before ≠ []) :
    parts ⟨before ++ ['/']⟩ = parts ⟨before⟩ := by
  have ended : splitOn '/' (before ++ ['/']) = splitOn '/' before ++ [[]] := splitOn_append ..
  cases pieces : splitOn '/' before with
  | nil => exact absurd pieces (splitOn_ne_nil '/' before)
  | cons first rest =>
    rw [parts, parts, ended, pieces]
    -- A text that is not empty and has no slash begins with a piece that is not empty.
    have start : first.isEmpty = true → rest.isEmpty = false := by
      intro empty
      cases rest with
      | nil =>
        have whole := join_splitOn '/' before
        rw [pieces, List.isEmpty_iff.mp empty] at whole
        exact absurd whole.symm filled
      | cons => rfl
    cases empty : first.isEmpty with
    | true => simp [empty, start empty, List.filterMap_append, partOf?]
    | false => simp [empty, List.filterMap_append, partOf?]

/-- The parts of a path that is followed from another one. -/
theorem parts_join (filled : base.text ≠ []) {after : Text} (relative : after.head? ≠ some '/') :
    (base.join ⟨after⟩).parts = base.parts ++ (splitOn '/' after).filterMap partOf? := by
  have inner : isAbsolute ⟨after⟩ = false := by simpa [isAbsolute] using relative
  unfold join
  rw [if_neg (by simp [inner])]
  split
  next ended =>
    have last : base.text.getLast? = some '/' := by simpa [filled] using ended
    obtain ⟨before, split⟩ := List.getLast?_eq_some_iff.mp last
    have whole : base = ⟨before ++ ['/']⟩ := by cases base; simp_all
    subst whole
    rw [List.append_assoc, List.singleton_append, parts_append]
  next =>
    rw [parts_append, parts_slash filled]

/-! ## Paths below other paths -/

theorem dropParts_eq_some {start parts rest : List Part} :
    dropParts? start parts = some rest ↔ parts = start ++ rest := by
  induction start generalizing parts with
  | nil => simp [dropParts?]
  | cons s start ih =>
    cases parts with
    | nil => simp [dropParts?]
    | cons p parts =>
      by_cases same : s = p
      · simp [dropParts?, same, ih]
      · simp [dropParts?, same, Ne.symm same]

theorem below_eq_some {root p : Path} {rest : List Part} :
    below? root p = some rest ↔ p.parts = root.parts ++ rest := dropParts_eq_some

theorem isWithin_iff {root p : Path} : isWithin root p = true ↔ root.parts <+: p.parts := by
  rw [isWithin, Option.isSome_iff_exists]
  constructor
  · rintro ⟨rest, below⟩
    exact ⟨rest, (below_eq_some.mp below).symm⟩
  · rintro ⟨rest, same⟩
    exact ⟨rest, below_eq_some.mpr same.symm⟩

theorem isWithin_self (p : Path) : isWithin p p = true := isWithin_iff.mpr (List.prefix_refl _)

theorem isWithin_trans {root directory p : Path} (outer : isWithin root directory = true)
    (inner : isWithin directory p = true) : isWithin root p = true :=
  isWithin_iff.mpr ((isWithin_iff.mp outer).trans (isWithin_iff.mp inner))

/-- Of two directories that a path lies in, one lies in the other. -/
theorem isWithin_or_isWithin {first second p : Path} (inside : isWithin first p = true)
    (inside' : isWithin second p = true) : isWithin first second = true ∨ isWithin second first = true := by
  rw [isWithin_iff, isWithin_iff]
  exact List.prefix_or_prefix_of_prefix (isWithin_iff.mp inside) (isWithin_iff.mp inside')

/-- The parts of a path that are names are file names. -/
theorem isName_of_mem_parts {p : Path} {name : Text} (member : .name name ∈ p.parts) :
    IsName name := by
  have inside : ∀ piece ∈ splitOn '/' p.text, '/' ∉ piece := fun _ => not_mem_of_mem_splitOn
  unfold parts at member
  cases pieces : splitOn '/' p.text with
  | nil => simp [pieces] at member
  | cons first rest =>
    rw [pieces] at member inside
    rcases List.mem_append.mp member with start | later
    · split at start
      · split at start <;> simp at start
      · split at start
        · simp at start
        · exact isName_of_partOf (inside first (List.mem_cons_self ..)) (by simpa using start)
    · obtain ⟨piece, present, part⟩ := List.mem_filterMap.mp later
      exact isName_of_partOf (inside piece (List.mem_cons_of_mem _ present)) part

/-! ## File names followed from a directory -/

theorem head_join_names (nonempty : names ≠ []) (named : ∀ name ∈ names, IsName name) :
    (Text.join ['/'] names).head? ≠ some '/' := by
  cases names with
  | nil => exact absurd rfl nonempty
  | cons name names =>
    obtain ⟨filled, -, -, plain⟩ := named name (List.mem_cons_self ..)
    cases name with
    | nil => exact absurd rfl filled
    | cons c name =>
      have other : c ≠ '/' := fun same => plain (by simp [same])
      cases names <;> simpa [Text.join] using other

theorem splitOn_join_names (nonempty : names ≠ []) (named : ∀ name ∈ names, IsName name) :
    splitOn '/' (Text.join ['/'] names) = names :=
  splitOn_join nonempty fun name member => (named name member).2.2.2

/-- File names that are followed from a directory lead on by these names. -/
theorem parts_join_names (filled : base.text ≠ []) (nonempty : names ≠ [])
    (named : ∀ name ∈ names, IsName name) :
    (base.join ⟨Text.join ['/'] names⟩).parts = base.parts ++ names.map .name := by
  rw [parts_join filled (head_join_names nonempty named), splitOn_join_names nonempty named,
    filterMap_partOf named]

/-- The parts of names that are followed from nowhere are these names. -/
theorem parts_names (nonempty : names ≠ []) (named : ∀ name ∈ names, IsName name) :
    (⟨Text.join ['/'] names⟩ : Path).parts = names.map .name := by
  cases names with
  | nil => exact absurd rfl nonempty
  | cons first rest =>
    obtain ⟨filled, notDot, -, -⟩ := named first (List.mem_cons_self ..)
    have later := filterMap_partOf fun name member => named name (List.mem_cons_of_mem first member)
    rw [parts, splitOn_join_names nonempty named]
    simp [filled, notDot, partOf_name (named first (List.mem_cons_self ..)), later]

theorem map_name_injective {names others : List Text} (same : names.map Part.name = others.map .name) :
    names = others :=
  List.map_injective_iff.mpr (fun _ _ => Part.name.inj) same

/-- Different names lead to different paths. -/
theorem join_names_injective {others : List Text} (filled : base.text ≠ []) (nonempty : names ≠ [])
    (named : ∀ name ∈ names, IsName name) (others_nonempty : others ≠ [])
    (others_named : ∀ name ∈ others, IsName name)
    (same : base.join ⟨Text.join ['/'] names⟩ = base.join ⟨Text.join ['/'] others⟩) :
    names = others := by
  have parts := congrArg Path.parts same
  rw [parts_join_names filled nonempty named, parts_join_names filled others_nonempty others_named] at parts
  exact map_name_injective (List.append_cancel_left parts)

/-- The name that a path ends with is the last of its parts. -/
theorem name_congr {p q : Path} (same : p.parts = q.parts) : p.name? = q.name? := by
  rw [name?, name?, same]

/-- A path ends with the last of the names that are followed. -/
theorem name_join_names (filled : base.text ≠ []) (nonempty : names ≠ [])
    (named : ∀ name ∈ names, IsName name) :
    (base.join ⟨Text.join ['/'] names⟩).name? = names.getLast? := by
  obtain ⟨before, last, rfl⟩ := List.eq_nil_or_concat names |>.resolve_left nonempty
  rw [name?, parts_join_names filled nonempty named]
  simp

/-- The text of a path, and so the piece it ends with, goes on with what is followed. -/
theorem last_piece_join (base : Path) {after : Text} (relative : after.head? ≠ some '/') :
    (splitOn '/' (base.join ⟨after⟩).text).getLast? = (splitOn '/' after).getLast? := by
  have inner : isAbsolute ⟨after⟩ = false := by simpa [isAbsolute] using relative
  have pieces := splitOn_ne_nil '/' after
  unfold join
  rw [if_neg (by simp [inner])]
  split
  next ended =>
    by_cases filled : base.text = []
    · rw [filled, List.nil_append]
    · have last : base.text.getLast? = some '/' := by simpa [filled] using ended
      obtain ⟨before, split⟩ := List.getLast?_eq_some_iff.mp last
      rw [split, List.append_assoc, List.singleton_append, splitOn_append,
        List.getLast?_append_of_ne_nil _ pieces]
  next => rw [splitOn_append, List.getLast?_append_of_ne_nil _ pieces]

theorem last_piece_join_names (base : Path) (nonempty : names ≠ [])
    (named : ∀ name ∈ names, IsName name) :
    (splitOn '/' (base.join ⟨Text.join ['/'] names⟩).text).getLast? = names.getLast? := by
  rw [last_piece_join base (head_join_names nonempty named), splitOn_join_names nonempty named]

theorem join_ne_nil {after : Path} (filled : base.text ≠ []) : (base.join after).text ≠ [] := by
  unfold join
  split
  next absolute =>
    intro empty
    simp [isAbsolute, empty] at absolute
  · split <;> simp [filled]

/-- What follows a path from the root begins at the root. -/
theorem isAbsolute_join (absolute : base.isAbsolute = true) (after : Path) :
    (base.join after).isAbsolute = true := by
  unfold join
  split
  · assumption
  · cases text : base.text with
    | nil => simp [isAbsolute, text] at absolute
    | cons c rest =>
      have slash : c = '/' := by simpa [isAbsolute, text] using absolute
      split <;> simp [isAbsolute, slash]

theorem absolute_ne_nil {path home place : Path} (filled : home.text ≠ [])
    (found : path.absolute? home = some place) : place.text ≠ [] := by
  have fold : ∀ (parts : List Part) (start : Path), start.text ≠ [] →
      (parts.foldl (fun path part => path.join ⟨part.text⟩) start).text ≠ [] := by
    intro parts
    induction parts with
    | nil => exact fun start filled => filled
    | cons part parts ih => exact fun start filled => ih _ (join_ne_nil filled)
  unfold absolute? at found
  split at found
  · cases found
  · dsimp only at found
    obtain rfl := Option.some.inj found
    have begun : ∀ twice : Bool,
        (if twice then (⟨['/', '/']⟩ : Path)
          else if path.isAbsolute then ⟨['/']⟩ else home).text ≠ [] := by
      intro twice
      cases twice <;> cases path.isAbsolute <;> simp [filled]
    split
    · exact join_ne_nil (fold _ _ (begun _))
    · exact fold _ _ (begun _)

theorem join_names_ne_nil (nonempty : names ≠ []) (named : ∀ name ∈ names, IsName name) :
    (base.join ⟨Text.join ['/'] names⟩).text ≠ [] := by
  have filled : Text.join ['/'] names ≠ [] := by
    intro empty
    have pieces := splitOn_join_names nonempty named
    rw [empty] at pieces
    exact (named [] (by simp [← pieces, splitOn])).1 rfl
  unfold join
  split
  · exact filled
  · split <;> simp [filled]

theorem endsWithName_join_names (filled : base.text ≠ []) (nonempty : names ≠ [])
    (named : ∀ name ∈ names, IsName name) :
    FileTree.endsWithName (base.join ⟨Text.join ['/'] names⟩) = true := by
  rw [FileTree.endsWithName, name_join_names filled nonempty named,
    last_piece_join_names base nonempty named]
  simp [nonempty]

end Path

end DocSite
