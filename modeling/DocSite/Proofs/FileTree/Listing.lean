/-
# DocSite.Proofs.FileTree.Listing -- directories that hold the same

What is below a place is listed in order, so the list is known from what `lookup` finds there, wherever the
place lies (`below_congr`), and what is picked from the list is known from what of it is found there
(`filterMap_below_congr`). So are the entries of a directory (`children_congr`), and no place is longer
than a tree is deep (`length_le_depth`).
-/
import DocSite.Glob
import DocSite.Proofs.FileTree.Writing
import Mathlib.Data.List.Sort

set_option autoImplicit false

namespace DocSite.FileTree

open Text
open DocSite.Path (IsName)

variable {t s : FileTree} {place place' : List Text} {entry : Entry}

/-- Places below the same place are in the order of the names that lead on from there. -/
theorem comparePlaces_append (place names names' : List Text) :
    comparePlaces (place ++ names) (place ++ names') = comparePlaces names names' := by
  induction place with
  | nil => rfl
  | cons name place ih =>
    have same : Text.compare name name = .eq := Std.ReflCmp.compare_self
    rw [List.cons_append, List.cons_append, comparePlaces, same, ih]

/-- What is below a place is in order. -/
theorem Wellformed.ordered_below (wellformed : t.Wellformed) (place : List Text) :
    Ordered (t.below place) := by
  refine List.Pairwise.filterMap _ (fun a b ahead a' below b' below' => ?_) wellformed.ordered
  dsimp only at below below'
  split at below
  next inside =>
    split at below'
    next inside' =>
      simp only [Bool.and_eq_true] at inside inside'
      obtain ⟨rest, same⟩ := List.isPrefixOf_iff_prefix.mp inside.1
      obtain ⟨rest', same'⟩ := List.isPrefixOf_iff_prefix.mp inside'.1
      cases below
      cases below'
      rw [← same, ← same', comparePlaces_append] at ahead
      simpa [← same, ← same'] using ahead
    · cases below'
  · cases below

/-- Entries in order are known from their members. -/
theorem Ordered.eq_of_mem_iff {entries entries' : List (List Text × Entry)}
    (ordered : Ordered entries) (ordered' : Ordered entries')
    (same : ∀ entry, entry ∈ entries ↔ entry ∈ entries') : entries = entries' :=
  Text.eq_of_ascending Prod.fst ordered ordered' same

/-- The same is picked from what is below two places if whatever can be picked is found at both or at
neither. -/
theorem filterMap_below_congr {α : Type} {pick : List Text × Entry → Option α}
    (wellformed : t.Wellformed) (wellformed' : s.Wellformed)
    (same : ∀ names entry, names ≠ [] → (pick (names, entry)).isSome →
      (s.lookup (place' ++ names) = some entry ↔ t.lookup (place ++ names) = some entry)) :
    (s.below place').filterMap pick = (t.below place).filterMap pick := by
  have picked : ∀ entries : List (List Text × Entry),
      (entries.filter fun entry => (pick entry).isSome).filterMap pick = entries.filterMap pick := by
    intro entries
    rw [List.filterMap_filter]
    refine List.filterMap_congr fun entry _ => ?_
    cases pick entry <;> rfl
  rw [← picked, ← picked (t.below place)]
  congr 1
  refine Ordered.eq_of_mem_iff (List.Pairwise.filter _ (wellformed'.ordered_below place'))
    (List.Pairwise.filter _ (wellformed.ordered_below place)) fun (names, entry) => ?_
  rw [List.mem_filter, List.mem_filter, wellformed'.mem_below, wellformed.mem_below]
  exact and_congr_left fun some => and_congr_right fun filled => same names entry filled some

/-- The same files are picked by their names when a tree grows, if each of them that is picked is as it
was. -/
theorem filterMap_below_grown {α : Type} {pick : List Text × Entry → Option α} (grown : Extends t s)
    (wellformed : t.Wellformed) (wellformed' : s.Wellformed)
    (files : ∀ names, pick (names, .directory) = none)
    (alike : ∀ names content content', pick (names, .file content) = pick (names, .file content'))
    (same : ∀ names content, names ≠ [] → (∀ name ∈ names, IsName name) →
      (pick (names, .file content)).isSome → s.lookup (place ++ names) = some (.file content) →
      s.lookup (place ++ names) = t.lookup (place ++ names)) :
    (s.below place).filterMap pick = (t.below place).filterMap pick := by
  refine filterMap_below_congr wellformed wellformed' fun names entry filled picked => ?_
  cases entry with
  | directory =>
    rw [files] at picked
    cases picked
  | file content =>
    have named : ∀ {tree : FileTree} {found : Content}, tree.Wellformed →
        tree.lookup (place ++ names) = some (.file found) → ∀ name ∈ names, IsName name := by
      intro tree found wellformed there name member
      exact wellformed.isName_of_lookup (by rw [there]; rfl) name (List.mem_append_right _ member)
    constructor
    · intro there
      rw [← same names content filled (named wellformed' there) picked there, there]
    · intro there
      obtain ⟨content', there'⟩ := isFileAt_iff.mp (grown.file _ (isFileAt_iff.mpr ⟨content, there⟩))
      rw [same names content' filled (named wellformed there) (alike names _ _ ▸ picked) there', there]

/-- Two places have the same below them if the same is found there, name by name. -/
theorem below_congr (wellformed : t.Wellformed) (wellformed' : s.Wellformed)
    (same : ∀ names, names ≠ [] → s.lookup (place' ++ names) = t.lookup (place ++ names)) :
    s.below place' = t.below place := by
  have all : (s.below place').filterMap some = (t.below place).filterMap some :=
    filterMap_below_congr wellformed wellformed' fun names entry filled _ => by rw [same names filled]
  simpa using all

/-- The same is found below two places, name by name, if the same is listed below them. -/
theorem lookup_of_below (wellformed : t.Wellformed) (wellformed' : s.Wellformed)
    (same : s.below place' = t.below place) (taken : s.lookup place' = t.lookup place)
    (names : List Text) : s.lookup (place' ++ names) = t.lookup (place ++ names) := by
  by_cases filled : names = []
  · simpa [filled] using taken
  · refine Option.ext fun entry => ?_
    have mem : (names, entry) ∈ t.below place ↔ _ := wellformed.mem_below
    have mem' : (names, entry) ∈ s.below place' ↔ _ := wellformed'.mem_below
    rw [same, mem] at mem'
    simpa [filled] using mem'.symm

theorem children_congr (wellformed : t.Wellformed) (wellformed' : s.Wellformed)
    (same : ∀ names, names ≠ [] → s.lookup (place' ++ names) = t.lookup (place ++ names)) :
    s.children place' = t.children place := by
  rw [children, below_congr wellformed wellformed' same, children]

theorem Wellformed.mem_children (wellformed : t.Wellformed) {name : Text} :
    (name, entry) ∈ t.children place ↔ t.lookup (place ++ [name]) = some entry := by
  simp only [children, List.mem_filterMap, Prod.exists]
  constructor
  · rintro ⟨names, e, member, single⟩
    split at single
    next name' e' whole =>
      cases whole
      cases single
      exact (wellformed.mem_below.mp member).2
    · cases single
  · intro found
    exact ⟨[name], entry, wellformed.mem_below.mpr ⟨by simp, found⟩, rfl⟩

/-- The names in a directory are in order. -/
theorem Wellformed.ordered_names (wellformed : t.Wellformed) (place : List Text) :
    ((t.children place).map Prod.fst).Pairwise fun a b => Text.compare a b = .lt := by
  rw [children, List.map_filterMap]
  refine List.Pairwise.filterMap _ (fun a b ahead name single name' single' => ?_)
    (wellformed.ordered_below place)
  obtain ⟨names, entry⟩ := a
  obtain ⟨names', entry'⟩ := b
  split at single
  next first e same =>
    cases same
    cases single
    split at single'
    next second e' same =>
      cases same
      cases single'
      simp only [comparePlaces] at ahead
      split at ahead
      · cases ahead
      · exact ahead
    · cases single'
  · cases single

/-- No place that is taken is longer than the tree is deep. -/
theorem Wellformed.length_le_depth (wellformed : t.Wellformed) (taken : (t.lookup place).isSome) :
    place.length ≤ Glob.depth t := by
  by_cases filled : place = []
  · simp [filled]
  · obtain ⟨entry, found⟩ := Option.isSome_iff_exists.mp taken
    have member := wellformed.mem_entries.mpr ⟨filled, found⟩
    have grows : ∀ (lengths : List Nat) (start : Nat), start ≤ lengths.foldl max start ∧
        ∀ length ∈ lengths, length ≤ lengths.foldl max start := by
      intro lengths
      induction lengths with
      | nil => simp
      | cons first rest ih =>
        intro start
        obtain ⟨low, each⟩ := ih (max start first)
        refine ⟨by simp only [List.foldl_cons]; omega, fun length member => ?_⟩
        rcases List.mem_cons.mp member with rfl | later
        · simp only [List.foldl_cons]; omega
        · exact each length later
    exact (grows _ 0).2 _ (List.mem_map.mpr ⟨_, member, rfl⟩)

/-- A tree is only as deep as its longest places. -/
theorem depth_le {limit : Nat} (short : ∀ entry ∈ t.entries, entry.1.length ≤ limit) :
    Glob.depth t ≤ limit := by
  have step : ∀ (lengths : List Nat) (start : Nat), start ≤ limit →
      (∀ length ∈ lengths, length ≤ limit) → lengths.foldl max start ≤ limit := by
    intro lengths
    induction lengths with
    | nil => exact fun start least _ => least
    | cons first rest ih =>
      intro start least each
      obtain ⟨here, later⟩ := List.forall_mem_cons.mp each
      exact ih _ (Nat.max_le.mpr ⟨least, here⟩) later
  refine step _ 0 (Nat.zero_le _) fun length member => ?_
  obtain ⟨entry, listed, rfl⟩ := List.mem_map.mp member
  exact short entry listed

end DocSite.FileTree
