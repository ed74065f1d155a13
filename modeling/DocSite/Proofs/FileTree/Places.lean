/-
# DocSite.Proofs.FileTree.Places -- what is at the places of a tree of files

A tree of files is `Wellformed` if its places are in order, made of file names, and each lies in a
directory. Such a tree is known by what `lookup` finds. To put something at a place changes this
place alone (`lookup_put`), to remove a file takes its place out (`lookup_remove_file`), and both
keep the tree wellformed. What is `below` a place is what `lookup` finds there (`mem_below`).
-/
import DocSite.Proofs.Association
import DocSite.Proofs.Path.Parts
import DocSite.Proofs.Text.Order

set_option autoImplicit false

namespace DocSite.FileTree

open Text
open DocSite.Path (IsName)
open Association

/-! ## The order of places -/

theorem comparePlaces_eq_compareLex : comparePlaces = List.compareLex Text.compare := by
  funext a b
  induction a generalizing b with
  | nil => cases b <;> rfl
  | cons x a ih =>
    cases b with
    | nil => rfl
    | cons y b =>
      rw [comparePlaces, List.compareLex_cons_cons, ih]
      cases Text.compare x y <;> rfl

instance comparePlaces_trans : Std.TransCmp comparePlaces := by
  rw [comparePlaces_eq_compareLex]; infer_instance

instance comparePlaces_lawful : Std.LawfulEqCmp comparePlaces := by
  rw [comparePlaces_eq_compareLex]; infer_instance

theorem comparePlaces_self (place : List Text) : comparePlaces place place = .eq :=
  Std.ReflCmp.compare_self

/-- Whether entries are in the order of their places, which are all different. -/
def Ordered (entries : List (List Text × Entry)) : Prop :=
  entries.Pairwise fun a b => comparePlaces a.1 b.1 = .lt

theorem lookup_insertEntry (place : List Text) (entry : Entry) (entries : List (List Text × Entry))
    (other : List Text) :
    (insertEntry place entry entries).lookup other =
      if other = place then some entry else entries.lookup other := by
  have ahead : ∀ entries : List (List Text × Entry),
      ((place, entry) :: entries).lookup other =
        if other = place then some entry else entries.lookup other := by
    intro entries
    split
    next same => rw [same, List.lookup_cons_self]
    next different => exact lookup_cons_of_ne _ _ different
  induction entries with
  | nil => exact ahead []
  | cons first rest ih =>
    obtain ⟨p, e⟩ := first
    unfold insertEntry
    cases order : comparePlaces place p with
    | lt => exact ahead _
    | eq =>
      have equal := Std.LawfulEqCmp.eq_of_compare order
      subst equal
      rw [ahead]
      split
      · rfl
      next different => rw [lookup_cons_of_ne _ _ different]
    | gt =>
      have different : place ≠ p := by
        rintro rfl
        rw [comparePlaces_self] at order
        cases order
      by_cases hit : other = p
      · subst hit
        rw [if_neg (Ne.symm different), List.lookup_cons_self, List.lookup_cons_self]
      · rw [lookup_cons_of_ne _ _ hit, lookup_cons_of_ne _ _ hit, ih]

theorem mem_insertEntry {place : List Text} {entry : Entry} {entries : List (List Text × Entry)}
    {member : List Text × Entry} (taken : member ∈ insertEntry place entry entries) :
    member = (place, entry) ∨ member ∈ entries := by
  induction entries with
  | nil => exact Or.inl (by simpa [insertEntry] using taken)
  | cons first rest ih =>
    obtain ⟨p, e⟩ := first
    unfold insertEntry at taken
    split at taken
    · simpa using taken
    · rcases List.mem_cons.mp taken with same | later
      · exact Or.inl same
      · exact Or.inr (List.mem_cons_of_mem _ later)
    · rcases List.mem_cons.mp taken with same | later
      · exact Or.inr (by simp [same])
      · exact (ih later).imp id (List.mem_cons_of_mem _)

theorem ordered_insertEntry (place : List Text) (entry : Entry)
    {entries : List (List Text × Entry)} (ordered : Ordered entries) :
    Ordered (insertEntry place entry entries) := by
  induction entries with
  | nil => simp [insertEntry, Ordered]
  | cons first rest ih =>
    obtain ⟨p, e⟩ := first
    obtain ⟨ahead, later⟩ := List.pairwise_cons.mp ordered
    unfold insertEntry
    cases order : comparePlaces place p with
    | lt =>
      refine List.pairwise_cons.mpr ⟨fun member taken => ?_, ordered⟩
      rcases List.mem_cons.mp taken with rfl | taken
      · exact order
      · exact Std.TransCmp.lt_trans order (ahead member taken)
    | eq =>
      have equal := Std.LawfulEqCmp.eq_of_compare order
      subst equal
      exact List.pairwise_cons.mpr ⟨ahead, later⟩
    | gt =>
      refine List.pairwise_cons.mpr ⟨fun member taken => ?_, ih later⟩
      rcases mem_insertEntry taken with rfl | taken
      · exact Std.OrientedCmp.lt_of_gt order
      · exact ahead member taken

/-- In ordered entries every place is taken once. -/
theorem lookup_eq_some_of_mem {entries : List (List Text × Entry)} (ordered : Ordered entries)
    {place : List Text} {entry : Entry} (member : (place, entry) ∈ entries) :
    entries.lookup place = some entry := by
  induction entries with
  | nil => cases member
  | cons first rest ih =>
    obtain ⟨p, e⟩ := first
    obtain ⟨ahead, later⟩ := List.pairwise_cons.mp ordered
    rcases List.mem_cons.mp member with same | inside
    · cases same
      exact List.lookup_cons_self
    · have different : place ≠ p := by
        rintro rfl
        have := ahead _ inside
        rw [comparePlaces_self] at this
        cases this
      rw [lookup_cons_of_ne _ _ different, ih later inside]

theorem mem_of_lookup_eq_some {entries : List (List Text × Entry)} {place : List Text}
    {entry : Entry} (found : entries.lookup place = some entry) : (place, entry) ∈ entries := by
  obtain ⟨before, after, rfl, -⟩ := List.lookup_eq_some_iff.mp found
  simp

/-! ## Wellformed trees -/

/-- Places are in order and made of file names, and each of them lies in a directory. -/
structure Wellformed (t : FileTree) : Prop where
  ordered : Ordered t.entries
  filled : ∀ entry ∈ t.entries, entry.1 ≠ []
  named : ∀ entry ∈ t.entries, ∀ name ∈ entry.1, IsName name
  rooted : ∀ place name, (t.lookup (place ++ [name])).isSome → t.lookup place = some .directory

variable {t : FileTree} {place other : List Text} {entry : Entry}

@[simp]
theorem lookup_root (t : FileTree) : t.lookup [] = some .directory := rfl

theorem lookup_of_ne (t : FileTree) (filled : place ≠ []) :
    t.lookup place = t.entries.lookup place := by
  simp [lookup, filled]

theorem isDirectoryAt_iff : t.isDirectoryAt place = true ↔ t.lookup place = some .directory := by
  simp [isDirectoryAt]

theorem isFileAt_iff :
    t.isFileAt place = true ↔ ∃ content, t.lookup place = some (.file content) := by
  unfold isFileAt
  split <;> simp_all

theorem Wellformed.mem_entries (wellformed : t.Wellformed) :
    (place, entry) ∈ t.entries ↔ place ≠ [] ∧ t.lookup place = some entry := by
  constructor
  · intro member
    have filled := wellformed.filled _ member
    exact ⟨filled, (lookup_of_ne t filled).trans (lookup_eq_some_of_mem wellformed.ordered member)⟩
  · rintro ⟨filled, found⟩
    rw [lookup_of_ne t filled] at found
    exact mem_of_lookup_eq_some found

theorem Wellformed.isName_of_lookup (wellformed : t.Wellformed)
    (found : (t.lookup place).isSome) : ∀ name ∈ place, IsName name := by
  obtain ⟨entry, found⟩ := Option.isSome_iff_exists.mp found
  by_cases empty : place = []
  · simp [empty]
  · exact wellformed.named _ (wellformed.mem_entries.mpr ⟨empty, found⟩)

/-- Whether a tree is wellformed can be seen from its entries one by one. -/
theorem wellformed_iff :
    t.Wellformed ↔ Ordered t.entries ∧ ∀ entry ∈ t.entries, entry.1 ≠ [] ∧
      (∀ name ∈ entry.1, IsName name) ∧ t.lookup entry.1.dropLast = some .directory := by
  constructor
  · intro wellformed
    refine ⟨wellformed.ordered, fun entry member => ?_⟩
    have filled := wellformed.filled entry member
    refine ⟨filled, wellformed.named entry member, wellformed.rooted _ (entry.1.getLast filled) ?_⟩
    rw [List.dropLast_append_getLast, (wellformed.mem_entries.mp member).2]
    rfl
  · rintro ⟨ordered, each⟩
    refine ⟨ordered, fun entry member => (each entry member).1,
      fun entry member => (each entry member).2.1, fun upper last taken => ?_⟩
    obtain ⟨entry, found⟩ := Option.isSome_iff_exists.mp taken
    rw [lookup_of_ne t (by simp)] at found
    simpa using (each _ (mem_of_lookup_eq_some found)).2.2

instance (entries : List (List Text × Entry)) : Decidable (Ordered entries) := by
  unfold Ordered; infer_instance

instance (t : FileTree) : Decidable t.Wellformed := decidable_of_iff _ wellformed_iff.symm

/-- Whatever a taken place lies below is a directory. -/
theorem Wellformed.directory_of_prefix (wellformed : t.Wellformed) {rest : List Text}
    (filled : rest ≠ []) (found : (t.lookup (place ++ rest)).isSome) :
    t.lookup place = some .directory := by
  induction rest using List.reverseRecOn with
  | nil => exact absurd rfl filled
  | append_singleton rest name ih =>
    rw [← List.append_assoc] at found
    have parent := wellformed.rooted _ _ found
    by_cases empty : rest = []
    · simpa [empty] using parent
    · exact ih empty (by simp [parent])

/-- Nothing lies below a file. -/
theorem Wellformed.not_below_file (wellformed : t.Wellformed) {content : Content}
    {rest : List Text} (filled : rest ≠ []) (file : t.lookup place = some (.file content)) :
    t.lookup (place ++ rest) = none := by
  by_contra taken
  have := wellformed.directory_of_prefix filled (Option.isSome_iff_ne_none.mpr taken)
  rw [file] at this
  cases this

/-- What is below a place is what is found there. -/
theorem Wellformed.mem_below (wellformed : t.Wellformed) {names : List Text} :
    (names, entry) ∈ t.below place ↔ names ≠ [] ∧ t.lookup (place ++ names) = some entry := by
  simp only [below, List.mem_filterMap, Prod.exists]
  constructor
  · rintro ⟨p, e, member, below⟩
    split at below
    next inside =>
      simp only [Bool.and_eq_true, decide_eq_true_eq, ne_eq] at inside
      obtain ⟨rest, rfl⟩ := List.isPrefixOf_iff_prefix.mp inside.1
      simp only [List.drop_left, Option.some.injEq, Prod.mk.injEq] at below
      obtain ⟨rfl, rfl⟩ := below
      refine ⟨?_, (wellformed.mem_entries.mp member).2⟩
      rintro rfl
      simp at inside
    · cases below
  · rintro ⟨filled, found⟩
    refine ⟨place ++ names, entry, wellformed.mem_entries.mpr ⟨by simp [filled], found⟩, ?_⟩
    have inside : place.isPrefixOf (place ++ names) = true :=
      List.isPrefixOf_iff_prefix.mpr (List.prefix_append _ _)
    simp [inside, filled]

/-! ## Changes of one place -/

theorem lookup_put (filled : place ≠ []) (entry : Entry) (t : FileTree) (other : List Text) :
    (t.put place entry).lookup other = if other = place then some entry else t.lookup other := by
  by_cases empty : other = []
  · subst empty
    simp [Ne.symm filled]
  · rw [lookup_of_ne _ empty, put, lookup_insertEntry, lookup_of_ne _ empty]

/-- A place in a directory may be taken by anything, unless it is a directory that gives way to a
file. -/
theorem Wellformed.put (wellformed : t.Wellformed) {parent : List Text} {name : Text}
    (directory : t.lookup parent = some .directory) (named : IsName name) (entry : Entry)
    (free : entry = .directory ∨ t.lookup (parent ++ [name]) ≠ some .directory) :
    (t.put (parent ++ [name]) entry).Wellformed where
  ordered := ordered_insertEntry _ _ wellformed.ordered
  filled := by
    intro member taken
    rcases mem_insertEntry taken with rfl | taken
    · simp
    · exact wellformed.filled _ taken
  named := by
    intro member taken
    rcases mem_insertEntry taken with rfl | taken
    · intro other inside
      rcases List.mem_append.mp inside with inside | inside
      · exact wellformed.isName_of_lookup (by simp [directory]) _ inside
      · rw [List.mem_singleton.mp inside]
        exact named
    · exact wellformed.named _ taken
  rooted := by
    intro upper last taken
    rw [lookup_put (by simp)] at taken ⊢
    by_cases same : upper ++ [last] = parent ++ [name]
    · have upper_eq := List.append_inj_left' same rfl
      subst upper_eq
      simp [directory]
    · rw [if_neg same] at taken
      have above := wellformed.rooted _ _ taken
      split
      next here =>
        subst here
        rcases free with rfl | notDirectory
        · rfl
        · exact absurd above notDirectory
      · exact above

theorem lookup_remove (filled : place ≠ []) (t : FileTree) (other : List Text) :
    (t.remove place).lookup other = if place.isPrefixOf other then none else t.lookup other := by
  by_cases empty : other = []
  · subst empty
    cases place with
    | nil => exact absurd rfl filled
    | cons => rfl
  · rw [lookup_of_ne _ empty, lookup_of_ne _ empty, remove,
      lookup_filter_key fun p => !place.isPrefixOf p]
    cases place.isPrefixOf other <;> simp

/-- A file that is removed leaves all else as it was. -/
theorem Wellformed.lookup_remove_file (wellformed : t.Wellformed) {content : Content}
    (file : t.lookup place = some (.file content)) (other : List Text) :
    (t.remove place).lookup other = if other = place then none else t.lookup other := by
  have filled : place ≠ [] := by
    rintro rfl
    simp at file
  rw [lookup_remove filled]
  by_cases same : other = place
  · subst same
    simp
  · rw [if_neg same]
    split
    next inside =>
      obtain ⟨rest, rfl⟩ := List.isPrefixOf_iff_prefix.mp inside
      rw [wellformed.not_below_file (by simpa using same) file]
    · rfl

theorem Wellformed.remove_file (wellformed : t.Wellformed) {content : Content}
    (file : t.lookup place = some (.file content)) : (t.remove place).Wellformed where
  ordered := wellformed.ordered.filter _
  filled entry member := wellformed.filled entry (List.mem_of_mem_filter member)
  named entry member := wellformed.named entry (List.mem_of_mem_filter member)
  rooted := by
    intro upper last taken
    rw [wellformed.lookup_remove_file file] at taken ⊢
    split at taken
    · cases taken
    · have above := wellformed.rooted _ _ taken
      rw [above, if_neg]
      rintro rfl
      rw [file] at above
      cases above

end DocSite.FileTree
