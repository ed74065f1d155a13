/-
# DocSite.Proofs.Text.Order -- the order of texts is total

Texts compare as lists of numbers do, so that two texts compare as equal just if they are
(`compareText_lawful`), and the order is transitive (`compareText_trans`). A list in ascending order
is known by its members (`eq_of_ascending`). A list that is sorted has the same members as before
(`sortBy_perm`) and its members are in order (`sortBy_ordered`). Equals keep their places, so that
sorting and leaving members out can be exchanged (`sortBy_filter`).
-/
import DocSite.Text.Order
import Mathlib.Data.List.Induction
import Mathlib.Data.List.Sort

set_option autoImplicit false

namespace DocSite.Text

theorem compare_eq_compareLex :
    Text.compare = List.compareLex fun a b : Char => Ord.compare a.toNat b.toNat := by
  funext a b
  induction a generalizing b with
  | nil => cases b <;> rfl
  | cons x a ih =>
    cases b with
    | nil => rfl
    | cons y b =>
      rw [compare, List.compareLex_cons_cons, ih, Nat.compare_eq_ite_lt]
      split
      · rfl
      · split <;> rfl

instance compareChar_trans : Std.TransCmp fun a b : Char => Ord.compare a.toNat b.toNat where
  eq_swap {a b} := Nat.compare_swap b.toNat a.toNat |>.symm
  isLE_trans {a b c} := @Std.TransOrd.isLE_trans Nat _ _ a.toNat b.toNat c.toNat

instance compareChar_lawful : Std.LawfulEqCmp fun a b : Char => Ord.compare a.toNat b.toNat where
  compare_self {a} := @Std.ReflOrd.compare_self Nat _ _ a.toNat
  eq_of_compare same := Char.toNat_inj.mp (Std.LawfulEqCmp.eq_of_compare same)

instance compareText_trans : Std.TransCmp Text.compare := by
  rw [compare_eq_compareLex]; infer_instance

instance compareText_lawful : Std.LawfulEqCmp Text.compare := by
  rw [compare_eq_compareLex]; infer_instance

/-- In ascending order no text stands twice. -/
theorem nodup_of_ascending {β : Type} {entries : List (Text × β)}
    (ascending : entries.Pairwise fun a b => compare a.1 b.1 = .lt) : (entries.map Prod.fst).Nodup := by
  refine List.pairwise_map.mpr (ascending.imp fun {a b} before same => ?_)
  have equal : compare b.1 b.1 = .eq := Std.ReflCmp.compare_self
  rw [same, equal] at before
  cases before

/-- A list in ascending order of its keys is known by its members. -/
theorem eq_of_ascending {α κ : Type} {cmp : κ → κ → Ordering} [Std.TransCmp cmp] (key : α → κ) {xs ys : List α}
    (ascending : xs.Pairwise fun a b => cmp (key a) (key b) = .lt)
    (ascending' : ys.Pairwise fun a b => cmp (key a) (key b) = .lt) (same : ∀ a, a ∈ xs ↔ a ∈ ys) :
    xs = ys := by
  have irreflexive : Std.Irrefl fun a b : α => cmp (key a) (key b) = .lt :=
    ⟨fun a less => by
      have equal : cmp (key a) (key a) = .eq := Std.ReflCmp.compare_self
      rw [equal] at less
      cases less⟩
  have antisymmetric : Std.Antisymm fun a b : α => cmp (key a) (key b) = .lt :=
    ⟨fun a b less more => absurd (Std.TransCmp.lt_trans less more) (irreflexive.irrefl a)⟩
  exact List.Pairwise.eq_of_mem_iff ascending ascending' same

/-! ## Sorting -/

section Sorting

variable {α : Type} {before : α → α → Bool}

theorem insertSorted_perm (x : α) (sorted : List α) :
    (insertSorted before x sorted).Perm (x :: sorted) := by
  induction sorted with
  | nil => exact List.Perm.refl _
  | cons y rest ih =>
    unfold insertSorted
    split
    · exact List.Perm.refl _
    · exact (ih.cons y).trans (List.Perm.swap x y rest)

theorem sortBy_snoc (xs : List α) (x : α) :
    sortBy before (xs ++ [x]) = insertSorted before x (sortBy before xs) := by
  simp [sortBy]

theorem sortBy_perm (xs : List α) : (sortBy before xs).Perm xs := by
  induction xs using List.reverseRecOn with
  | nil => exact List.Perm.refl _
  | append_singleton xs x ih =>
    rw [sortBy_snoc]
    exact (insertSorted_perm x _).trans ((ih.cons x).trans (List.perm_append_singleton x xs).symm)

theorem insertSorted_ordered
    (asymmetric : ∀ a b, before a b = true → before b a = false)
    (transitive : ∀ a b c, before a b = true → before b c = true → before a c = true)
    (x : α) {sorted : List α} (ordered : sorted.Pairwise fun a b => before b a = false) :
    (insertSorted before x sorted).Pairwise fun a b => before b a = false := by
  induction sorted with
  | nil => simp [insertSorted]
  | cons y rest ih =>
    obtain ⟨first, later⟩ := List.pairwise_cons.mp ordered
    unfold insertSorted
    split
    next ahead =>
      refine List.pairwise_cons.mpr ⟨fun z member => ?_, ordered⟩
      rcases List.mem_cons.mp member with rfl | member
      · exact asymmetric _ _ ahead
      · by_contra against
        have := transitive z x y (by simpa using against) ahead
        rw [first z member] at this
        cases this
    next behind =>
      refine List.pairwise_cons.mpr ⟨fun z member => ?_, ih later⟩
      rcases List.mem_cons.mp ((insertSorted_perm x rest).mem_iff.mp member) with rfl | member
      · simpa using behind
      · exact first z member

theorem sortBy_ordered
    (asymmetric : ∀ a b, before a b = true → before b a = false)
    (transitive : ∀ a b c, before a b = true → before b c = true → before a c = true)
    (xs : List α) : (sortBy before xs).Pairwise fun a b => before b a = false := by
  induction xs using List.reverseRecOn with
  | nil => exact List.Pairwise.nil
  | append_singleton xs x ih =>
    rw [sortBy_snoc]
    exact insertSorted_ordered asymmetric transitive x ih

/-! ### Equals keep their places -/

theorem insertSorted_first {x : α} {sorted : List α} (ahead : ∀ y ∈ sorted, before x y = true) :
    insertSorted before x sorted = x :: sorted := by
  cases sorted with
  | nil => rfl
  | cons y rest => simp [insertSorted, ahead y (List.mem_cons_self ..)]

theorem insertSorted_last {x : α} {sorted : List α} (behind : ∀ y ∈ sorted, before x y = false) :
    insertSorted before x sorted = sorted ++ [x] := by
  induction sorted with
  | nil => rfl
  | cons y rest ih =>
    have later := ih fun z member => behind z (List.mem_cons_of_mem _ member)
    simp [insertSorted, behind y (List.mem_cons_self ..), later]

/-- A list that is in order stays as it is. -/
theorem sortBy_eq_self {xs : List α} (ordered : xs.Pairwise fun a b => before b a = false) :
    sortBy before xs = xs := by
  induction xs using List.reverseRecOn with
  | nil => rfl
  | append_singleton xs x ih =>
    obtain ⟨first, -, last⟩ := List.pairwise_append.mp ordered
    rw [sortBy_snoc, ih first]
    apply insertSorted_last
    intro y member
    exact last y member x (List.mem_singleton_self x)

section Filter

variable (asymmetric : ∀ a b, before a b = true → before b a = false)
  (splits : ∀ a b c, before a c = true → before a b = true ∨ before b c = true)
include asymmetric splits

theorem transitive_of_splits (a b c : α) (first : before a b = true) (second : before b c = true) :
    before a c = true := by
  rcases splits a c b first with done | back
  · exact done
  · rw [asymmetric c b back] at second
    cases second

omit asymmetric in
/-- Where a value is put into a list in order does not depend on what else is left out of the list. -/
theorem insertSorted_filter (keep : α → Bool) (x : α) {sorted : List α}
    (ordered : sorted.Pairwise fun a b => before b a = false) :
    (insertSorted before x sorted).filter keep =
      if keep x then insertSorted before x (sorted.filter keep) else sorted.filter keep := by
  induction sorted with
  | nil => cases kept : keep x <;> simp [insertSorted, kept]
  | cons y rest ih =>
    obtain ⟨first, later⟩ := List.pairwise_cons.mp ordered
    by_cases ahead : before x y = true
    · -- What is behind `y` is behind `x` too, so that `x` comes first whether `y` is kept or not.
      have all_behind : ∀ z ∈ y :: rest, before x z = true := by
        intro z member
        rcases List.mem_cons.mp member with rfl | member
        · exact ahead
        · rcases splits x z y ahead with done | back
          · exact done
          · rw [first z member] at back
            cases back
      have kept_behind : ∀ z ∈ (y :: rest).filter keep, before x z = true :=
        fun z member => all_behind z ((List.mem_filter.mp member).1)
      rw [insertSorted_first all_behind, insertSorted_first kept_behind]
      cases kept : keep x <;> simp [List.filter_cons, kept]
    · have skipped (rest : List α) : insertSorted before x (y :: rest) = y :: insertSorted before x rest := by
        simp [insertSorted, ahead]
      cases kept : keep y with
      | true =>
        rw [skipped, List.filter_cons_of_pos kept, List.filter_cons_of_pos kept, ih later, skipped]
        split <;> rfl
      | false =>
        rw [skipped, List.filter_cons_of_neg (by simp [kept]), List.filter_cons_of_neg (by simp [kept]),
          ih later]

/-- Sorting what is left of a list is leaving the same out of the sorted list. -/
theorem sortBy_filter (keep : α → Bool) (xs : List α) :
    (sortBy before xs).filter keep = sortBy before (xs.filter keep) := by
  induction xs using List.reverseRecOn with
  | nil => rfl
  | append_singleton xs x ih =>
    have ordered := sortBy_ordered asymmetric (transitive_of_splits asymmetric splits) xs
    rw [sortBy_snoc, insertSorted_filter splits keep x ordered, ih, List.filter_append]
    cases kept : keep x with
    | true => simp [kept, sortBy_snoc]
    | false => simp [kept]

end Filter

end Sorting

end DocSite.Text
