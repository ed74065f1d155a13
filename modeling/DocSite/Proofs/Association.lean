/-
# DocSite.Proofs.Association -- looking up in lists of pairs

Indexes, directories and records of this library are lists of pairs that are read with `lookup`.
These are the laws of `lookup` for the ways in which such lists change.
-/
import Mathlib.Data.List.Nodup

set_option autoImplicit false

namespace DocSite.Association

variable {α β γ : Type} [BEq α] [LawfulBEq α]

theorem lookup_cons_of_ne {key k : α} (value : β) (entries : List (α × β)) (miss : key ≠ k) :
    ((k, value) :: entries).lookup key = entries.lookup key := by
  rw [List.lookup_cons, beq_false_of_ne miss]

theorem lookup_cons [DecidableEq α] (key k : α) (value : β) (entries : List (α × β)) :
    ((k, value) :: entries).lookup key = if key = k then some value else entries.lookup key := by
  by_cases hit : key = k
  · rw [hit, List.lookup_cons_self, if_pos rfl]
  · rw [lookup_cons_of_ne _ _ hit, if_neg hit]

theorem mem_of_lookup {key : α} {value : β} {entries : List (α × β)}
    (found : entries.lookup key = some value) : (key, value) ∈ entries := by
  obtain ⟨before, after, rfl, -⟩ := List.lookup_eq_some_iff.mp found
  simp

/-- Where each key is there once, look-up finds what is there. -/
theorem lookup_eq_some {entries : List (α × β)} (distinct : (entries.map Prod.fst).Nodup) {key : α} {value : β} :
    entries.lookup key = some value ↔ (key, value) ∈ entries := by
  refine ⟨mem_of_lookup, fun member => ?_⟩
  induction entries with
  | nil => cases member
  | cons first rest ih =>
    obtain ⟨other, old⟩ := first
    obtain ⟨new, later⟩ := List.nodup_cons.mp distinct
    rcases List.mem_cons.mp member with same | inside
    · cases same
      exact List.lookup_cons_self
    · have differ : key ≠ other := by
        rintro rfl
        exact new (List.mem_map.mpr ⟨_, inside, rfl⟩)
      rw [lookup_cons_of_ne _ _ differ]
      exact ih later inside

theorem lookup_filter_key (keep : α → Bool) (entries : List (α × β)) (key : α) :
    (entries.filter fun entry => keep entry.1).lookup key =
      if keep key then entries.lookup key else none := by
  induction entries with
  | nil => simp
  | cons entry entries ih =>
    obtain ⟨k, value⟩ := entry
    by_cases hit : key = k
    · subst hit
      by_cases kept : keep key <;> simp [kept, ih]
    · by_cases kept : keep k <;> simp [kept, lookup_cons_of_ne _ _ hit, ih]

/-- Where each key is there once, leaving out values leaves the others where they were. -/
theorem lookup_filter_value (keep : β → Bool) {entries : List (α × β)}
    (distinct : (entries.map Prod.fst).Nodup) (key : α) :
    (entries.filter fun entry => keep entry.2).lookup key = (entries.lookup key).filter keep := by
  induction entries with
  | nil => rfl
  | cons entry entries ih =>
    obtain ⟨k, value⟩ := entry
    obtain ⟨new, later⟩ := List.nodup_cons.mp distinct
    rw [List.filter_cons]
    by_cases hit : key = k
    · subst hit
      have absent : entries.lookup key = none := List.lookup_eq_none_iff.mpr fun entry member =>
        bne_iff_ne.mpr fun same => new (List.mem_map.mpr ⟨entry, member, same.symm⟩)
      by_cases kept : keep value <;> simp [Option.filter, kept, ih later, absent]
    · by_cases kept : keep value <;> simp [kept, lookup_cons_of_ne _ _ hit, ih later]

theorem lookup_map_value (change : α → β → γ) (entries : List (α × β)) (key : α) :
    (entries.map fun entry => (entry.1, change entry.1 entry.2)).lookup key =
      (entries.lookup key).map (change key) := by
  induction entries with
  | nil => rfl
  | cons entry entries ih =>
    obtain ⟨k, value⟩ := entry
    by_cases hit : key = k
    · subst hit; simp
    · simp [lookup_cons_of_ne _ _ hit, ih]

theorem lookup_snoc [DecidableEq α] (entries : List (α × β)) (last : α) (value : β) (key : α) :
    (entries ++ [(last, value)]).lookup key =
      (entries.lookup key).or (if key = last then some value else none) := by
  rw [List.lookup_append, lookup_cons, List.lookup_nil]

omit [LawfulBEq α] in
theorem lookup_reverse_append (first second : List (α × β)) (key : α) :
    (first ++ second).reverse.lookup key = (second.reverse.lookup key).or (first.reverse.lookup key) := by
  rw [List.reverse_append, List.lookup_append]

omit [LawfulBEq α] in
theorem isSome_lookup_reverse (entries : List (α × β)) (key : α) :
    (entries.reverse.lookup key).isSome = (entries.lookup key).isSome := by
  rw [Bool.eq_iff_iff, List.lookup_isSome_iff, List.lookup_isSome_iff]
  simp only [List.mem_reverse]

/-- The order of entries with different keys does not matter. -/
theorem lookup_reverse [DecidableEq α] {entries : List (α × β)} (distinct : (entries.map Prod.fst).Nodup)
    (key : α) : entries.reverse.lookup key = entries.lookup key := by
  induction entries with
  | nil => rfl
  | cons entry rest ih =>
    obtain ⟨first, value⟩ := entry
    rw [List.map_cons, List.nodup_cons] at distinct
    rw [List.reverse_cons, lookup_snoc, ih distinct.2]
    by_cases hit : key = first
    · subst hit
      have free : rest.lookup key = none := by
        rw [List.lookup_eq_none_iff]
        intro other member
        have differ : key ≠ other.1 := fun same => distinct.1 (List.mem_map.mpr ⟨other, member, same.symm⟩)
        simpa using differ
      rw [free, Option.none_or, if_pos rfl, List.lookup_cons_self]
    · rw [if_neg hit, Option.or_none, lookup_cons_of_ne _ _ hit]

end DocSite.Association
