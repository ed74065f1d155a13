/-
# DocSite.Proofs.Mapping -- lists that are mapped as long as nothing fails

References, pieces of patterns and files are read one after the other with `mapM`, which stops at the first
that cannot be read. These are the laws that say what its results, or its failure, come from.
-/
import Mathlib.Data.List.Forall2

set_option autoImplicit false

namespace DocSite.Mapping

variable {α β ε : Type}

/-- A list is mapped if each of its members is, each to the result at its position. -/
theorem mapM_eq_some {f : α → Option β} {list : List α} {results : List β} :
    list.mapM f = some results ↔ List.Forall₂ (fun a b => f a = some b) list results := by
  induction list generalizing results with
  | nil =>
    rw [List.forall₂_nil_left_iff]
    exact ⟨fun done => by cases done; rfl, fun same => same ▸ rfl⟩
  | cons first rest ih =>
    rw [List.mapM_cons, List.forall₂_cons_left_iff]
    constructor
    · intro done
      obtain ⟨value, here, later⟩ := Option.bind_eq_some_iff.mp done
      obtain ⟨values, there, same⟩ := Option.bind_eq_some_iff.mp later
      exact ⟨value, values, here, ih.mp there, (Option.some.inj same).symm⟩
    · rintro ⟨value, values, here, later, rfl⟩
      rw [here, ih.mpr later]
      rfl

theorem mapM_eq_some_iff_map {f : α → Option β} {list : List α} {results : List β} :
    list.mapM f = some results ↔ list.map f = results.map some := by
  rw [mapM_eq_some, ← List.forall₂_eq_eq_eq, List.forall₂_map_left_iff, List.forall₂_map_right_iff]

theorem length_of_mapM {f : α → Option β} {list : List α} {found : List β}
    (mapped : list.mapM f = some found) : found.length = list.length :=
  (mapM_eq_some.mp mapped).length_eq.symm

/-- A list is mapped alike by what maps each of its members alike. -/
theorem mapM_congr {f g : α → Except ε β} {list : List α} (same : ∀ a ∈ list, f a = g a) :
    list.mapM f = list.mapM g := by
  rw [← Function.id_comp f, ← List.mapM_map, List.map_congr_left same, List.mapM_map,
    Function.id_comp]

/-- A list is mapped if each of its members is, and the results are theirs. -/
theorem mapM_eq_ok {f : α → Except ε β} {list : List α} {results : List β} :
    list.mapM f = .ok results ↔ List.Forall₂ (fun a b => f a = .ok b) list results := by
  induction list generalizing results with
  | nil =>
    rw [List.forall₂_nil_left_iff]
    exact ⟨fun done => by cases done; rfl, fun same => same ▸ rfl⟩
  | cons first rest ih =>
    rw [List.mapM_cons, List.forall₂_cons_left_iff]
    constructor
    · intro done
      cases here : f first with
      | error e => rw [here] at done; cases done
      | ok value =>
        cases later : rest.mapM f with
        | error e => rw [here, later] at done; cases done
        | ok values =>
          rw [here, later] at done
          cases done
          exact ⟨value, values, rfl, ih.mp later, rfl⟩
    · rintro ⟨value, values, here, later, rfl⟩
      rw [here, ih.mpr later]
      rfl

/-- What fails is the first member that does. -/
theorem mapM_eq_error {f : α → Except ε β} {list : List α} {e : ε} :
    list.mapM f = .error e ↔ ∃ before member after, list = before ++ member :: after ∧
      f member = .error e ∧ ∀ earlier ∈ before, ∃ value, f earlier = .ok value := by
  induction list with
  | nil => exact ⟨nofun, fun ⟨before, member, after, same, _⟩ => by simp at same⟩
  | cons first rest ih =>
    rw [List.mapM_cons]
    constructor
    · intro failed
      cases here : f first with
      | error e' =>
        rw [here] at failed
        cases failed
        exact ⟨[], first, rest, rfl, here, nofun⟩
      | ok value =>
        cases later : rest.mapM f with
        | error e' =>
          rw [here, later] at failed
          cases failed
          obtain ⟨before, member, after, rfl, failed, sound⟩ := ih.mp later
          exact ⟨first :: before, member, after, rfl, failed, List.forall_mem_cons.mpr ⟨⟨value, here⟩, sound⟩⟩
        | ok values =>
          rw [here, later] at failed
          cases failed
    · rintro ⟨before, member, after, split, failed, sound⟩
      cases before with
      | nil =>
        cases split
        rw [failed]
        rfl
      | cons earlier before =>
        cases split
        obtain ⟨⟨value, here⟩, sound⟩ := List.forall_mem_cons.mp sound
        rw [here, ih.mpr ⟨before, member, after, rfl, failed, sound⟩]
        rfl

/-- A failure is that of a member. -/
theorem exists_of_mapM_error {f : α → Except ε β} {list : List α} {e : ε}
    (failed : list.mapM f = .error e) : ∃ member ∈ list, f member = .error e := by
  obtain ⟨before, member, after, rfl, failed, -⟩ := mapM_eq_error.mp failed
  exact ⟨member, by simp, failed⟩

/-- Where nothing fails, no member does. -/
theorem exists_of_mapM_ok {f : α → Except ε β} {list : List α} {results : List β} (done : list.mapM f = .ok results)
    {member : α} (inside : member ∈ list) : ∃ result, f member = .ok result := by
  induction mapM_eq_ok.mp done with
  | nil => cases inside
  | cons here later ih =>
    rcases List.mem_cons.mp inside with rfl | rest
    · exact ⟨_, here⟩
    · exact ih (mapM_eq_ok.mpr later) rest

/-- The results are those of the members. -/
theorem mem_mapM {f : α → Except ε β} {list : List α} {results : List β} (done : list.mapM f = .ok results)
    {result : β} : result ∈ results ↔ ∃ each ∈ list, f each = .ok result := by
  induction mapM_eq_ok.mp done with
  | nil => simp
  | @cons first value rest values here later ih =>
    rw [List.mem_cons, List.exists_mem_cons_iff, ih (mapM_eq_ok.mpr later), here, Except.ok.injEq, eq_comm]

end DocSite.Mapping
