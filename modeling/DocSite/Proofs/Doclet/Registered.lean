/-
# DocSite.Proofs.Doclet.Registered -- the adapters of a registry

Whatever adapters have been registered, a name stands for the one that was registered last under it
(`Registry.resolve_filled`), and it is this one that reads the references of that name (`Registry.run_last`).
-/
import DocSite.Doclet.Registry
import DocSite.Proofs.Association
import DocSite.Proofs.Text.Order

set_option autoImplicit false

namespace DocSite.Doclet.Registry

open Text

variable {name : Text} {adapter : Adapter} {registrations : List (Text × Adapter)}

/-- The registry that registrations fill, one after the other. -/
def filled (registrations : List (Text × Adapter)) : Registry :=
  registrations.foldl (fun registry (name, adapter) => registry.register name adapter) empty

/-- Whether an adapter is the one that was registered last under a name. -/
def Last (registrations : List (Text × Adapter)) (name : Text) (adapter : Adapter) : Prop :=
  ∃ before after, registrations = before ++ (name, adapter) :: after ∧ ∀ later ∈ after, later.1 ≠ name

/-- Whether no adapter was registered under a name. -/
def Unknown (registrations : List (Text × Adapter)) (name : Text) : Prop :=
  ∀ registration ∈ registrations, registration.1 ≠ name

theorem lookup_insertAdapter (name other : Text) (adapter : Adapter) (adapters : List (Text × Adapter)) :
    (insertAdapter name adapter adapters).lookup other =
      if other = name then some adapter else adapters.lookup other := by
  induction adapters with
  | nil => rw [insertAdapter, Association.lookup_cons]
  | cons first rest ih =>
    obtain ⟨own, old⟩ := first
    rw [insertAdapter]
    cases order : Text.compare name own with
    | lt => exact Association.lookup_cons ..
    | eq =>
      obtain rfl := Std.LawfulEqCmp.eq_of_compare order
      rw [Association.lookup_cons, Association.lookup_cons]
      split <;> rfl
    | gt =>
      have differ : own ≠ name := by
        rintro rfl
        cases Std.ReflCmp.compare_self.symm.trans order
      rw [Association.lookup_cons, ih, Association.lookup_cons]
      split
      next same => rw [same, if_neg differ]
      · rfl

theorem resolve_register (name other : Text) (adapter : Adapter) (registry : Registry) :
    (registry.register name adapter).resolve? other =
      if other = name then some adapter else registry.resolve? other :=
  lookup_insertAdapter name other adapter registry.adapters

theorem resolve_filled (registrations : List (Text × Adapter)) (name : Text) :
    (filled registrations).resolve? name = registrations.reverse.lookup name := by
  induction registrations using List.reverseRecOn with
  | nil => rfl
  | append_singleton registrations last ih =>
    obtain ⟨own, adapter⟩ := last
    rw [filled, List.foldl_append, ← filled, List.foldl_cons, List.foldl_nil, resolve_register, ih,
      List.reverse_append, List.reverse_singleton, List.singleton_append, Association.lookup_cons]

theorem resolve_filled_eq_some : (filled registrations).resolve? name = some adapter ↔
    Last registrations name adapter := by
  rw [resolve_filled, List.lookup_eq_some_iff]
  constructor
  · rintro ⟨after, before, split, none⟩
    refine ⟨before.reverse, after.reverse, ?_, fun later member => ?_⟩
    · rw [← List.reverse_reverse registrations, split]
      simp
    · exact (bne_iff_ne.mp (none later (List.mem_reverse.mp member))).symm
  · rintro ⟨before, after, rfl, none⟩
    refine ⟨after.reverse, before.reverse, by simp, fun later member => ?_⟩
    exact bne_iff_ne.mpr (none later (List.mem_reverse.mp member)).symm

theorem resolve_filled_eq_none : (filled registrations).resolve? name = none ↔ Unknown registrations name := by
  rw [resolve_filled, List.lookup_eq_none_iff]
  exact forall_congr' fun registration => by rw [List.mem_reverse, bne_iff_ne, ne_comm]

theorem unknown_or_last (registrations : List (Text × Adapter)) (name : Text) :
    Unknown registrations name ∨ ∃ adapter, Last registrations name adapter := by
  cases found : (filled registrations).resolve? name with
  | none => exact .inl (resolve_filled_eq_none.mp found)
  | some adapter => exact .inr ⟨adapter, resolve_filled_eq_some.mp found⟩

theorem run_unknown (unknown : Unknown registrations name) (files : FileTree) (reference : Yaml.Value) :
    (filled registrations).run files name reference = .ok none := by
  rw [run, resolve_filled_eq_none.mpr unknown]

theorem run_last (last : Last registrations name adapter) (files : FileTree) (reference : Yaml.Value) :
    (filled registrations).run files name reference =
      (adapter.parse files reference).map fun doclets => some ⟨name, adapter.categorize doclets⟩ := by
  rw [run, resolve_filled_eq_some.mpr last]

end DocSite.Doclet.Registry
