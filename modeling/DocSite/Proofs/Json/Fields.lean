/-
# DocSite.Proofs.Json.Fields -- the fields of an object

A field that is given a value has this value, and the other fields keep theirs (`get_insert`), whatever the
order of the fields is. So an object that is made of pairs has the value of the last pair of a name
(`get_ofPairs`). It has no name twice, and is a value that can be written as JSON and read again if the values of
the pairs are (`Value.Wellformed.ofPairs`).
-/
import DocSite.Json.Value
import DocSite.Proofs.Association
import DocSite.Proofs.Text.Order

set_option autoImplicit false

namespace DocSite.Json

variable {name : Text} {value : Value} {fields : Fields} {pairs : List (Text × Value)}

namespace Fields

theorem get_eq_lookup (name : Text) (fields : Fields) : get? name fields = fields.lookup name := by
  induction fields with
  | nil => rfl
  | cons field fields ih =>
    obtain ⟨other, value⟩ := field
    rw [get?]
    split
    next same => rw [same, List.lookup_cons_self]
    next differ => rw [Association.lookup_cons_of_ne _ _ (Ne.symm differ), ih]

theorem get_eq_some (once : (fields.map Prod.fst).Nodup) :
    get? name fields = some value ↔ (name, value) ∈ fields := by
  rw [get_eq_lookup, Association.lookup_eq_some once]

theorem get_insert (name other : Text) (value : Value) (fields : Fields) :
    get? name (insert other value fields) = if other = name then some value else get? name fields := by
  induction fields with
  | nil => rfl
  | cons field fields ih =>
    obtain ⟨first, old⟩ := field
    unfold insert
    split
    · rfl
    next same =>
      obtain rfl := Std.LawfulEqCmp.eq_of_compare same
      simp only [get?]
      split <;> rfl
    next after =>
      have differ : other ≠ first := by
        rintro rfl
        have same : Text.compare other other = .eq := Std.ReflCmp.compare_self
        rw [same] at after
        cases after
      simp only [get?, ih]
      split
      next found => rw [if_neg fun same => differ (same.trans found.symm)]
      · rfl

theorem mem_insert {field : Text × Value} (member : field ∈ insert name value fields) :
    field = (name, value) ∨ field ∈ fields := by
  induction fields with
  | nil => exact .inl (List.mem_singleton.mp member)
  | cons first fields ih =>
    unfold insert at member
    split at member
    · exact List.mem_cons.mp member
    · exact (List.mem_cons.mp member).imp_right (List.mem_cons_of_mem _)
    · rcases List.mem_cons.mp member with rfl | later
      · exact .inr (List.mem_cons_self ..)
      · exact (ih later).imp_right (List.mem_cons_of_mem _)

/-! ## The order of fields -/

/-- Whether fields are in the order of their names. -/
def Ordered (fields : Fields) : Prop := fields.Pairwise fun a b => Text.compare a.1 b.1 = .lt

theorem insert_ordered (ordered : Ordered fields) : Ordered (insert name value fields) := by
  induction fields with
  | nil => exact List.pairwise_singleton _ _
  | cons first fields ih =>
    obtain ⟨later, rest⟩ := List.pairwise_cons.mp ordered
    unfold insert
    split
    next before =>
      refine List.pairwise_cons.mpr ⟨fun field member => ?_, ordered⟩
      rcases List.mem_cons.mp member with rfl | inside
      · exact before
      · exact Std.TransCmp.lt_trans before (later field inside)
    next same =>
      obtain rfl := Std.LawfulEqCmp.eq_of_compare same
      exact List.pairwise_cons.mpr ⟨later, rest⟩
    next after =>
      refine List.pairwise_cons.mpr ⟨fun field member => ?_, ih rest⟩
      rcases mem_insert member with rfl | inside
      · exact Std.OrientedCmp.lt_of_gt after
      · exact later field inside

theorem Ordered.nodup (ordered : Ordered fields) : (fields.map Prod.fst).Nodup :=
  Text.nodup_of_ascending ordered

/-! ## Objects of pairs -/

theorem get_foldl_insert (name : Text) (pairs : List (Text × Value)) (fields : Fields) :
    get? name (pairs.foldl (fun fields (name, value) => insert name value fields) fields) =
      (pairs.reverse.lookup name).or (get? name fields) := by
  induction pairs generalizing fields with
  | nil => rfl
  | cons pair pairs ih =>
    obtain ⟨first, value⟩ := pair
    rw [List.foldl_cons, ih, get_insert, List.reverse_cons, Association.lookup_snoc, Option.or_assoc]
    by_cases same : first = name
    · simp [same]
    · simp [same, Ne.symm same]

/-- The last pair of a name counts. -/
theorem get_ofPairs (name : Text) (pairs : List (Text × Value)) :
    get? name (ofPairs pairs) = pairs.reverse.lookup name := by
  rw [ofPairs, get_foldl_insert]
  exact Option.or_none

theorem mem_foldl_insert {field : Text × Value}
    (member : field ∈ pairs.foldl (fun fields (name, value) => insert name value fields) fields) :
    field ∈ pairs ∨ field ∈ fields := by
  induction pairs generalizing fields with
  | nil => exact .inr member
  | cons pair pairs ih =>
    rcases ih member with later | here
    · exact .inl (List.mem_cons_of_mem _ later)
    · rcases mem_insert here with rfl | before
      · exact .inl (List.mem_cons_self ..)
      · exact .inr before

theorem ordered_foldl_insert (ordered : Ordered fields) (pairs : List (Text × Value)) :
    Ordered (pairs.foldl (fun fields (name, value) => insert name value fields) fields) := by
  induction pairs generalizing fields with
  | nil => exact ordered
  | cons pair pairs ih => exact ih (insert_ordered ordered)

end Fields

/-! ## Values that JSON has -/

/-- Whether a value is one that JSON has: no number in it is infinite or missing, and each name of an object
stands once. -/
inductive Value.Wellformed : Value → Prop
  | null : Wellformed .null
  | bool (value : Bool) : Wellformed (.bool value)
  | int (n : Int) : Wellformed (.int n)
  | float {number : Binary64} (finite : number.isFinite = true) : Wellformed (.float number)
  | string (text : Text) : Wellformed (.string text)
  | array {items : List Value} (each : ∀ item ∈ items, Wellformed item) : Wellformed (.array items)
  | object {fields : Fields} (once : (fields.map Prod.fst).Nodup)
      (each : ∀ field ∈ fields, Wellformed field.2) : Wellformed (.object fields)

namespace Value

theorem Wellformed.ofPairs (each : ∀ pair ∈ pairs, pair.2.Wellformed) :
    (Value.object (Fields.ofPairs pairs)).Wellformed := by
  refine .object (Fields.ordered_foldl_insert List.Pairwise.nil pairs).nodup fun field member => ?_
  exact each field ((Fields.mem_foldl_insert member).resolve_right List.not_mem_nil)

theorem Wellformed.record {pairs : List (String × Value)} (each : ∀ pair ∈ pairs, pair.2.Wellformed) :
    (Value.record pairs).Wellformed := by
  refine .ofPairs fun pair member => ?_
  obtain ⟨own, inside, rfl⟩ := List.mem_map.mp member
  exact each own inside

end Value

end DocSite.Json
