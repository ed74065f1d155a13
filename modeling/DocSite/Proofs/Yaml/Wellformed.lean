/-
# DocSite.Proofs.Yaml.Wellformed -- values that documents have

In a `Wellformed` value no mapping has the same key twice. The values that are read from documents are so
(`wellformed_read`), as the reader refuses a key that it knows, however deep the mapping is and whatever aliases
lead to it.
-/
import DocSite.Yaml.Reader

set_option autoImplicit false

namespace DocSite.Yaml

variable {value : Value} {entries known : Entries} {text : Text}

namespace Entries

/-- Whether all keys are different. -/
def Distinct (entries : Entries) : Prop := entries.Pairwise fun a b => b.1.same a.1 = false

theorem mem_of_get {key : Text} (found : entries.get? key = some value) :
    (Value.string key, value) ∈ entries := by
  induction entries with
  | nil => cases found
  | cons first rest ih =>
    obtain ⟨first, old⟩ := first
    unfold get? at found
    split at found
    · split at found
      next same =>
        cases found
        rw [← same]
        exact List.mem_cons_self
      · exact .tail _ (ih found)
    · exact .tail _ (ih found)

end Entries

/-- Whether no mapping in a value has the same key twice. -/
inductive Value.Wellformed : Value → Prop
  | null : Wellformed .null
  | bool (value : Bool) : Wellformed (.bool value)
  | int (n : Int) : Wellformed (.int n)
  | float (number : Binary64) : Wellformed (.float number)
  | string (text : Text) : Wellformed (.string text)
  | sequence {items : List Value} (each : ∀ item ∈ items, Wellformed item) : Wellformed (.sequence items)
  | mapping {entries : Entries} (distinct : entries.Distinct) (keys : ∀ entry ∈ entries, Wellformed entry.1)
      (values : ∀ entry ∈ entries, Wellformed entry.2) : Wellformed (.mapping entries)
  | tagged (tag : Text) {value : Value} (inside : Wellformed value) : Wellformed (.tagged tag value)

namespace Value.Wellformed

theorem of_mapping (wellformed : (Value.mapping entries).Wellformed) :
    entries.Distinct ∧ (∀ entry ∈ entries, entry.1.Wellformed) ∧ ∀ entry ∈ entries, entry.2.Wellformed := by
  cases wellformed with
  | mapping distinct keys values => exact ⟨distinct, keys, values⟩

theorem empty : (Value.mapping []).Wellformed := .mapping .nil nofun nofun

/-- A new key may be put after the others. -/
theorem snoc {key : Value} (wellformed : (Value.mapping entries).Wellformed)
    (new : ∀ entry ∈ entries, key.same entry.1 = false) (wellformedKey : key.Wellformed)
    (wellformedValue : value.Wellformed) : (Value.mapping (entries ++ [(key, value)])).Wellformed := by
  obtain ⟨distinct, keys, values⟩ := wellformed.of_mapping
  refine .mapping (List.pairwise_append.mpr ⟨distinct, List.pairwise_singleton .., ?_⟩) ?_ ?_
  · intro entry member last inside
    cases List.mem_singleton.mp inside
    exact new entry member
  · exact List.forall_mem_append.mpr ⟨keys, List.forall_mem_singleton.mpr wellformedKey⟩
  · exact List.forall_mem_append.mpr ⟨values, List.forall_mem_singleton.mpr wellformedValue⟩

/-- The mapping that a value is, whether it is tagged or not, has each key once. -/
theorem distinct (wellformed : value.Wellformed) (mapping : value.mapping? = some entries) :
    entries.Distinct := by
  induction wellformed with
  | tagged _ _ ih => exact ih mapping
  | mapping distinct =>
    cases mapping
    exact distinct
  | _ => cases mapping

end Value.Wellformed

/-! ## Reading -/

namespace Scalar

theorem wellformed_resolve (read : resolve? text = some value) : value.Wellformed := by
  unfold resolve? at read
  repeat' split at read
  all_goals cases read
  all_goals constructor

theorem wellformed_resolveTagged {tag : Text} {plain : Bool} (read : resolveTagged? tag text plain = some value) :
    value.Wellformed := by
  unfold resolveTagged? at read
  split at read
  · obtain ⟨b, -, rfl⟩ := Option.map_eq_some_iff.mp read
    exact .bool b
  split at read
  · obtain ⟨n, -, kept⟩ := Option.bind_eq_some_iff.mp read
    split at kept <;> cases kept
    exact .int n
  split at read
  · obtain ⟨number, -, rfl⟩ := Option.map_eq_some_iff.mp read
    exact .float number
  split at read
  · split at read <;> cases read
    exact .null
  split at read
  · exact wellformed_resolve read
  · cases read
    exact .string text

end Scalar

namespace Reader

theorem wellformed_withTag (tag : Option Text) (wellformed : value.Wellformed) :
    (withTag tag value).Wellformed := by
  unfold withTag
  split
  · exact .tagged _ wellformed
  · exact wellformed

theorem wellformed_scalar {tag : Option Text} {plain : Bool} (read : scalar? tag plain text = some value) :
    value.Wellformed := by
  have bare {value : Value} (read : (if plain then Scalar.resolve? text else some (.string text)) = some value) :
      value.Wellformed := by
    split at read
    · exact Scalar.wellformed_resolve read
    · cases read
      exact .string text
  unfold scalar? at read
  split at read
  · obtain ⟨value, inside, rfl⟩ := Option.map_eq_some_iff.mp read
    exact .tagged _ (bare inside)
  · exact Scalar.wellformed_resolveTagged read
  · exact bare read

section Parts

variable {read : Nat → Node → Option (Value × Nat)} {jumps jumps' : Nat}
variable (each : ∀ {jumps node value jumps'}, read jumps node = some (value, jumps') → value.Wellformed)
include each

theorem wellformed_items {nodes : List Node} {values : List Value}
    (done : items? read jumps nodes = some (values, jumps')) : ∀ value ∈ values, value.Wellformed := by
  induction nodes generalizing jumps values with
  | nil =>
    cases done
    exact nofun
  | cons node nodes ih =>
    obtain ⟨⟨first, jumps⟩, here, later⟩ := Option.bind_eq_some_iff.mp done
    obtain ⟨⟨rest, jumps⟩, there, same⟩ := Option.map_eq_some_iff.mp later
    cases same
    exact List.forall_mem_cons.mpr ⟨each here, ih there⟩

theorem wellformed_entries {nodes : List (Node × Node)}
    (done : entries? read jumps known nodes = some (entries, jumps'))
    (before : (Value.mapping known.reverse).Wellformed) : (Value.mapping entries).Wellformed := by
  induction nodes generalizing jumps known with
  | nil =>
    cases done
    exact before
  | cons node nodes ih =>
    obtain ⟨⟨key, jumps⟩, here, later⟩ := Option.bind_eq_some_iff.mp done
    dsimp only at later
    split at later
    · cases later
    next new =>
      obtain ⟨⟨value, jumps⟩, there, rest⟩ := Option.bind_eq_some_iff.mp later
      refine ih rest ?_
      rw [List.reverse_cons]
      refine before.snoc (fun entry member => ?_) (each here) (each there)
      rw [hasKey, Bool.not_eq_true, List.any_eq_false] at new
      exact Bool.eq_false_iff.mpr (new entry (List.mem_reverse.mp member))

end Parts

theorem wellformed_value {context : Context} {fuel depth jumps jumps' : Nat} {node : Node}
    (read : value? context fuel depth jumps node = some (value, jumps')) : value.Wellformed := by
  induction fuel generalizing depth jumps node value jumps' with
  | zero => cases read
  | succ fuel ih =>
    match node, read with
    | .alias number, read =>
      rw [value?] at read
      split at read
      · cases read
      · obtain ⟨target, -, followed⟩ := Option.bind_eq_some_iff.mp read
        exact ih followed
    | .scalar tag plain text, read =>
      obtain ⟨value, scalar, same⟩ := Option.map_eq_some_iff.mp read
      cases same
      exact wellformed_scalar scalar
    | .sequence tag items, read =>
      rw [value?] at read
      split at read
      · cases read
      · obtain ⟨⟨values, jumps⟩, done, same⟩ := Option.map_eq_some_iff.mp read
        cases same
        exact wellformed_withTag tag (.sequence (wellformed_items ih done))
    | .mapping tag nodes, read =>
      rw [value?] at read
      split at read
      · cases read
      · obtain ⟨⟨entries, jumps⟩, done, same⟩ := Option.map_eq_some_iff.mp read
        cases same
        exact wellformed_withTag tag (wellformed_entries ih done .empty)

end Reader

theorem wellformed_read (read : read? text = some value) : value.Wellformed := by
  unfold read? at read
  split at read
  · cases read
  · cases read
    exact .null
  · obtain ⟨⟨value, jumps⟩, done, rfl⟩ := Option.map_eq_some_iff.mp read
    exact Reader.wellformed_value done

end DocSite.Yaml
