/-
# DocSite.Proofs.Template.Named -- mappings from names

Keys that are names compare as the names do. So a name leads to the last value that a mapping was given for it
(`part_ofNames`), whatever else the mapping is made of.
-/
import DocSite.Proofs.Association
import DocSite.Proofs.Text.Order
import DocSite.Template.Operation

set_option autoImplicit false

namespace DocSite.Template.Value

open Text

theorem compare_plain (name other : Text) (safe : Bool) :
    compare (plain name) (.text other safe) = Text.compare name other := by
  simp [compare, plain, kind, pair?]

theorem compare_plain_of_ne {name other : Text} (differ : name ≠ other) (safe : Bool) :
    compare (plain name) (.text other safe) ≠ .eq := by
  rw [compare_plain]
  exact fun same => differ (Std.LawfulEqCmp.eq_of_compare same)

/-- Only a text compares as equal to a name, and only that of the name. -/
theorem eq_text_of_compare {name : Text} {key : Value} (same : compare (plain name) key = .eq) :
    ∃ safe, key = .text name safe := by
  cases key with
  | text other safe =>
    rw [compare_plain] at same
    exact ⟨safe, by rw [Std.LawfulEqCmp.eq_of_compare same]⟩
  | _ => simp [compare, plain, kind, Kind.rank] at same

theorem lookupKey_cons_self (name : Text) (safe : Bool) (value : Value)
    (entries : List (Value × Value)) :
    lookupKey? (plain name) ((.text name safe, value) :: entries) = some value := by
  have self : Text.compare name name = .eq := Std.ReflCmp.compare_self
  rw [lookupKey?, compare_plain, self]

theorem lookupKey_cons_of_ne {key key' : Value} (differ : compare key key' ≠ .eq) (value : Value)
    (entries : List (Value × Value)) :
    lookupKey? key ((key', value) :: entries) = lookupKey? key entries := by
  rw [lookupKey?]
  split
  · contradiction
  · rfl

theorem lookupKey_insertEntry (name other : Text) (value : Value) (entries : List (Value × Value)) :
    lookupKey? (plain name) (insertEntry (plain other) value entries) =
      if name = other then some value else lookupKey? (plain name) entries := by
  induction entries with
  | nil =>
    rw [insertEntry]
    split
    next same => rw [same]; exact lookupKey_cons_self ..
    next differ => exact lookupKey_cons_of_ne (compare_plain_of_ne differ _) ..
  | cons entry entries ih =>
    obtain ⟨key, old⟩ := entry
    rw [insertEntry]
    split
    next before =>
      split
      next same => rw [same]; exact lookupKey_cons_self ..
      next differ => exact lookupKey_cons_of_ne (compare_plain_of_ne differ _) ..
    next same =>
      obtain ⟨safe, rfl⟩ := eq_text_of_compare same
      split
      next same => rw [same, lookupKey_cons_self]
      next differ =>
        rw [lookupKey_cons_of_ne (compare_plain_of_ne differ _),
          lookupKey_cons_of_ne (compare_plain_of_ne differ _)]
    next after =>
      by_cases found : compare (plain name) key = .eq
      · have differ : name ≠ other := by
          rintro rfl
          rw [found] at after
          cases after
        obtain ⟨safe, rfl⟩ := eq_text_of_compare found
        rw [if_neg differ, lookupKey_cons_self, lookupKey_cons_self]
      · rw [lookupKey_cons_of_ne found, lookupKey_cons_of_ne found, ih]

theorem lookupKey_foldl_insertEntry (name : Text) (pairs : List (Text × Value))
    (entries : List (Value × Value)) :
    lookupKey? (plain name)
        ((pairs.map fun (name, value) => (plain name, value)).foldl
          (fun entries (key, value) => insertEntry key value entries) entries) =
      (pairs.reverse.lookup name).or (lookupKey? (plain name) entries) := by
  induction pairs generalizing entries with
  | nil => rfl
  | cons pair pairs ih =>
    obtain ⟨first, value⟩ := pair
    rw [List.map_cons, List.foldl_cons, ih, lookupKey_insertEntry, List.reverse_cons,
      Association.lookup_snoc, Option.or_assoc]
    split <;> rfl

theorem lookupKey_entriesOf (name : Text) (pairs : List (Text × Value)) :
    lookupKey? (plain name) (entriesOf (pairs.map fun (name, value) => (plain name, value))) =
      pairs.reverse.lookup name := by
  rw [entriesOf, lookupKey_foldl_insertEntry]
  exact Option.or_none

/-- The last value of a name counts. -/
theorem part_ofNames (name : Text) (pairs : List (Text × Value)) :
    (ofNames pairs).part? (plain name) = pairs.reverse.lookup name :=
  lookupKey_entriesOf name pairs

end DocSite.Template.Value
