/-
# DocSite.Proofs.Path.Order -- the order of paths is total

Parts are ordered by what they are, and names among themselves as texts (`comparePart_eq_compareLex`); paths
compare as the lists of their parts do. So the order is transitive, and two paths compare as equal just if they
have the same parts (`compare_eq_iff`). A list of paths in ascending order is known by its paths
(`Ascending.eq_of_mem_iff`).
-/
import DocSite.Path
import DocSite.Proofs.Text.Order

set_option autoImplicit false

namespace DocSite.Path

/-- The text of a part that is a name. -/
def Part.own : Part → Text
  | .name text => text
  | _ => []

theorem comparePart_eq_compareLex :
    Part.compare = compareLex (compareOn Part.rank) fun a b => Text.compare a.own b.own := by
  funext a b
  cases a <;> cases b <;> rfl

instance compareOwn_trans : Std.TransCmp fun a b : Part => Text.compare a.own b.own where
  eq_swap := Std.OrientedCmp.eq_swap
  isLE_trans := Std.TransCmp.isLE_trans

instance comparePart_trans : Std.TransCmp Part.compare := by
  rw [comparePart_eq_compareLex]; infer_instance

instance comparePart_lawful : Std.LawfulEqCmp Part.compare where
  compare_self := Std.ReflCmp.compare_self
  eq_of_compare {a b} same := by
    cases a <;> cases b <;> first | rfl | cases same | skip
    exact congrArg Part.name (Std.LawfulEqCmp.eq_of_compare same)

theorem compareParts_eq_compareLex : compareParts = List.compareLex Part.compare := by
  funext a b
  induction a generalizing b with
  | nil => cases b <;> rfl
  | cons x a ih =>
    cases b with
    | nil => rfl
    | cons y b =>
      rw [compareParts, List.compareLex_cons_cons, ih]
      cases Part.compare x y <;> rfl

instance compareParts_trans : Std.TransCmp compareParts := by
  rw [compareParts_eq_compareLex]; infer_instance

instance compareParts_lawful : Std.LawfulEqCmp compareParts := by
  rw [compareParts_eq_compareLex]; infer_instance

instance comparePath_trans : Std.TransCmp compare where
  eq_swap {p q} := @Std.OrientedCmp.eq_swap _ compareParts _ p.parts q.parts
  isLE_trans {p q r} := @Std.TransCmp.isLE_trans _ compareParts _ p.parts q.parts r.parts

/-- What two lists of parts have in common at the beginning makes no difference. -/
theorem compareParts_append (start rest rest' : List Part) :
    compareParts (start ++ rest) (start ++ rest') = compareParts rest rest' := by
  induction start with
  | nil => rfl
  | cons part start ih =>
    have same : Part.compare part part = .eq := Std.ReflCmp.compare_self
    rw [List.cons_append, List.cons_append, compareParts, same, ih]

/-- Paths compare as equal just if they have the same parts. -/
theorem compare_eq_iff {p q : Path} : compare p q = .eq ↔ p.parts = q.parts := by
  rw [compare]
  exact Std.LawfulEqCmp.compare_eq_iff_eq

/-! ## Lists of paths -/

/-- Whether paths are in ascending order, part by part, so that none stands twice. -/
def Ascending (paths : List Path) : Prop := paths.Pairwise fun p q => compare p q = .lt

/-- Paths in ascending order are known by which there are. -/
theorem Ascending.eq_of_mem_iff {paths paths' : List Path} (ascending : Ascending paths)
    (ascending' : Ascending paths')
    (same : ∀ parts, parts ∈ paths.map Path.parts ↔ parts ∈ paths'.map Path.parts) :
    paths.map Path.parts = paths'.map Path.parts := by
  have each {paths : List Path} (ascending : Ascending paths) :
      (paths.map Path.parts).Pairwise fun a b => compareParts a b = .lt := List.pairwise_map.mpr ascending
  exact Text.eq_of_ascending id (each ascending) (each ascending') same

end DocSite.Path
