/-
# DocSite.Proofs.Page.Docs -- the documentation of a page by name

Documentation is kept in the order of the names, each name once. So it is known from its members
(`inOrder_filter`), and templates see it in this order whatever order it was given in
(`entriesOf_docs`).
-/
import DocSite.Page.Record
import DocSite.Proofs.Template.Named
import Mathlib.Data.List.Sort

set_option autoImplicit false

namespace DocSite.Page.Docs

open Text
open Template (Value)

variable {name : Text} {docs : Docs} {entry : Text × Docs} {entries pairs : List (Text × Docs)}

/-- Documentation put in the order of the names. -/
def inOrder (pairs : List (Text × Docs)) : List (Text × Docs) :=
  pairs.foldl (fun entries (name, docs) => insert name docs entries) []

/-- Whether documentation is in the order of the names, each name once. -/
def Ordered (entries : List (Text × Docs)) : Prop :=
  entries.Pairwise fun a b => Text.compare a.1 b.1 = .lt

theorem mem_insert (member : entry ∈ insert name docs entries) :
    entry = (name, docs) ∨ entry ∈ entries := by
  induction entries with
  | nil => exact .inl (List.mem_singleton.mp member)
  | cons first entries ih =>
    unfold insert at member
    split at member
    · exact List.mem_cons.mp member
    · exact (List.mem_cons.mp member).imp_right (List.mem_cons_of_mem _)
    · rcases List.mem_cons.mp member with rfl | later
      · exact .inr (List.mem_cons_self ..)
      · exact (ih later).imp_right (List.mem_cons_of_mem _)

theorem mem_foldl_insert
    (member : entry ∈ pairs.foldl (fun entries (name, docs) => insert name docs entries) entries) :
    entry ∈ pairs ∨ entry ∈ entries := by
  induction pairs generalizing entries with
  | nil => exact .inr member
  | cons pair pairs ih =>
    rw [List.foldl_cons] at member
    rcases ih member with later | here
    · exact .inl (List.mem_cons_of_mem _ later)
    · rcases mem_insert here with rfl | before
      · exact .inl (List.mem_cons_self ..)
      · exact .inr before

/-! ## Order -/

theorem insert_perm (new : name ∉ entries.map Prod.fst) :
    (insert name docs entries).Perm ((name, docs) :: entries) := by
  induction entries with
  | nil => exact .refl _
  | cons first rest ih =>
    obtain ⟨other, old⟩ := first
    rw [List.map_cons, List.mem_cons, not_or] at new
    unfold insert
    split
    · exact .refl _
    next same => exact absurd (Std.LawfulEqCmp.eq_of_compare same) new.1
    · exact ((ih new.2).cons _).trans (.swap _ _ _)

theorem ordered_insert (name : Text) (docs : Docs) (ordered : Ordered entries) :
    Ordered (insert name docs entries) := by
  induction entries with
  | nil => exact List.pairwise_singleton ..
  | cons first rest ih =>
    obtain ⟨other, old⟩ := first
    obtain ⟨ahead, later⟩ := List.pairwise_cons.mp ordered
    unfold insert
    split
    next before =>
      refine List.pairwise_cons.mpr ⟨fun member taken => ?_, ordered⟩
      rcases List.mem_cons.mp taken with rfl | taken
      · exact before
      · exact Std.TransCmp.lt_trans before (ahead member taken)
    next same =>
      obtain rfl := Std.LawfulEqCmp.eq_of_compare same
      exact List.pairwise_cons.mpr ⟨ahead, later⟩
    next after =>
      refine List.pairwise_cons.mpr ⟨fun member taken => ?_, ih later⟩
      rcases mem_insert taken with rfl | taken
      · exact Std.OrientedCmp.lt_of_gt after
      · exact ahead member taken

theorem inOrder_snoc (pairs : List (Text × Docs)) (name : Text) (docs : Docs) :
    inOrder (pairs ++ [(name, docs)]) = insert name docs (inOrder pairs) := by
  simp [inOrder]

theorem ordered_inOrder (pairs : List (Text × Docs)) : Ordered (inOrder pairs) := by
  induction pairs using List.reverseRecOn with
  | nil => exact List.Pairwise.nil
  | append_singleton pairs pair ih => exact inOrder_snoc pairs .. ▸ ordered_insert _ _ ih

theorem inOrder_perm (distinct : (pairs.map Prod.fst).Nodup) : (inOrder pairs).Perm pairs := by
  induction pairs using List.reverseRecOn with
  | nil => exact .refl _
  | append_singleton pairs pair ih =>
    obtain ⟨name, docs⟩ := pair
    rw [List.map_append, List.map_singleton, List.nodup_append_comm, List.singleton_append,
      List.nodup_cons] at distinct
    obtain ⟨new, distinct⟩ := distinct
    have placed := ih distinct
    have new' : name ∉ (inOrder pairs).map Prod.fst := fun member =>
      new ((placed.map Prod.fst).mem_iff.mp member)
    rw [inOrder_snoc]
    exact ((insert_perm new').trans (placed.cons _)).trans (List.perm_append_singleton _ _).symm

/-- Documentation in order is known from its members. -/
theorem Ordered.eq_of_perm {entries' : List (Text × Docs)} (ordered : Ordered entries)
    (ordered' : Ordered entries') (same : entries.Perm entries') : entries = entries' :=
  Text.eq_of_ascending Prod.fst ordered ordered' fun _ => same.mem_iff

/-- What is left out makes no difference to the order of the others. -/
theorem inOrder_filter (keep : Text × Docs → Bool) (distinct : (pairs.map Prod.fst).Nodup) :
    inOrder (pairs.filter keep) = (inOrder pairs).filter keep := by
  have distinct' : ((pairs.filter keep).map Prod.fst).Nodup :=
    distinct.sublist (List.filter_sublist.map _)
  exact (ordered_inOrder _).eq_of_perm ((ordered_inOrder pairs).sublist List.filter_sublist)
    ((inOrder_perm distinct').trans ((inOrder_perm distinct).filter keep).symm)

/-! ## As templates see it -/

/-- An entry of the documentation of a page as templates see it. -/
def seen (entry : Text × Docs) : Value × Value := (.plain entry.1, entry.2.value)

theorem insertEntry_seen (name : Text) (docs : Docs) (entries : List (Text × Docs)) :
    Value.insertEntry (.plain name) docs.value (entries.map seen) =
      (insert name docs entries).map seen := by
  induction entries with
  | nil => rfl
  | cons first rest ih =>
    obtain ⟨other, old⟩ := first
    have same : Value.compare (.plain name) (.plain other) = Text.compare name other :=
      Value.compare_plain ..
    rw [List.map_cons, seen, Value.insertEntry, same, insert]
    cases order : Text.compare name other with
    | lt => rfl
    | eq =>
      obtain rfl := Std.LawfulEqCmp.eq_of_compare order
      rfl
    | gt => rw [List.map_cons, ih]; rfl

theorem entriesOf_docs (pairs : List (Text × Docs)) :
    Value.entriesOf (pairs.map seen) = (inOrder pairs).map seen := by
  induction pairs using List.reverseRecOn with
  | nil => rfl
  | append_singleton pairs pair ih =>
    rw [inOrder_snoc, ← insertEntry_seen, ← ih, Value.entriesOf, Value.entriesOf, List.map_append,
      List.foldl_append]
    rfl

end DocSite.Page.Docs
