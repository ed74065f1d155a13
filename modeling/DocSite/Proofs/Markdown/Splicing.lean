/-
# DocSite.Proofs.Markdown.Splicing -- edits that lie one after another

Edits may come in any order; sorting them gives back the order in which they lie in the source, if no
two begin together (`sortEdits_eq`). Edits of a stretch of the source make a new stretch of it
(`Rewrites`): text that is kept, a part that is replaced, and two stretches one after the other. A whole
source is such a stretch (`Rewrites.splice_eq`).
-/
import Mathlib.Data.List.Pairwise
import DocSite.Markdown.Retarget

set_option autoImplicit false

namespace DocSite.Markdown

open Text

variable {edit : Edit} {edits ordered first second following : List Edit}

/-! ## Sorting -/

/-- Whether the first edit begins no later than the second. -/
def Edit.Before (first second : Edit) : Prop := first.span.start ≤ second.span.start

theorem insertEdit_perm (edit : Edit) (edits : List Edit) :
    (insertEdit edit edits).Perm (edit :: edits) := by
  induction edits with
  | nil => exact .refl _
  | cons e edits ih =>
    rw [insertEdit]
    split
    · exact .refl _
    · exact (ih.cons e).trans (.swap edit e edits)

theorem insertEdit_sorted (sorted : edits.Pairwise Edit.Before) :
    (insertEdit edit edits).Pairwise Edit.Before := by
  induction edits with
  | nil => exact List.pairwise_singleton _ _
  | cons e edits ih =>
    obtain ⟨least, sorted'⟩ := List.pairwise_cons.mp sorted
    rw [insertEdit]
    split
    next less =>
      refine List.pairwise_cons.mpr ⟨fun other member => ?_, sorted⟩
      rcases List.mem_cons.mp member with rfl | member
      · exact Nat.le_of_lt less
      · exact Nat.le_trans (Nat.le_of_lt less) (least other member)
    next notLess =>
      refine List.pairwise_cons.mpr ⟨fun other member => ?_, ih sorted'⟩
      rcases List.mem_cons.mp ((insertEdit_perm edit edits).mem_iff.mp member) with rfl | member
      · exact Nat.le_of_not_lt notLess
      · exact least other member

theorem sortEdits_perm (edits : List Edit) : (sortEdits edits).Perm edits := by
  have all : ∀ sorted, (edits.foldl (fun sorted edit => insertEdit edit sorted) sorted).Perm
      (sorted ++ edits) := by
    induction edits with
    | nil => simp
    | cons edit edits ih =>
      intro sorted
      exact (ih _).trans (((insertEdit_perm edit sorted).append_right edits).trans List.perm_middle.symm)
  exact all []

theorem sortEdits_sorted (edits : List Edit) : (sortEdits edits).Pairwise Edit.Before := by
  have all : ∀ sorted : List Edit, sorted.Pairwise Edit.Before →
      (edits.foldl (fun sorted edit => insertEdit edit sorted) sorted).Pairwise Edit.Before := by
    induction edits with
    | nil => exact fun _ sorted => sorted
    | cons edit edits ih => exact fun sorted kept => ih _ (insertEdit_sorted kept)
  exact all [] .nil

/-- Edits none of which begin together have one order. -/
theorem sortEdits_eq (perm : edits.Perm ordered)
    (apart : ordered.Pairwise fun first second => first.span.start < second.span.start) :
    sortEdits edits = ordered := by
  have sorted : ordered.Pairwise Edit.Before := apart.imp Nat.le_of_lt
  refine List.Perm.eq_of_pairwise (fun a b among member before after => ?_)
    (sortEdits_sorted edits) sorted
    ((sortEdits_perm edits).trans perm)
  have among' := perm.mem_iff.mp ((sortEdits_perm edits).mem_iff.mp among)
  have distinct : ordered.Pairwise fun first second => first.span.start ≠ second.span.start :=
    apart.imp Nat.ne_of_lt
  have symmetric : Std.Symm fun first second : Edit => first.span.start ≠ second.span.start :=
    ⟨fun _ _ other => other.symm⟩
  refine Classical.byContradiction fun different => ?_
  exact distinct.forall among' member different (Nat.le_antisymm before after)

/-! ## Stretches -/

/-- Whether an edit replaces some part of a stretch. -/
def Edit.Within (edit : Edit) (start stop : Nat) : Prop :=
  start ≤ edit.span.start ∧ edit.span.start < edit.span.stop ∧ edit.span.stop ≤ stop

/-- Whether no edit begins before an offset. -/
def Later (offset : Nat) (edits : List Edit) : Prop :=
  ∀ e ∈ edits.head?, offset ≤ e.span.start ∧ e.span.start ≤ e.span.stop

theorem splice_keep {offset : Nat} {text : Text} (after : Later (offset + text.length) following)
    (rest : Text) :
    splice offset (text ++ rest) following = text ++ splice (offset + text.length) rest following := by
  cases following with
  | nil => rfl
  | cons e following =>
    obtain ⟨start, stop⟩ := after e rfl
    have front : e.span.start - offset = text.length + (e.span.start - (offset + text.length)) := by
      omega
    have back : e.span.stop - offset = text.length + (e.span.stop - (offset + text.length)) := by omega
    rw [splice, splice, if_neg (by omega), if_neg (by omega), front, back, List.take_length_add_append,
      List.drop_length_add_append]
    simp

theorem splice_replace (offset : Nat) (old new rest : Text) (following : List Edit) :
    splice offset (old ++ rest) (⟨⟨offset, offset + old.length⟩, new⟩ :: following) =
      new ++ splice (offset + old.length) rest following := by
  simp [splice]

/-- Whether edits, in order, make a new text of the one that begins at an offset of the source, whatever
comes after it. -/
structure Rewrites (offset : Nat) (old : Text) (edits : List Edit) (new : Text) : Prop where
  within : ∀ e ∈ edits, e.Within offset (offset + old.length)
  apart : edits.Pairwise fun first second => first.span.start < second.span.start
  splice_append : ∀ rest following, Later (offset + old.length) following →
    splice offset (old ++ rest) (edits ++ following) =
      new ++ splice (offset + old.length) rest following

namespace Rewrites

variable {offset : Nat} {old old' new new' : Text}

theorem keep (offset : Nat) (text : Text) : Rewrites offset text [] text where
  within := nofun
  apart := .nil
  splice_append rest _ after := splice_keep after rest

theorem replace (filled : old ≠ []) (offset : Nat) (new : Text) :
    Rewrites offset old [⟨⟨offset, offset + old.length⟩, new⟩] new where
  within e member := by
    obtain rfl := List.mem_singleton.mp member
    exact ⟨Nat.le_refl _, Nat.lt_add_of_pos_right (List.length_pos_iff.mpr filled), Nat.le_refl _⟩
  apart := List.pairwise_singleton _ _
  splice_append rest following _ := splice_replace offset old new rest following

theorem later (rewrites : Rewrites offset old edits new)
    (after : Later (offset + old.length) following) : Later offset (edits ++ following) := by
  intro e member
  cases edits with
  | nil =>
    obtain ⟨start, stop⟩ := after e member
    exact ⟨by omega, stop⟩
  | cons first edits =>
    cases member
    obtain ⟨start, stop, -⟩ := rewrites.within e (List.mem_cons_self ..)
    exact ⟨start, Nat.le_of_lt stop⟩

/-- Two stretches one after the other are a stretch. -/
theorem append (one : Rewrites offset old first new)
    (two : Rewrites (offset + old.length) old' second new') :
    Rewrites offset (old ++ old') (first ++ second) (new ++ new') where
  within e member := by
    rw [List.length_append]
    rcases List.mem_append.mp member with member | member
    · obtain ⟨start, filled, stop⟩ := one.within e member
      exact ⟨start, filled, by omega⟩
    · obtain ⟨start, filled, stop⟩ := two.within e member
      exact ⟨by omega, filled, by omega⟩
  apart := by
    refine List.pairwise_append.mpr ⟨one.apart, two.apart, fun a among b member => ?_⟩
    obtain ⟨-, filled, stop⟩ := one.within a among
    obtain ⟨start, -, -⟩ := two.within b member
    omega
  splice_append rest following after := by
    have width : offset + (old ++ old').length = offset + old.length + old'.length := by
      rw [List.length_append, Nat.add_assoc]
    rw [width] at after ⊢
    rw [List.append_assoc, List.append_assoc, one.splice_append _ _ (two.later after),
      two.splice_append _ _ after, List.append_assoc]

/-- Text that is kept may stand around a stretch. -/
theorem around {start : Nat} (before after : Text) (start_eq : start = offset + before.length)
    (rewrites : Rewrites start old edits new) :
    Rewrites offset (before ++ (old ++ after)) edits (before ++ (new ++ after)) := by
  subst start_eq
  have all := (keep offset before).append (rewrites.append (keep _ after))
  rwa [List.append_nil] at all

/-- Edits of a whole source may come in any order. -/
theorem splice_eq (rewrites : Rewrites 0 old ordered new) (perm : edits.Perm ordered) :
    splice 0 old (sortEdits edits) = new := by
  have all := rewrites.splice_append [] [] nofun
  rw [sortEdits_eq perm rewrites.apart]
  simpa [splice] using all

end Rewrites

end DocSite.Markdown
