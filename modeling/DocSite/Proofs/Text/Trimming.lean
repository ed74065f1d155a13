/-
# DocSite.Proofs.Text.Trimming -- white space at the ends of texts and lines

White space before or after a text makes no difference to what is left when it is trimmed
(`trimStart_append_blank`, `trimEnd_append_blank`), and a text that begins with another character keeps
this character (`trimEnd_cons`). A text is what is left of it and white space (`eq_trimEnd_append`).
-/
import DocSite.Text.Basic
import Mathlib.Data.List.DropRight

set_option autoImplicit false

namespace DocSite.Text

variable {before after text white line : Text} {c : Char}

/-! ## White space at the ends of texts -/

@[simp]
theorem blank_nil : blank [] = true := rfl

@[simp]
theorem blank_cons : blank (c :: text) = (isBlank c && blank text) := rfl

@[simp]
theorem blank_append : blank (before ++ after) = (blank before && blank after) := List.all_append

@[simp]
theorem trimStart_cons (filled : isBlank c = false) : trimStart (c :: text) = c :: text := by
  simp [trimStart, filled]

theorem trimStart_append_blank (empty : blank white = true) : trimStart (white ++ text) = trimStart text := by
  induction white with
  | nil => rfl
  | cons c white ih =>
    rw [blank_cons, Bool.and_eq_true] at empty
    have later := ih empty.2
    rw [trimStart] at later ⊢
    rw [List.cons_append, List.dropWhile_cons_of_pos empty.1, later]

theorem trimStart_append (filled : blank before = false) :
    trimStart (before ++ after) = trimStart before ++ after := by
  have some : (trimStart before).isEmpty = false := by
    by_contra nothing
    rw [Bool.not_eq_false, List.isEmpty_iff, trimStart, List.dropWhile_eq_nil_iff] at nothing
    rw [blank, List.all_eq_true.mpr nothing] at filled
    cases filled
  rw [trimStart, List.dropWhile_append, ← trimStart, some]
  rfl

theorem trimStart_sublist (part : before.Sublist after) : (trimStart before).Sublist (trimStart after) := by
  induction part with
  | slnil => exact .slnil
  | @cons before after c part ih =>
    cases empty : isBlank c with
    | true => rwa [trimStart, trimStart, List.dropWhile_cons_of_pos empty]
    | false =>
      rw [trimStart_cons empty]
      exact ((List.dropWhile_sublist _).trans part).cons c
  | @cons_cons before after c part ih =>
    cases empty : isBlank c with
    | true => rwa [trimStart, trimStart, List.dropWhile_cons_of_pos empty, List.dropWhile_cons_of_pos empty]
    | false =>
      rw [trimStart_cons empty, trimStart_cons empty]
      exact part.cons_cons c

/-- A text that is not blank has a first character that is no white space. -/
theorem exists_filled (filled : blank text = false) :
    ∃ c rest white, blank white = true ∧ isBlank c = false ∧ text = white ++ c :: rest := by
  induction text with
  | nil => cases filled
  | cons c text ih =>
    cases seen : isBlank c with
    | false => exact ⟨c, text, [], rfl, seen, rfl⟩
    | true =>
      rw [blank_cons, seen, Bool.true_and] at filled
      obtain ⟨d, rest, white, empty, found, rfl⟩ := ih filled
      exact ⟨d, rest, c :: white, by simp [seen, empty], found, rfl⟩

theorem trimEnd_append_blank (empty : blank white = true) : trimEnd (text ++ white) = trimEnd text := by
  have reversed : blank white.reverse = true := by rw [blank, List.all_reverse]; exact empty
  have same : trimStart (white.reverse ++ text.reverse) = trimStart text.reverse :=
    trimStart_append_blank reversed
  rw [trimStart] at same
  rw [trimEnd, dropEndWhile, List.reverse_append, same]
  rfl

/-- White space is all that is taken off the end of a text. -/
theorem eq_trimEnd_append (text : Text) : ∃ white, blank white = true ∧ text = trimEnd text ++ white := by
  refine ⟨text.rtakeWhile isBlank, ?_, List.rdropWhile_append_rtakeWhile.symm⟩
  exact List.all_eq_true.mpr fun c member => List.mem_rtakeWhile_imp member

theorem trimEnd_eq_nil : trimEnd text = [] ↔ blank text = true := by
  rw [blank, List.all_eq_true]
  exact List.rdropWhile_eq_nil_iff

/-- What is left of a text whose end is trimmed does not end with white space. -/
theorem trimEnd_append (filled : blank after = false) :
    trimEnd (before ++ after) = before ++ trimEnd after := by
  obtain ⟨white, empty, whole⟩ := eq_trimEnd_append after
  have left : trimEnd after ≠ [] := by
    rw [ne_eq, trimEnd_eq_nil, filled]
    exact Bool.false_ne_true
  have last := List.rdropWhile_last_not isBlank after left
  have kept : trimEnd (before ++ trimEnd after) = before ++ trimEnd after := by
    refine List.rdropWhile_eq_self_iff.mpr fun some => ?_
    rwa [List.getLast_append_of_ne_nil _ left]
  conv => lhs; rw [whole, ← List.append_assoc, trimEnd_append_blank empty, kept]

/-- What stands before texts does not matter to how their ends are trimmed. -/
theorem trimEnd_append_congr {after' : Text} (same : trimEnd after = trimEnd after') (before : Text) :
    trimEnd (before ++ after) = trimEnd (before ++ after') := by
  obtain ⟨white, empty, whole⟩ := eq_trimEnd_append after
  obtain ⟨white', empty', whole'⟩ := eq_trimEnd_append after'
  rw [whole, whole', ← List.append_assoc, ← List.append_assoc, trimEnd_append_blank empty,
    trimEnd_append_blank empty', same]

theorem trimEnd_sublist (part : before.Sublist after) : (trimEnd before).Sublist (trimEnd after) := by
  have reversed := trimStart_sublist part.reverse
  exact reversed.reverse

theorem trimEnd_cons (filled : isBlank c = false) : trimEnd (c :: text) = c :: trimEnd text := by
  by_cases empty : blank text = true
  · have single : trimEnd ([c] ++ text) = trimEnd [c] := trimEnd_append_blank empty
    rw [List.singleton_append] at single
    rw [single, trimEnd_eq_nil.mpr empty]
    exact (List.rdropWhile_singleton ..).trans (if_neg (by simp [filled]))
  · rw [Bool.not_eq_true] at empty
    have kept : trimEnd ([c] ++ text) = [c] ++ trimEnd text := trimEnd_append empty
    exact kept

@[simp]
theorem trimEnd_nil : trimEnd [] = [] := rfl

@[simp]
theorem trimEnd_trimEnd : trimEnd (trimEnd text) = trimEnd text := List.rdropWhile_idempotent ..

theorem trim_append_blank (empty : blank white = true) : trim (text ++ white) = trim text := by
  induction text with
  | nil =>
    have start : trimStart (white ++ []) = [] := trimStart_append_blank empty
    rw [List.append_nil] at start
    rw [trim, List.nil_append, start]
    rfl
  | cons c text ih =>
    cases filled : isBlank c with
    | true =>
      have skipped (rest : Text) : trim (c :: rest) = trim rest := by
        rw [trim, trimStart, List.dropWhile_cons_of_pos filled]
        rfl
      rw [List.cons_append, skipped, skipped, ih]
    | false =>
      rw [trim, trim, List.cons_append, trimStart_cons filled, trimStart_cons filled, ← List.cons_append,
        trimEnd_append_blank empty]

@[simp]
theorem trim_trimEnd : trim (trimEnd text) = trim text := by
  obtain ⟨white, empty, whole⟩ := eq_trimEnd_append text
  conv => rhs; rw [whole, trim_append_blank empty]

theorem trim_eq_nil : trim text = [] ↔ blank text = true := by
  constructor
  · intro nothing
    by_contra filled
    rw [Bool.not_eq_true] at filled
    obtain ⟨c, rest, white, empty, seen, whole⟩ := exists_filled filled
    rw [whole, trim, trimStart_append_blank empty, trimStart_cons seen, trimEnd_cons seen] at nothing
    cases nothing
  · intro empty
    have same : trim ([] ++ text) = [] := trim_append_blank empty
    exact same

/-- A text that is trimmed does not end with white space. -/
theorem filled_of_trim_eq (trimmed : trim text = before ++ after) (some : after ≠ []) :
    blank after = false := by
  by_contra empty
  rw [Bool.not_eq_false] at empty
  have same : trimEnd (before ++ after) = before ++ after := by rw [← trimmed, trim, trimEnd_trimEnd]
  rw [trimEnd_append_blank empty] at same
  have kept : trimEnd before <+: before := List.rdropWhile_prefix ..
  have lengths := kept.length_le
  rw [same, List.length_append] at lengths
  exact some (List.eq_nil_of_length_eq_zero (by omega))

/-! ## Line breaks at the beginning -/

@[simp]
theorem dropBreaks_dropBreaks : dropBreaks (dropBreaks text) = dropBreaks text := List.dropWhile_idempotent ..

/-- Only line breaks at the very beginning are dropped. -/
theorem dropBreaks_append (filled : blank before = false) :
    dropBreaks (before ++ after) = dropBreaks before ++ after := by
  have some : (dropBreaks before).isEmpty = false := by
    by_contra nothing
    rw [Bool.not_eq_false, List.isEmpty_iff, dropBreaks, List.dropWhile_eq_nil_iff] at nothing
    have empty : blank before = true := by
      refine List.all_eq_true.mpr fun c member => ?_
      rcases (by simpa using nothing c member : c = '\r' ∨ c = '\n') with rfl | rfl <;> decide
    rw [filled] at empty
    cases empty
  rw [dropBreaks] at some
  rw [dropBreaks, List.dropWhile_append, some]
  rfl

end DocSite.Text
