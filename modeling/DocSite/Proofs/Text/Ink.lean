/-
# DocSite.Proofs.Text.Ink -- what is written in a text besides white space

The ink of a text are its characters that are no white space. Trimming a text and setting line breaks between
texts change no ink (`ink_trim`, `ink_join`), and what stands in a text without white space at its own ends
still stands there as a whole when the text is trimmed (`infix_trim`).
-/
import DocSite.Proofs.Text.Trimming
import Mathlib.Data.List.Infix

set_option autoImplicit false

namespace DocSite.Text

variable {before after text white part : Text} {c : Char}

/-- The characters of a text that are no white space. -/
def ink (text : Text) : Text := text.filter fun c => !isBlank c

@[simp]
theorem ink_append : ink (before ++ after) = ink before ++ ink after := List.filter_append ..

theorem ink_of_blank (empty : blank white = true) : ink white = [] := by
  refine List.filter_eq_nil_iff.mpr fun c member => ?_
  simp [List.all_eq_true.mp empty c member]

theorem ink_of_filled (filled : ∀ c ∈ text, isBlank c = false) : ink text = text :=
  List.filter_eq_self.mpr fun c member => by simp [filled c member]

/-! ## Trimming -/

/-- White space is all that is taken off the beginning of a text. -/
theorem eq_append_trimStart (text : Text) : ∃ white, blank white = true ∧ text = white ++ trimStart text :=
  ⟨text.takeWhile isBlank, List.all_takeWhile, List.takeWhile_append_dropWhile.symm⟩

theorem ink_trimStart (text : Text) : ink (trimStart text) = ink text := by
  obtain ⟨white, empty, whole⟩ := eq_append_trimStart text
  conv => rhs; rw [whole, ink_append, ink_of_blank empty, List.nil_append]

theorem ink_trimEnd (text : Text) : ink (trimEnd text) = ink text := by
  obtain ⟨white, empty, whole⟩ := eq_trimEnd_append text
  conv => rhs; rw [whole, ink_append, ink_of_blank empty, List.append_nil]

theorem ink_trim (text : Text) : ink (trim text) = ink text := by
  rw [trim, ink_trimEnd, ink_trimStart]

theorem trimStart_trim (text : Text) : trimStart (trim text) = trim text := by
  cases filled : blank text with
  | true =>
    rw [trim_eq_nil.mpr filled]
    rfl
  | false =>
    obtain ⟨c, rest, white, empty, seen, rfl⟩ := exists_filled filled
    rw [trim, trimStart_append_blank empty, trimStart_cons seen, trimEnd_cons seen, trimStart_cons seen]

theorem trimEnd_trim (text : Text) : trimEnd (trim text) = trim text := trimEnd_trimEnd

@[simp]
theorem trim_trim (text : Text) : trim (trim text) = trim text := by
  rw [trim, trimStart_trim, trimEnd_trim]

theorem infix_trimStart (inside : part <:+: text) (begins : trimStart part = part) :
    part <:+: trimStart text := by
  obtain ⟨before, after, rfl⟩ := inside
  cases empty : blank before with
  | true =>
    have first : trimStart (before ++ part ++ after) = trimStart (part ++ after) := by
      rw [List.append_assoc, trimStart_append_blank empty]
    rw [first]
    cases part with
    | nil => exact List.nil_infix
    | cons c rest =>
      have seen : isBlank c = false := by
        by_contra white
        rw [Bool.not_eq_false] at white
        have shorter := (List.dropWhile_sublist isBlank (l := rest)).length_le
        rw [trimStart, List.dropWhile_cons_of_pos white] at begins
        rw [begins, List.length_cons] at shorter
        omega
      rw [List.cons_append, trimStart_cons seen]
      exact List.infix_append [] (c :: rest) after
  | false =>
    rw [List.append_assoc, trimStart_append empty, ← List.append_assoc]
    exact List.infix_append ..

theorem infix_trimEnd (inside : part <:+: text) (ends : trimEnd part = part) : part <:+: trimEnd text := by
  have reversed : part.reverse <:+: text.reverse := List.reverse_infix.mpr inside
  have begins : trimStart part.reverse = part.reverse := by
    have same := congrArg List.reverse ends
    rwa [trimEnd, dropEndWhile, List.reverse_reverse] at same
  have kept := List.reverse_infix.mpr (infix_trimStart reversed begins)
  rwa [List.reverse_reverse] at kept

/-- What has no white space at its own ends stays whole when a text around it is trimmed. -/
theorem infix_trim (inside : part <:+: text) (trimmed : trim part = part) : part <:+: trim text := by
  have begins : trimStart part = part := by rw [← trimmed, trimStart_trim]
  have ends : trimEnd part = part := by rw [← trimmed, trimEnd_trim]
  exact infix_trimEnd (infix_trimStart inside begins) ends

theorem trim_infix (text : Text) : trim text <:+: text :=
  ((List.rdropWhile_prefix ..).isInfix).trans (List.dropWhile_suffix _).isInfix

/-! ## Joining -/

theorem join_cons_cons (separator first next : Text) (pieces : List Text) :
    join separator (first :: next :: pieces) = first ++ separator ++ join separator (next :: pieces) := rfl

/-- A text that is joined already is as good as its pieces. -/
theorem join_joined (separator first next : Text) (pieces : List Text) :
    join separator ((first ++ separator ++ next) :: pieces) = join separator (first :: next :: pieces) := by
  cases pieces with
  | nil => rfl
  | cons last pieces => simp only [join_cons_cons, List.append_assoc]

theorem ink_join (pieces : List Text) : ink (join ['\n'] pieces) = ink pieces.flatten := by
  induction pieces with
  | nil => rfl
  | cons piece pieces ih =>
    cases pieces with
    | nil => simp [join]
    | cons next pieces =>
      have break_ : ink ['\n'] = [] := ink_of_blank (by decide)
      rw [join_cons_cons, ink_append, ink_append, break_, List.append_nil, ih, ← ink_append]
      rfl

theorem infix_join {separator piece : Text} {pieces : List Text} (member : piece ∈ pieces) :
    piece <:+: join separator pieces := by
  induction pieces with
  | nil => cases member
  | cons first pieces ih =>
    cases pieces with
    | nil =>
      rw [List.mem_singleton.mp member]
      exact List.infix_refl _
    | cons next pieces =>
      rw [join_cons_cons]
      rcases List.mem_cons.mp member with rfl | later
      · rw [List.append_assoc]
        exact (List.prefix_append ..).isInfix
      · exact (ih later).trans (List.suffix_append ..).isInfix

end DocSite.Text
