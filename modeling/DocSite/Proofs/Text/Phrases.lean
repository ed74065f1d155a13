/-
# DocSite.Proofs.Text.Phrases -- phrases at the beginning, at the end and within a text

A phrase is found at the beginning of a text just if the text goes on after it (`dropPhrase_eq_some`),
and within a text just if the text has it as an infix (`containsPhrase_iff`). The first occurrence is
found if its first character does not occur before it (`indexOf_append`). A text is read up to a mark
if the mark does not occur in it (`takeWhile_mark`).
-/
import DocSite.Text.Basic
import Mathlib.Data.List.Infix

set_option autoImplicit false

namespace DocSite.Text

variable {phrase text before after : Text}

/-! ## Up to a mark -/

theorem takeWhile_free {mark : Char} (free : mark ∉ text) (after : Text) :
    (text ++ after).takeWhile (· != mark) = text ++ after.takeWhile (· != mark) := by
  refine List.takeWhile_append_of_pos fun c member => ?_
  exact bne_iff_ne.mpr (ne_of_mem_of_not_mem member free)

theorem takeWhile_mark {mark : Char} (free : mark ∉ text) (after : Text) :
    (text ++ mark :: after).takeWhile (· != mark) = text := by
  rw [takeWhile_free free, List.takeWhile_cons_of_neg (by simp), List.append_nil]

/-! ## Phrases -/

theorem dropPhrase_eq_some : dropPhrase? phrase text = some after ↔ text = phrase ++ after := by
  constructor
  · intro found
    exact (append_of_dropPhrase? found).symm
  · rintro rfl
    induction phrase with
    | nil => rfl
    | cons p phrase ih => simpa [dropPhrase?] using ih

theorem dropPhrase_eq_none : dropPhrase? phrase text = none ↔ ¬phrase <+: text := by
  rw [← Option.not_isSome_iff_eq_none, Option.isSome_iff_exists]
  constructor
  · rintro missing ⟨rest, rfl⟩
    exact missing ⟨rest, dropPhrase_eq_some.mpr rfl⟩
  · rintro missing ⟨rest, found⟩
    exact missing ⟨rest, (dropPhrase_eq_some.mp found).symm⟩

theorem splitFirst_eq_none (filled : phrase ≠ []) :
    splitFirst? phrase text = none ↔ ¬phrase <:+: text := by
  induction text with
  | nil => simp [splitFirst?, dropPhrase_eq_none, filled]
  | cons c rest ih =>
    rw [splitFirst?, List.infix_cons_iff, not_or, ← dropPhrase_eq_none]
    cases found : dropPhrase? phrase (c :: rest) with
    | some after => simp
    | none => simp [ih]

theorem containsPhrase_iff (filled : phrase ≠ []) :
    containsPhrase phrase text = true ↔ phrase <:+: text := by
  rw [containsPhrase, Option.isSome_iff_ne_none, ne_eq, splitFirst_eq_none filled, not_not]

/-- A phrase cannot begin before its first character occurs. -/
theorem infix_append_of_not_mem {p : Char} (fresh : p ∉ before) :
    p :: phrase <:+: before ++ text ↔ p :: phrase <:+: text := by
  induction before with
  | nil => rfl
  | cons c before ih =>
    rw [List.mem_cons, not_or] at fresh
    have other : ¬p :: phrase <+: c :: (before ++ text) := fun start =>
      fresh.1 (List.cons_prefix_cons.mp start).1
    rw [List.cons_append, List.infix_cons_iff, ih fresh.2]
    simp [other]

/-- A phrase is first found where its first character first occurs, if it stands there. -/
theorem splitFirst_append {p : Char} (fresh : p ∉ before) :
    splitFirst? (p :: phrase) (before ++ p :: phrase ++ after) = some (before, after) := by
  induction before with
  | nil =>
    have here := dropPhrase_eq_some.mpr (rfl : p :: phrase ++ after = p :: phrase ++ after)
    rw [List.cons_append] at here
    rw [List.nil_append, List.cons_append, splitFirst?, here]
  | cons c before ih =>
    rw [List.mem_cons, not_or] at fresh
    have later : dropPhrase? (p :: phrase) (c :: (before ++ p :: phrase ++ after)) = none := by
      rw [dropPhrase?, if_neg fresh.1]
    rw [List.cons_append, List.cons_append, splitFirst?, later, ih fresh.2]
    rfl

theorem indexOf_append {p : Char} (fresh : p ∉ before) (after : Text) :
    indexOf? (p :: phrase) (before ++ p :: phrase ++ after) = some before.length := by
  rw [indexOf?, splitFirst_append fresh]
  rfl

/-- A phrase whose last character is only its last is first found behind a text without the phrase: it
cannot begin in that text and end in its own first characters. -/
theorem splitFirst_of_last {mark : Text} {q : Char} (once : q ∉ mark) (free : ¬mark ++ [q] <:+: before)
    (after : Text) :
    splitFirst? (mark ++ [q]) (before ++ (mark ++ [q]) ++ after) = some (before, after) := by
  induction before with
  | nil =>
    have here := dropPhrase_eq_some.mpr (rfl : mark ++ [q] ++ after = mark ++ [q] ++ after)
    obtain ⟨c, rest, whole⟩ : ∃ c rest, mark ++ [q] ++ after = c :: rest :=
      List.exists_cons_of_ne_nil (by simp)
    rw [whole] at here
    rw [List.nil_append, whole, splitFirst?, here]
  | cons c before ih =>
    have later : dropPhrase? (mark ++ [q]) (c :: before ++ (mark ++ [q]) ++ after) = none := by
      rw [dropPhrase_eq_none, List.append_assoc]
      intro start
      rcases List.prefix_or_prefix_of_prefix start (List.prefix_append (c :: before) _) with inside | longer
      · exact free inside.isInfix
      · obtain ⟨ending, whole⟩ := longer
        have again : ending <+: mark ++ [q] ++ after :=
          (List.prefix_append_right_inj (c :: before)).mp (by rwa [whole])
        rcases ending.eq_nil_or_concat' with rfl | ⟨more, last, rfl⟩
        · rw [List.append_nil] at whole
          exact free (whole ▸ List.infix_refl _)
        · rw [← List.append_assoc] at whole
          obtain ⟨head, same⟩ := List.append_inj' whole rfl
          obtain rfl : last = q := List.singleton_inj.mp same
          have short : (more ++ [last]).length ≤ mark.length := by
            rw [← head]
            simp
          have inside : more ++ [last] <+: mark := by
            rw [List.append_assoc] at again
            exact List.prefix_of_prefix_length_le again (List.prefix_append mark _) short
          exact once (inside.mem (by simp))
    rw [List.infix_cons_iff, not_or] at free
    rw [List.cons_append, List.cons_append] at later ⊢
    rw [splitFirst?, later, ih free.2]
    rfl

/-- A pair of different characters is first found behind a text without it. -/
theorem indexOf_pair {p q : Char} (differ : p ≠ q) (free : ¬[p, q] <:+: before) (after : Text) :
    indexOf? [p, q] (before ++ [p, q] ++ after) = some before.length := by
  have split : splitFirst? ([p] ++ [q]) (before ++ ([p] ++ [q]) ++ after) = some (before, after) :=
    splitFirst_of_last (by simpa using Ne.symm differ) free after
  rw [List.singleton_append] at split
  rw [indexOf?, split]
  rfl

end DocSite.Text
