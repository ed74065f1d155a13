/-
# DocSite.Proofs.Markdown.Local -- links that stay within the site

A destination stays within the site if it begins with no scheme and with no host (`IsLocal`); a scheme is a
letter with letters, digits and a few marks after it, up to a colon (`hasScheme_iff`). The links that get a new
destination are told by three phrases instead, one of which may stand anywhere in the destination. So they are
the links to Markdown sources within the site just if the phrases tell a scheme (`retarget_local_iff`):
other schemes than that of mail are missed, and addresses in queries mislead
(`not_every_local_link_is_retargeted`).
-/
import DocSite.Proofs.Markdown.Ending

set_option autoImplicit false

namespace DocSite.Markdown

open Text

variable {dest : Text}

/-! ## Destinations within the site -/

/-- Whether a character may stand in a scheme. -/
def isSchemeChar (c : Char) : Bool := c.isAlphanum || c == '+' || c == '-' || c == '.'

/-- Whether a destination begins with a scheme, which ends at a colon. -/
def hasScheme (dest : Text) : Bool :=
  dest.head?.any Char.isAlpha && (dest.dropWhile isSchemeChar).head? == some ':'

/-- A scheme begins with a letter. -/
theorem hasScheme_iff : hasScheme dest = true ↔ ∃ first more rest, dest = first :: more ++ ':' :: rest ∧
    first.isAlpha = true ∧ ∀ c ∈ more, isSchemeChar c = true := by
  cases dest with
  | nil => simp [hasScheme]
  | cons first dest =>
    have kept (letter : first.isAlpha = true) : isSchemeChar first = true := by
      simp [isSchemeChar, Char.isAlphanum, letter]
    constructor
    · intro scheme
      obtain ⟨letter, colon⟩ := Bool.and_eq_true_iff.mp scheme
      rw [List.head?_cons, Option.any_some] at letter
      rw [List.dropWhile_cons_of_pos (kept letter), beq_iff_eq] at colon
      obtain ⟨rest, after⟩ := List.head?_eq_some_iff.mp colon
      refine ⟨first, dest.takeWhile isSchemeChar, rest, ?_, letter, ?_⟩
      · rw [List.cons_append, ← after, List.takeWhile_append_dropWhile]
      · exact fun c member => List.all_eq_true.mp List.all_takeWhile c member
    · rintro ⟨first', more, rest, same, letter, marks⟩
      obtain ⟨rfl, rfl⟩ := List.cons.inj same
      have after : (more ++ ':' :: rest).dropWhile isSchemeChar = ':' :: rest := by
        rw [List.dropWhile_append_of_pos marks, List.dropWhile_cons_of_neg (by decide)]
      rw [hasScheme, List.dropWhile_cons_of_pos (kept letter), List.append_eq, after]
      simp [letter]

/-- Whether a destination names neither a scheme nor a host: a place in the same site. -/
def IsLocal (dest : Text) : Prop := hasScheme dest = false ∧ ¬"//".toList <+: dest

/-- Whether the path of a destination ends like a Markdown source. -/
def NamesSource (dest : Text) : Prop := ∃ stem suffix, IsCut dest stem suffix

/-- Whether phrases are found by which a destination is taken for an address with a scheme. -/
def LooksAddressed (dest : Text) : Prop := "://".toList <:+: dest ∨ "mailto:".toList <+: dest

/-! ## Destinations that are left alone -/

/-- Among the destinations that end like a source, those are left alone that begin like a host or look like an
address. -/
theorem isElsewhere_of_namesSource (named : NamesSource dest) :
    isElsewhere dest = false ↔ ¬"//".toList <+: dest ∧ ¬LooksAddressed dest := by
  obtain ⟨stem, suffix, cut⟩ := named
  have path := (isCut_iff.mp cut).1
  have dotted : '.' ∈ pathOf dest := by rcases path with path | path <;> simp [path]
  -- The path is not empty, so that the destination is no mere place in the page.
  obtain ⟨c, rest, start⟩ := List.exists_cons_of_ne_nil (List.ne_nil_of_mem dotted)
  have member : c ∈ pathOf dest := by simp [start]
  have unmarked : c ≠ '#' := (unmarked_pathOf member).1
  have whole : dest = c :: (rest ++ dest.drop (pathOf dest).length) := by
    rw [← List.cons_append, ← start, pathOf_append_drop]
  have filled : dest.isEmpty = false := by rw [whole]; rfl
  have place : dropPhrase? ['#'] dest = none := by
    rw [dropPhrase_eq_none, whole, List.cons_prefix_cons, not_and]
    exact fun same => absurd same.symm unmarked
  have host : (dropPhrase? ['/', '/'] dest).isSome = false ↔ ¬"//".toList <+: dest := by
    rw [← Bool.not_eq_true, Option.not_isSome_iff_eq_none, dropPhrase_eq_none]
    rfl
  have address : containsPhrase "://".toList dest = false ↔ ¬"://".toList <:+: dest := by
    rw [← Bool.not_eq_true, containsPhrase_iff (by decide)]
  have mail : (dropPhrase? "mailto:".toList dest).isSome = false ↔ ¬"mailto:".toList <+: dest := by
    rw [← Bool.not_eq_true, Option.not_isSome_iff_eq_none, dropPhrase_eq_none]
  rw [isElsewhere, filled, place, LooksAddressed, not_or, ← host, ← address, ← mail]
  simp [and_assoc]

/-- A destination gets a new one if it ends like a source, does not begin like a host and does not look like an
address: the same with the new ending. -/
theorem retarget_eq_some_iff {extension target : Text} : retarget? extension dest = some target ↔
    (¬"//".toList <+: dest ∧ ¬LooksAddressed dest) ∧ Renames extension dest target := by
  rw [retarget_eq_some]
  refine and_congr_left fun ⟨stem, suffix, cut, _⟩ => ?_
  exact isElsewhere_of_namesSource ⟨stem, suffix, cut⟩

theorem exists_renames {extension : Text} : (∃ target, Renames extension dest target) ↔ NamesSource dest := by
  constructor
  · rintro ⟨_, stem, suffix, cut, -⟩
    exact ⟨stem, suffix, cut⟩
  · rintro ⟨stem, suffix, cut⟩
    exact ⟨_, stem, suffix, cut, rfl⟩

/-- A link gets a new destination just if its path ends like a Markdown source, it does not begin like a host, and
no phrase makes it look like an address; then only the ending changes, and what follows the path stays. So the
links to Markdown sources within the site are the ones that get a new destination just as long as each link to such
a path looks like an address if and only if it has a scheme. -/
theorem retarget_local_iff (extension dest : Text) :
    (∀ target, retarget? extension dest = some target ↔
      (¬"//".toList <+: dest ∧ ¬LooksAddressed dest) ∧ Renames extension dest target) ∧
    ((∀ target, retarget? extension dest = some target ↔ IsLocal dest ∧ Renames extension dest target) ↔
      (NamesSource dest → ¬"//".toList <+: dest → (hasScheme dest = true ↔ LooksAddressed dest))) := by
  refine ⟨fun target => retarget_eq_some_iff, ?_⟩
  constructor
  · intro all named inside
    obtain ⟨target, renamed⟩ : ∃ target, Renames extension dest target := exists_renames.mpr named
    have agree := (retarget_eq_some_iff.symm.trans (all target)).trans (and_iff_left renamed)
    rw [and_iff_left renamed, and_iff_right inside, IsLocal, and_iff_left inside] at agree
    rw [← not_iff_not, Bool.not_eq_true]
    exact agree.symm
  · intro agree target
    rw [retarget_eq_some_iff]
    refine and_congr_left fun renamed => ?_
    have named := exists_renames.mp ⟨target, renamed⟩
    rw [IsLocal, and_comm, and_congr_left_iff]
    intro inside
    rw [← Bool.not_eq_true, agree named inside]

/-- The number of a shop is taken for a page, and a page with an address in its fragment is left alone. -/
theorem not_every_local_link_is_retargeted :
    hasScheme "sip:info@shop.md".toList = true ∧
    retarget? "html".toList "sip:info@shop.md".toList = some "sip:info@shop.html".toList ∧
    IsLocal "guide.md#http://a.b".toList ∧
    retarget? "html".toList "guide.md#http://a.b".toList = none ∧
    ¬∀ extension dest target : Text,
      retarget? extension dest = some target ↔ IsLocal dest ∧ Renames extension dest target := by
  have foreign : hasScheme "sip:info@shop.md".toList = true := by decide
  have changed : retarget? "html".toList "sip:info@shop.md".toList = some "sip:info@shop.html".toList := by
    decide +kernel
  refine ⟨foreign, changed, ⟨by decide, by decide⟩, by decide +kernel, fun all => ?_⟩
  have within := ((all _ _ _).mp changed).1
  exact Bool.false_ne_true (within.1.symm.trans foreign)

end DocSite.Markdown
