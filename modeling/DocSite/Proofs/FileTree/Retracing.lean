/-
# DocSite.Proofs.FileTree.Retracing -- writes that are made a second time

A second run of writes begins with the tree that the first run has left. On the way it never has anything
that neither the first run had at this point nor has left (`Retraced`): directories that the first run
made are there already (`Retraced.makes`), and a file that is written takes the text that it had at this point
of the first run (`Retraced.writes`). Once the first run is through, so is the second, and nothing has
changed (`Retraced.eq`).
-/
import DocSite.Proofs.FileTree.Listing
import DocSite.Proofs.FileTree.Writing

set_option autoImplicit false

namespace DocSite.FileTree

open Text
open DocSite.Path (IsName Part)

variable {t t' s u : FileTree} {path : Path} {place target : List Text}

/-! ## Wellformed trees -/

/-- A wellformed tree is known from what is found in it. -/
theorem Wellformed.ext (wellformed : t.Wellformed) (wellformed' : s.Wellformed)
    (home : s.home = t.home) (same : ∀ place, s.lookup place = t.lookup place) : s = t := by
  have entries : s.entries = t.entries :=
    wellformed'.ordered.eq_of_mem_iff wellformed.ordered fun (place, entry) => by
      rw [wellformed'.mem_entries, wellformed.mem_entries, same]
  cases s
  cases t
  simp_all

/-- The directory above a directory is one, too. -/
theorem Wellformed.directory_dropLast (wellformed : t.Wellformed)
    (directory : t.lookup place = some .directory) :
    t.lookup place.dropLast = some .directory := by
  by_cases filled : place = []
  · simp [filled]
  · refine wellformed.rooted _ (place.getLast filled) ?_
    rw [List.dropLast_append_getLast, directory]
    rfl

/-- Making directories on the way leaves a tree wellformed, and ends at a directory. -/
theorem Wellformed.reached {parts : List Part} (wellformed : t.Wellformed)
    (directory : t.lookup place = some .directory)
    (named : ∀ name, Part.name name ∈ parts → IsName name)
    (made : t.reach place parts = .ok (s, target)) :
    s.Wellformed ∧ s.lookup target = some .directory := by
  induction parts generalizing t place with
  | nil =>
    cases made
    exact ⟨wellformed, directory⟩
  | cons part parts ih =>
    have later : ∀ name, Part.name name ∈ parts → IsName name :=
      fun name member => named name (List.mem_cons_of_mem _ member)
    cases part with
    | root => exact ih wellformed (lookup_root t) later made
    | here => exact ih wellformed directory later made
    | up => exact ih wellformed (wellformed.directory_dropLast directory) later made
    | name name =>
      rw [reach] at made
      split at made
      next there => exact ih wellformed there later made
      · cases made
      next free =>
        have wellformed' := wellformed.put directory (named name (List.mem_cons_self ..)) .directory
          (Or.inl rfl)
        have there : (t.put (place ++ [name]) .directory).lookup (place ++ [name]) =
            some .directory := by rw [lookup_put (by simp), if_pos rfl]
        exact ih wellformed' there later made

/-- Nothing is made any more on a way that has been made. -/
theorem reach_again {parts : List Part} (made : t.reach place parts = .ok (s, target))
    (grown : Extends s u) : u.reach place parts = .ok (u, target) := by
  induction parts generalizing t place with
  | nil =>
    cases made
    rfl
  | cons part parts ih =>
    cases part with
    | root | here | up => exact ih made
    | name name =>
      have onward : ∀ {t : FileTree}, t.lookup (place ++ [name]) = some .directory →
          t.reach (place ++ [name]) parts = .ok (s, target) →
          u.reach place (.name name :: parts) = .ok (u, target) := by
        intro t there made
        have stays := grown.directory _ ((extends_reach made).directory _ there)
        rw [reach, stays]
        exact ih made
      rw [reach] at made
      split at made
      next there => exact onward there made
      · cases made
      next free => exact onward (by rw [lookup_put (by simp), if_pos rfl]) made

/-- The place of a file that is written is a name in a directory. -/
theorem place_of_ending (ending : endsWithName path = true) (located : t.locate? path = some place) :
    ∃ upper name, place = upper ++ [name] ∧ IsName name := by
  have last : path.name?.isSome := (Bool.and_eq_true_iff.mp ending).1
  unfold Path.name? at last
  split at last
  next name found =>
    obtain ⟨before, parts⟩ := List.getLast?_eq_some_iff.mp found
    have named : IsName name := Path.isName_of_mem_parts (p := path) (by simp [parts])
    rw [locate?, parts, follow_append] at located
    obtain ⟨upper, -, step⟩ := Option.bind_eq_some_iff.mp located
    rw [follow] at step
    split at step
    · cases step
      exact ⟨upper, name, rfl, named⟩
    · cases step
  · cases last

/-- A text that is written goes to a name in a directory that is there. -/
theorem put_of_writeText {text : Text} (written : t.writeText path text = .ok s) :
    ∃ upper name, IsName name ∧ t.locate? path = some (upper ++ [name]) ∧
      t.lookup upper = some .directory ∧ t.lookup (upper ++ [name]) ≠ some .directory ∧
      s = t.put (upper ++ [name]) (.file (.text text)) := by
  obtain ⟨ending, place, located, put⟩ := writeText_eq_ok.mp written
  obtain ⟨-, parent, free, rfl⟩ := writeFile_eq_some.mp put
  obtain ⟨upper, name, rfl, named⟩ := place_of_ending ending located
  rw [List.dropLast_concat] at parent
  exact ⟨upper, name, named, located, parent, free, rfl⟩

theorem Wellformed.writeText {text : Text} (wellformed : t.Wellformed)
    (written : t.writeText path text = .ok s) : s.Wellformed := by
  obtain ⟨upper, name, named, -, parent, free, rfl⟩ := put_of_writeText written
  exact wellformed.put parent named _ (Or.inr free)

/-! ## Second runs -/

/-- Whether a tree `u` of a second run is where it should be: the first run had the tree `t` at this point and
left the tree `s`. -/
structure Retraced (t s u : FileTree) : Prop where
  first : t.Wellformed
  second : u.Wellformed
  home : t.lookup t.home = some .directory
  ahead : Extends t s
  grown : Extends s u
  lookup : ∀ place, u.lookup place = s.lookup place ∨ u.lookup place = t.lookup place

/-- Where the first run has come to its end, the second one has changed nothing. -/
theorem Retraced.eq (retraced : Retraced s s u) : u = s :=
  retraced.first.ext retraced.second retraced.grown.home fun place => by
    simpa using retraced.lookup place

/-- What is new in a tree is there from the start in the second run. -/
theorem Retraced.onward (retraced : Retraced t s u) (wellformed : t'.Wellformed)
    (home : t'.lookup t'.home = some .directory) (ahead : Extends t' s)
    (kept : ∀ place entry, t.lookup place = some entry → t'.lookup place = some entry) :
    Retraced t' s u where
  first := wellformed
  second := retraced.second
  home := home
  ahead := ahead
  grown := retraced.grown
  lookup place := by
    rcases retraced.lookup place with same | same
    · exact Or.inl same
    · cases before : t.lookup place with
      | some entry => exact Or.inr (by rw [same, before, kept place entry before])
      | none =>
        rw [before] at same
        cases after : t'.lookup place with
        | none => exact Or.inr same
        | some entry =>
          -- The second run has all that the first one has left.
          exfalso
          cases entry with
          | directory =>
            rw [retraced.grown.directory place (ahead.directory place after)] at same
            cases same
          | file content =>
            have there := retraced.grown.file place
              (ahead.file place (isFileAt_iff.mpr ⟨content, after⟩))
            simp [isFileAt, same] at there

theorem home_of_extends (grown : Extends t s) (home : t.lookup t.home = some .directory) :
    s.lookup s.home = some .directory := by
  rw [grown.home]
  exact grown.directory _ home

/-- Directories that the first run makes are there in the second one. -/
theorem Retraced.makes {parts : List Part} (retraced : Retraced t s u)
    (named : ∀ name, Part.name name ∈ parts → IsName name)
    (made : t.reach t.home parts = .ok (t', target)) (ahead : Extends t' s) :
    u.reach u.home parts = .ok (u, target) ∧ Retraced t' s u := by
  have grown := extends_reach made
  have wellformed := (retraced.first.reached retraced.home named made).1
  refine ⟨?_, retraced.onward wellformed (home_of_extends grown retraced.home) ahead
    fun place entry there => lookup_reach made there⟩
  rw [retraced.grown.home, ahead.home, grown.home]
  exact reach_again made (ahead.trans retraced.grown)

/-- A file that the first run writes is written in the second one. -/
theorem Retraced.writes {text : Text} (retraced : Retraced t s u)
    (written : t.writeText path text = .ok t') (ahead : Extends t' s) :
    ∃ u', u.writeText path text = .ok u' ∧ Retraced t' s u' := by
  obtain ⟨upper, name, named, located, parent, free, rfl⟩ := put_of_writeText written
  have ending := (writeText_eq_ok.mp written).1
  have filled : upper ++ [name] ≠ [] := by simp
  have stays : ∀ place, t.lookup place = some .directory → u.lookup place = some .directory :=
    fun place there => retraced.grown.directory place (retraced.ahead.directory place there)
  have parent' := stays upper parent
  have file : (t.put (upper ++ [name]) (.file (.text text))).isFileAt (upper ++ [name]) = true :=
    isFileAt_iff.mpr ⟨_, by rw [lookup_put filled, if_pos rfl]⟩
  have file' := retraced.grown.file _ (ahead.file _ file)
  have free' : u.lookup (upper ++ [name]) ≠ some .directory := by
    intro there
    simp [isFileAt, there] at file'
  have located' : u.locate? path = some (upper ++ [name]) :=
    locate_mono (retraced.grown.home.trans retraced.ahead.home) stays located
  refine ⟨u.put (upper ++ [name]) (.file (.text text)), writeText_eq_ok.mpr ⟨ending, _, located',
    writeFile_eq_some.mpr ⟨filled, by rwa [List.dropLast_concat], free', rfl⟩⟩, ?_⟩
  have grown := extends_put_file free (.text text)
  exact {
    first := retraced.first.put parent named _ (Or.inr free)
    second := retraced.second.put parent' named _ (Or.inr free')
    home := home_of_extends grown retraced.home
    ahead := ahead
    grown := retraced.grown.trans (extends_put_file free' _)
    lookup := fun other => by
      rw [lookup_put filled, lookup_put filled]
      split
      · exact Or.inr rfl
      · exact retraced.lookup other }

end DocSite.FileTree
