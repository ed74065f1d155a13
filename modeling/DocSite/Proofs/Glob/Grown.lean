/-
# DocSite.Proofs.Glob.Grown -- patterns in a tree that has grown

In a tree that has grown out of another one, a pattern finds the files of the older tree as before and in
the same order (`find_grown`): what is new leads to nothing that was there. More fuel than is needed makes
no difference (`expand_of_ample`), so that it does not matter that the new tree is deeper.
-/
import DocSite.Proofs.Glob.Relocated

set_option autoImplicit false

namespace DocSite.Glob

open Text
open FileTree (Extends)
open DocSite.Path (IsName)

variable {t s : FileTree} {here : Path} {place : List Text} {name : Text} {piece : List Token}
  {pieces rest : List (List Token)}

/-- Whether the pieces without marks have no slash. -/
def Cut (pieces : List (List Token)) : Prop :=
  ∀ piece ∈ pieces, ∀ name, literal? piece = some name → '/' ∉ name

/-! ## One step -/

/-- What exists beyond a path exists in a directory. -/
theorem isDirectory_of_exists_join (filled : here.text ≠ []) (plain : '/' ∉ name)
    (there : t.exists? (here.join ⟨name⟩) = true) : t.isDirectory here = true := by
  obtain ⟨entry, found⟩ := FileTree.exists_eq_true.mp there
  obtain ⟨-, ends, target, located, taken⟩ := FileTree.entryAt_eq_some.mp found
  rw [FileTree.locate?, parts_join_piece filled plain, FileTree.follow_append] at located
  obtain ⟨place, located', step⟩ := Option.bind_eq_some_iff.mp located
  refine FileTree.isDirectory_iff.mpr ⟨filled, place, located', ?_⟩
  by_cases named : IsName name
  · rw [Path.partOf_name named, Option.toList_some, FileTree.follow] at step
    split at step
    next above => exact FileTree.isDirectoryAt_iff.mp above
    · cases step
  · have unnamed := endsWithName_join_piece here plain named
    obtain rfl : entry = .directory := by simpa [unnamed] using ends
    refine FileTree.directory_of_follow (fun part member => ?_) step taken
    exact FileTree.inner_pieces [name] part
      (List.mem_filterMap.mpr ⟨name, List.mem_singleton_self _, Option.mem_toList.mp member⟩)

theorem missing_join (filled : here.text ≠ []) (plain : '/' ∉ name) (nowhere : ¬t.isDirectory here = true) :
    t.exists? (here.join ⟨name⟩) = false :=
  Bool.eq_false_iff.mpr fun there => nowhere (isDirectory_of_exists_join filled plain there)

theorem not_isFile_of_missing {p : Path} (missing : t.exists? p = false) : t.isFile p = false :=
  Bool.eq_false_iff.mpr fun file => by
    rw [FileTree.exists_of_isFile file] at missing
    cases missing

/-- Entries lead on alike in two trees as far as paths are kept that what searches on from them finds
alike. -/
theorem filter_enter {keep : Path → Bool} {search search' : Path → List (List Token) → List Path}
    (directory : t.isDirectory (childPath here name) = s.isDirectory (childPath here name) ∨
      keep (childPath here name) = false)
    (onward : ∀ fewer, fewer <:+ rest → (search' (childPath here name) fewer).filter keep =
      (search (childPath here name) fewer).filter keep)
    (deeper : (search' (childPath here name) (piece :: rest.dropWhile isRecursive)).filter keep =
      (search (childPath here name) (piece :: rest.dropWhile isRecursive)).filter keep) :
    (enter s search' here piece rest name).filter keep =
      (enter t search here piece rest name).filter keep := by
  unfold enter
  dsimp only
  split
  · rw [List.filter_append, List.filter_append, deeper]
    congr 1
    have inside := List.dropWhile_suffix isRecursive (l := rest)
    generalize rest.dropWhile isRecursive = collapsed at inside
    cases collapsed with
    | nil =>
      rcases directory with same | lost
      · rw [same]
      · dsimp only
        split <;> split <;> simp [lost]
    | cons next more =>
      dsimp only
      split
      · split
        · rfl
        · exact onward more ((List.suffix_cons next more).trans inside)
      · rfl
  · split
    · split
      · rfl
      · exact onward rest (List.suffix_refl rest)
    · rfl

theorem enter_congr {search search' : Path → List (List Token) → List Path}
    (onward : ∀ fewer, fewer <:+ rest →
      search' (childPath here name) fewer = search (childPath here name) fewer)
    (deeper : search' (childPath here name) (piece :: rest.dropWhile isRecursive) =
      search (childPath here name) (piece :: rest.dropWhile isRecursive)) :
    enter t search' here piece rest name = enter t search here piece rest name := by
  have same : (enter t search' here piece rest name).filter (fun _ => true) =
      (enter t search here piece rest name).filter (fun _ => true) :=
    filter_enter (Or.inl rfl) (fun fewer inside => by rw [onward fewer inside]) (by rw [deeper])
  simpa only [List.filter_true] using same

/-! ## Fuel -/

/-- Dots lead on from every directory. -/
theorem located_dots (filled : here.text ≠ []) (directory : t.isDirectory here = true)
    (dots : name = ['.'] ∨ name = ['.', '.']) : ∃ place, t.locate? (here.join ⟨name⟩) = some place := by
  obtain ⟨-, place, located, taken⟩ := FileTree.isDirectory_iff.mp directory
  have plain : '/' ∉ name := by rcases dots with rfl | rfl <;> decide
  rw [locate_join_piece filled plain located]
  rcases dots with rfl | rfl
  · exact ⟨place, rfl⟩
  · have up : Path.partOf? ['.', '.'] = some .up := by decide
    rw [up, Option.toList_some, FileTree.follow, if_pos (FileTree.isDirectoryAt_iff.mpr taken)]
    exact ⟨place.dropLast, rfl⟩

/-- The entries of a directory are where their names say. -/
theorem mem_namesIn (wellformed : t.Wellformed) (located : t.locate? here = some place) :
    name ∈ namesIn t here ↔ (t.lookup (place ++ [name])).isSome := by
  simp only [namesIn, located, List.mem_map, Prod.exists, exists_and_right, exists_eq_right,
    Option.isSome_iff_exists, wellformed.mem_children]

theorem locate_child (wellformed : t.Wellformed) (filled : here.text ≠ [])
    (located : t.locate? here = some place) (member : name ∈ namesIn t here) :
    IsName name ∧ t.locate? (here.join ⟨name⟩) = some (place ++ [name]) := by
  have taken := (mem_namesIn wellformed located).mp member
  have named : IsName name := wellformed.isName_of_lookup taken name (by simp)
  have above := FileTree.isDirectoryAt_iff.mpr (wellformed.rooted _ _ taken)
  rw [locate_join_piece filled named.2.2.2 located, Path.partOf_name named, Option.toList_some,
    FileTree.follow, if_pos above]
  exact ⟨named, rfl⟩

section Ample

variable {fuel fuel' : Nat} (filled : here.text ≠ []) (away : here.text ≠ ['.'])
include filled away

theorem expand_literal_congr (literal : literal? piece = some name)
    (onward : ∀ {other : List Text}, t.locate? (here.join ⟨name⟩) = some other →
      expand t fuel' (here.join ⟨name⟩) rest = expand t fuel (here.join ⟨name⟩) rest) :
    expand t (fuel' + 1) here (piece :: rest) = expand t (fuel + 1) here (piece :: rest) := by
  rw [expand_of_literal literal, expand_of_literal literal, childPath_of_ne away]
  split
  next leads =>
    obtain ⟨other, located⟩ : ∃ other, t.locate? (here.join ⟨name⟩) = some other := by
      rcases leads with ⟨dots, directory⟩ | ⟨-, there⟩
      · exact located_dots filled directory dots
      · exact FileTree.located_of_exists there
    exact onward located
  · rfl

theorem expand_open_congr (wellformed : t.Wellformed) (located : t.locate? here = some place)
    (marked : literal? piece = none)
    (onward : ∀ {name : Text} {other : List Text} {fewer : List (List Token)}, fewer <:+ rest →
      t.locate? (here.join ⟨name⟩) = some other →
      expand t fuel' (here.join ⟨name⟩) fewer = expand t fuel (here.join ⟨name⟩) fewer)
    (deeper : ∀ {name : Text}, (t.lookup (place ++ [name])).isSome →
      t.locate? (here.join ⟨name⟩) = some (place ++ [name]) →
      expand t fuel' (here.join ⟨name⟩) (piece :: rest.dropWhile isRecursive) =
        expand t fuel (here.join ⟨name⟩) (piece :: rest.dropWhile isRecursive)) :
    expand t (fuel' + 1) here (piece :: rest) = expand t (fuel + 1) here (piece :: rest) := by
  rw [expand_of_open marked, expand_of_open marked]
  split
  next directory =>
    congr 1
    · refine List.flatMap_congr fun name member => ?_
      obtain ⟨-, dots, -⟩ := mem_dots.mp member
      obtain ⟨other, located'⟩ := located_dots filled directory dots
      exact onward (List.suffix_refl rest) located'
    · refine List.flatMap_congr fun name member => ?_
      obtain ⟨-, located'⟩ := locate_child wellformed filled located member
      refine enter_congr (fun fewer inside => ?_) ?_ <;> rw [childPath_of_ne away]
      · exact onward inside located'
      · exact deeper ((mem_namesIn wellformed located).mp member) located'
  · rfl

end Ample

/-- More fuel than is needed makes no difference. -/
theorem expand_of_ample (wellformed : t.Wellformed) (fuel : Nat) {fuel' : Nat}
    (filled : here.text ≠ []) (away : here.text ≠ ['.'])
    (located : t.locate? here = some place) (ample : need t pieces.length place < fuel)
    (ample' : need t pieces.length place < fuel') :
    expand t fuel' here pieces = expand t fuel here pieces := by
  induction fuel generalizing fuel' here place pieces with
  | zero => omega
  | succ fuel ih =>
    obtain ⟨fuel', rfl⟩ : ∃ n, fuel' = n + 1 := ⟨fuel' - 1, by omega⟩
    cases pieces with
    | nil => rfl
    | cons piece rest =>
      -- Fuel is enough for fewer pieces, wherever they are followed from.
      have onward : ∀ {name : Text} {other : List Text} {fewer : List (List Token)}, fewer <:+ rest →
          t.locate? (here.join ⟨name⟩) = some other →
          expand t fuel' (here.join ⟨name⟩) fewer = expand t fuel (here.join ⟨name⟩) fewer := by
        intro name other fewer inside located
        have less : fewer.length < (piece :: rest).length := Nat.lt_succ_of_le inside.length_le
        have saved := need_lt_of_fewer t less place other
        exact ih (Path.join_ne_nil filled) (join_ne_dot filled _) located (by omega) (by omega)
      cases literal : literal? piece with
      | some name => exact expand_literal_congr filled away literal (onward (List.suffix_refl rest))
      | none =>
        refine expand_open_congr filled away wellformed located literal onward fun taken located' => ?_
        have saved := need_lt_of_deeper wellformed (collapsed_sublist piece rest).length_le taken
        exact ih (Path.join_ne_nil filled) (join_ne_dot filled _) located' (by omega) (by omega)

/-! ## Files that were there -/

section Missing

variable (filled : here.text ≠ []) (away : here.text ≠ ['.']) (missing : t.exists? here = false)
include filled away missing

/-- Nothing that is there is found from a path that leads to nothing. -/
theorem unfound (cut : Cut pieces) (fuel : Nat) :
    (expand t fuel here pieces).filter (t.isFile ·) = [] := by
  have nowhere : ¬t.isDirectory here = true := by
    intro directory
    rw [FileTree.isDirectory, beq_iff_eq] at directory
    simp [FileTree.exists?, directory] at missing
  cases fuel with
  | zero => rfl
  | succ fuel =>
    cases pieces with
    | nil => simp [expand, not_isFile_of_missing missing]
    | cons piece rest =>
      cases literal : literal? piece with
      | some name =>
        have plain := cut piece (List.mem_cons_self ..) name literal
        rw [expand_of_literal literal, childPath_of_ne away, if_neg]
        · rfl
        · rintro (⟨-, directory⟩ | ⟨-, there⟩)
          · exact nowhere directory
          · exact nowhere (isDirectory_of_exists_join filled plain there)
      | none =>
        rw [expand_of_open literal, if_neg nowhere]
        rfl

end Missing

theorem Cut.sublist {fewer : List (List Token)} (cut : Cut pieces) (inside : fewer.Sublist pieces) :
    Cut fewer := fun piece member => cut piece (inside.subset member)

/-- Nothing that is there is found through an entry that is not. -/
theorem unentered (filled : here.text ≠ []) (away : here.text ≠ ['.'])
    (missing : t.exists? (here.join ⟨name⟩) = false) (cut : Cut (piece :: rest)) (fuel : Nat) :
    (enter t (expand t fuel) here piece rest name).filter (t.isFile ·) = [] := by
  rw [← childPath_of_ne away] at missing
  have filled' : (childPath here name).text ≠ [] := by
    rw [childPath_of_ne away]
    exact Path.join_ne_nil filled
  have away' : (childPath here name).text ≠ ['.'] := by
    rw [childPath_of_ne away]
    exact join_ne_dot filled _
  have lost := not_isFile_of_missing missing
  have later : ∀ {fewer : List (List Token)}, Cut fewer →
      (expand t fuel (childPath here name) fewer).filter (t.isFile ·) = [] :=
    fun cut => unfound filled' away' missing cut fuel
  have inside := List.dropWhile_suffix isRecursive (l := rest)
  have cut' : Cut rest := cut.sublist (List.sublist_cons_self piece rest)
  have deeper : Cut (piece :: rest.dropWhile isRecursive) := cut.sublist (collapsed_sublist piece rest)
  unfold enter
  dsimp only
  split
  · rw [List.filter_append, later deeper, List.append_nil]
    generalize rest.dropWhile isRecursive = collapsed at inside
    cases collapsed with
    | nil =>
      dsimp only
      split <;> simp [lost]
    | cons next more =>
      dsimp only
      split
      · split
        · simp [lost]
        · exact later (cut'.sublist ((List.suffix_cons next more).trans inside).sublist)
      · rfl
  · split
    · split
      · simp [lost]
      · exact later cut'
    · rfl

theorem flatMap_filter_of_nil {α β : Type} {list : List α} {f : α → List β} {keep : α → Bool}
    (nothing : ∀ a ∈ list, keep a = false → f a = []) :
    (list.filter keep).flatMap f = list.flatMap f := by
  induction list with
  | nil => rfl
  | cons first rest ih =>
    obtain ⟨here, later⟩ := List.forall_mem_cons.mp nothing
    rw [List.filter_cons, List.flatMap_cons, ← ih later]
    split
    · rfl
    next lost => rw [here (by simpa using lost), List.nil_append]

/-- The names that were in a directory are still in it, in their order. -/
theorem namesIn_grown (grown : Extends t s) (wellformed : t.Wellformed) (wellformed' : s.Wellformed)
    (located : t.locate? here = some place) :
    namesIn t here = (namesIn s here).filter fun name => (t.lookup (place ++ [name])).isSome := by
  have located' := FileTree.locate_mono grown.home grown.directory located
  have irreflexive : Std.Irrefl fun a b : Text => Text.compare a b = .lt :=
    ⟨fun a less => by
      have same : Text.compare a a = .eq := Std.ReflCmp.compare_self
      rw [same] at less
      cases less⟩
  have antisymmetric : Std.Antisymm fun a b : Text => Text.compare a b = .lt :=
    ⟨fun a b less more => absurd (Std.TransCmp.lt_trans less more) (irreflexive.irrefl a)⟩
  refine List.Pairwise.eq_of_mem_iff (r := fun a b : Text => Text.compare a b = .lt) ?_
    (List.Pairwise.filter _ ?_) fun name => ?_
  · simpa only [namesIn, located] using wellformed.ordered_names place
  · simpa only [namesIn, located'] using wellformed'.ordered_names place
  · rw [List.mem_filter, mem_namesIn wellformed located, mem_namesIn wellformed' located']
    exact ⟨fun there => ⟨grown.isSome_lookup there, there⟩, fun both => both.2⟩

section Grown

variable (grown : Extends t s) (wellformed : t.Wellformed) (wellformed' : s.Wellformed)
include grown

/-- The files that were there are found through an entry as before, if whatever searches on from it finds them
as before. -/
theorem enter_grown {fuel : Nat} (away : here.text ≠ ['.']) (cut : Cut (piece :: rest))
    (onward : ∀ fewer, Cut fewer → (expand s fuel (here.join ⟨name⟩) fewer).filter (t.isFile ·) =
      (expand t fuel (here.join ⟨name⟩) fewer).filter (t.isFile ·)) :
    (enter s (expand s fuel) here piece rest name).filter (t.isFile ·) =
      (enter t (expand t fuel) here piece rest name).filter (t.isFile ·) := by
  have later : Cut rest := cut.sublist (List.sublist_cons_self piece rest)
  rw [← childPath_of_ne away] at onward
  refine filter_enter ?_ (fun fewer inside => onward fewer (later.sublist inside.sublist)) ?_
  · cases file : t.isFile (childPath here name) with
    | false => exact Or.inr rfl
    | true =>
      have none : ∀ {tree : FileTree}, tree.isFile (childPath here name) = true →
          tree.isDirectory (childPath here name) = false := fun file =>
        Bool.eq_false_iff.mpr fun directory => by
          rw [FileTree.not_isFile_of_isDirectory directory] at file
          cases file
      exact Or.inl ((none file).trans (none (grown.isFile file)).symm)
  · exact onward _ (cut.sublist (collapsed_sublist piece rest))

section Step

variable {fuel : Nat} (filled : here.text ≠ []) (away : here.text ≠ ['.']) (cut : Cut (piece :: rest))
  (onward : ∀ (name : Text) {fewer : List (List Token)}, Cut fewer →
    (expand s fuel (here.join ⟨name⟩) fewer).filter (t.isFile ·) =
      (expand t fuel (here.join ⟨name⟩) fewer).filter (t.isFile ·))
include filled away cut onward

/-- A piece without marks finds the files that were there as before if the pieces after it do. -/
theorem expand_literal_grown (literal : literal? piece = some name) :
    (expand s (fuel + 1) here (piece :: rest)).filter (t.isFile ·) =
      (expand t (fuel + 1) here (piece :: rest)).filter (t.isFile ·) := by
  obtain ⟨first, later⟩ := List.forall_mem_cons.mp cut
  have plain := first name literal
  rw [expand_of_literal literal, expand_of_literal literal, childPath_of_ne away]
  split
  next leads =>
    rw [onward name later]
    split
    · rfl
    next stops =>
      -- The piece leads on in the new tree alone.
      refine unfound (Path.join_ne_nil filled) (join_ne_dot filled _) ?_ later fuel
      rcases leads with ⟨dots, -⟩ | ⟨other, -⟩
      · exact missing_join filled plain fun directory => stops (Or.inl ⟨dots, directory⟩)
      · exact Bool.eq_false_iff.mpr fun there => stops (Or.inr ⟨other, there⟩)
  next stops =>
    rw [if_neg]
    rintro (⟨dots, directory⟩ | ⟨other, there⟩)
    · exact stops (Or.inl ⟨dots, grown.isDirectory directory⟩)
    · exact stops (Or.inr ⟨other, grown.exists there⟩)

include wellformed wellformed' in
/-- A piece with marks finds the files that were there as before if the pieces after it do, and if it does from
the entries of the directory. -/
theorem expand_open_grown (marked : literal? piece = none) :
    (expand s (fuel + 1) here (piece :: rest)).filter (t.isFile ·) =
      (expand t (fuel + 1) here (piece :: rest)).filter (t.isFile ·) := by
  have later : Cut rest := (List.forall_mem_cons.mp cut).2
  have entered : ∀ name : Text, (enter s (expand s fuel) here piece rest name).filter (t.isFile ·) =
      (enter t (expand t fuel) here piece rest name).filter (t.isFile ·) :=
    fun name => enter_grown grown away cut fun fewer cut => onward name cut
  rw [expand_of_open marked, expand_of_open marked]
  split
  next directory' =>
    obtain ⟨-, place, located', -⟩ := FileTree.isDirectory_iff.mp directory'
    have named : ∀ name ∈ namesIn s here, IsName name := fun name member =>
      (locate_child wellformed' filled located' member).1
    rw [List.filter_append, List.filter_flatMap, List.filter_flatMap]
    simp only [onward _ later, entered]
    split
    next directory =>
      obtain ⟨-, place', located, -⟩ := FileTree.isDirectory_iff.mp directory
      rw [List.filter_append, List.filter_flatMap, List.filter_flatMap,
        namesIn_grown grown wellformed wellformed' located]
      congr 1
      refine (flatMap_filter_of_nil fun name member gone => ?_).symm
      refine unentered filled away ?_ cut fuel
      have entry := wellformed.entryAt_join_names filled located (List.cons_ne_nil name [])
        (by simpa using named name member)
      simp only [join] at entry
      rw [FileTree.exists?, entry, gone]
    next nowhere =>
      -- The directory is new, and so is what it holds.
      rw [List.filter_nil, List.append_eq_nil_iff, List.flatMap_eq_nil_iff, List.flatMap_eq_nil_iff]
      refine ⟨fun name member => ?_, fun name member => ?_⟩
      · have plain : '/' ∉ name := by
          obtain ⟨-, rfl | rfl, -⟩ := mem_dots.mp member <;> decide
        exact unfound (Path.join_ne_nil filled) (join_ne_dot filled _)
          (missing_join filled plain nowhere) later fuel
      · exact unentered filled away (missing_join filled (named name member).2.2.2 nowhere) cut fuel
  next nowhere =>
    rw [if_neg fun directory => nowhere (grown.isDirectory directory)]

end Step

include wellformed wellformed'

/-- The files that were there are found as before. -/
theorem expand_grown (fuel : Nat) (filled : here.text ≠ []) (away : here.text ≠ ['.'])
    (cut : Cut pieces) :
    (expand s fuel here pieces).filter (t.isFile ·) =
      (expand t fuel here pieces).filter (t.isFile ·) := by
  induction fuel generalizing here pieces with
  | zero => rfl
  | succ fuel ih =>
    cases pieces with
    | nil => rfl
    | cons piece rest =>
      have onward : ∀ (name : Text) {fewer : List (List Token)}, Cut fewer →
          (expand s fuel (here.join ⟨name⟩) fewer).filter (t.isFile ·) =
            (expand t fuel (here.join ⟨name⟩) fewer).filter (t.isFile ·) :=
        fun name fewer cut => ih (Path.join_ne_nil filled) (join_ne_dot filled _) cut
      cases literal : literal? piece with
      | some name => exact expand_literal_grown grown filled away cut onward literal
      | none => exact expand_open_grown grown wellformed wellformed' filled away cut onward literal

/-- Fuel that is enough for the new tree is enough for the old one. -/
theorem bound_grown (pieces : Nat) : bound t pieces ≤ bound s pieces := by
  have deeper : depth t ≤ depth s := FileTree.depth_le fun (place, entry) member => by
    obtain ⟨-, found⟩ := wellformed.mem_entries.mp member
    exact wellformed'.length_le_depth (grown.isSome_lookup (by rw [found]; rfl))
  exact Nat.mul_le_mul_left _ (Nat.succ_le_succ deeper)

/-- A pattern from the root finds the files that were there as before. -/
theorem find_grown {pattern : Path} (absolute : pattern.isAbsolute = true) :
    (find? pattern s).map (List.filter (t.isFile ·)) =
      (find? pattern t).map (List.filter (t.isFile ·)) := by
  unfold find?
  split
  · rfl
  cases read : (Glob.pieces (afterRoot pattern)).mapM read? with
  | none => rfl
  | some found =>
    have cut : Cut found := fun piece member => by
      obtain ⟨-, -, -, plain⟩ := exists_piece read member
      exact plain
    have cut' : Cut (if (pattern.isAbsolute && (afterRoot pattern).isEmpty) = true then [[]] else found) := by
      split
      · simp [Cut, literal?]
      · exact cut
    dsimp only
    generalize (if (pattern.isAbsolute && (afterRoot pattern).isEmpty) = true then [[]] else found) =
      pieces at cut'
    split
    · rfl
    have root : start pattern = ⟨['/']⟩ := by rw [start, absolute]; rfl
    have ample := need_lt_bound t pieces.length []
    have filled : (⟨['/']⟩ : Path).text ≠ [] ∧ (⟨['/']⟩ : Path).text ≠ ['.'] := by simp
    have same := expand_grown grown wellformed wellformed' (bound s pieces.length) filled.1 filled.2
      cut'
    rw [expand_of_ample wellformed (bound t pieces.length) filled.1 filled.2 rfl ample
      (ample.trans_le (bound_grown grown wellformed wellformed' pieces.length)), ← root] at same
    split
    next =>
      -- Only directories are found.
      have none : ∀ {tree : FileTree} (paths : List Path), Extends t tree →
          (paths.filter (tree.isDirectory ·)).filter (t.isFile ·) = [] := by
        intro tree paths grown
        refine List.filter_eq_nil_iff.mpr fun p member file => ?_
        have missing := FileTree.not_isFile_of_isDirectory (List.mem_filter.mp member).2
        rw [grown.isFile file] at missing
        cases missing
      simp only [Option.map_some, none _ grown, none _ (Extends.refl t)]
    · exact congrArg some same

end Grown

end DocSite.Glob
