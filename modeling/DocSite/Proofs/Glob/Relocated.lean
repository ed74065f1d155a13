/-
# DocSite.Proofs.Glob.Relocated -- patterns below two directories that hold the same

A pattern whose pieces never lead up finds the same below two directories that hold the same, in the same
order (`Twins.expand`). Two paths are `Twins` if the same names lead to both from their directories, and if
the same is there.
-/
import DocSite.Proofs.FileTree.Listing
import DocSite.Proofs.Glob.Literal

set_option autoImplicit false

namespace DocSite.Glob

open Text
open DocSite.Path (IsName)

/-! ## Pieces -/

/-- Whether a piece can lead up: it begins with a dot and accepts two dots. -/
def climbs (piece : List Token) : Bool :=
  piece.head? == some (.char '.') && accepts piece ['.', '.']

/-- A piece that never leads out of the directory it is followed from. -/
structure Tame (piece : List Token) : Prop where
  stays : climbs piece = false
  plain : ∀ name, literal? piece = some name → '/' ∉ name

theorem accepts_literal (name : Text) : accepts (name.map .char) name = true := by
  induction name with
  | nil => rfl
  | cons c rest ih => simp [accepts, ih]

theorem Tame.ne_up {piece : List Token} {name : Text} (tame : Tame piece)
    (literal : literal? piece = some name) : name ≠ ['.', '.'] := by
  rintro rfl
  have stays := tame.stays
  rw [literal_eq_some.mp literal, climbs, accepts_literal] at stays
  cases stays

theorem Tame.eq_dot {piece : List Token} {name : Text} (tame : Tame piece)
    (member : name ∈ dots piece) : name = ['.'] := by
  obtain ⟨begins, stay | rfl, accepted⟩ := mem_dots.mp member
  · exact stay
  · have stays := tame.stays
    rw [climbs, begins, accepted] at stays
    cases stays

/-! ## Base directories -/

/-- A directory of a tree as a path leads to it. -/
structure Spot where
  tree : FileTree
  base : Path
  place : List Text

/-- Whether a path leads to a directory as it is said to. -/
structure Spot.Sound (spot : Spot) : Prop where
  wellformed : spot.tree.Wellformed
  filled : spot.base.text ≠ []
  located : spot.tree.locate? spot.base = some spot.place
  directory : spot.tree.lookup spot.place = some .directory

/-- Whether two directories hold the same. -/
def Spot.Alike (a b : Spot) : Prop :=
  ∀ names, b.tree.lookup (b.place ++ names) = a.tree.lookup (a.place ++ names)

/-- Two directories hold the same if the same is listed below them. -/
theorem Spot.Sound.alike_of_below {a b : Spot} (sound : a.Sound) (sound' : b.Sound)
    (same : b.tree.below b.place = a.tree.below a.place) : a.Alike b :=
  FileTree.lookup_of_below sound.wellformed sound'.wellformed same
    (sound'.directory.trans sound.directory.symm)

/-- A path that names lead to from a directory. -/
structure Spot.Reaches (spot : Spot) (names : List Text) (p : Path) : Prop where
  filled : p.text ≠ []
  away : p.text ≠ ['.']
  parts : p.parts = spot.base.parts ++ names.map .name
  located : spot.tree.locate? p = some (spot.place ++ names)
  taken : (spot.tree.lookup (spot.place ++ names)).isSome

/-- Two paths that the same names lead to from their directories, and that lead to the same. -/
structure Twins (a b : Spot) (names : List Text) (p q : Path) : Prop where
  left : a.Reaches names p
  right : b.Reaches names q
  entry : b.tree.entryAt? q = a.tree.entryAt? p

section Steps

variable {a b spot : Spot} {names : List Text} {p q : Path} {name : Text}

theorem Spot.Reaches.join_name (sound : spot.Sound) (reaches : spot.Reaches names p)
    (named : IsName name) (taken : (spot.tree.lookup (spot.place ++ (names ++ [name]))).isSome) :
    spot.Reaches (names ++ [name]) (p.join ⟨name⟩) := by
  have parts : (p.join ⟨name⟩).parts = p.parts ++ [.name name] := by
    rw [parts_join_piece reaches.filled named.2.2.2, Path.partOf_name named]
    rfl
  rw [← List.append_assoc] at taken
  have above := sound.wellformed.rooted _ _ taken
  rw [List.append_assoc] at taken
  refine ⟨Path.join_ne_nil reaches.filled, join_ne_dot reaches.filled _, ?_, ?_, taken⟩
  · rw [parts, reaches.parts]
    simp
  · rw [locate_join_piece reaches.filled named.2.2.2 reaches.located, Path.partOf_name named,
      Option.toList_some, FileTree.follow, if_pos (FileTree.isDirectoryAt_iff.mpr above),
      FileTree.follow, List.append_assoc]

theorem Spot.Reaches.entry_name (sound : spot.Sound) (reaches : spot.Reaches names p)
    (named : IsName name) :
    spot.tree.entryAt? (p.join ⟨name⟩) = spot.tree.lookup (spot.place ++ (names ++ [name])) := by
  have entry := sound.wellformed.entryAt_join_names reaches.filled reaches.located
    (List.cons_ne_nil name []) (by simpa using named)
  simpa [join] using entry

/-- A path that ends with a piece that is no name leads to directories alone. -/
theorem endsWithName_join_piece (p : Path) (plain : '/' ∉ name) (unnamed : ¬IsName name) :
    FileTree.endsWithName (p.join ⟨name⟩) = false := by
  rw [FileTree.endsWithName, Path.last_piece_join p (head_of_plain plain), splitOn_of_not_mem plain]
  by_contra ends
  simp only [Bool.not_eq_false, Bool.and_eq_true, beq_iff_eq] at ends
  have last := ends.2
  rw [List.getLast?_singleton, eq_comm, Path.name?] at last
  split at last
  next text found =>
    cases last
    exact unnamed (Path.isName_of_mem_parts (List.mem_of_getLast? found))
  · cases last

theorem Spot.Reaches.join_stay (reaches : spot.Reaches names p) (plain : '/' ∉ name)
    (unnamed : ¬IsName name) (notUp : name ≠ ['.', '.']) :
    spot.Reaches names (p.join ⟨name⟩) ∧ spot.tree.entryAt? (p.join ⟨name⟩) =
      (spot.tree.lookup (spot.place ++ names)).filter (· == .directory) := by
  have parts : (p.join ⟨name⟩).parts = p.parts := by
    rw [parts_join_piece reaches.filled plain]
    have none : Path.partOf? name = none := by
      unfold Path.partOf?
      split
      · rfl
      next counts =>
        simp only [Bool.or_eq_true, List.isEmpty_iff, decide_eq_true_eq, not_or] at counts
        exact absurd ⟨counts.1, counts.2, notUp, plain⟩ unnamed
    simp [none]
  have located : spot.tree.locate? (p.join ⟨name⟩) = some (spot.place ++ names) := by
    rw [← reaches.located, FileTree.locate?, parts, FileTree.locate?]
  have filled : (p.join ⟨name⟩).text ≠ [] := Path.join_ne_nil reaches.filled
  refine ⟨⟨filled, join_ne_dot reaches.filled _, by rw [parts, reaches.parts], located,
    reaches.taken⟩, ?_⟩
  rw [FileTree.entryAt_of_locate filled located, endsWithName_join_piece p plain unnamed]
  simp

variable (sound : a.Sound) (sound' : b.Sound) (alike : a.Alike b)
include alike

theorem Twins.join_name (twins : Twins a b names p q) (sound : a.Sound) (sound' : b.Sound)
    (named : IsName name) (taken : (a.tree.lookup (a.place ++ (names ++ [name]))).isSome) :
    Twins a b (names ++ [name]) (p.join ⟨name⟩) (q.join ⟨name⟩) where
  left := twins.left.join_name sound named taken
  right := twins.right.join_name sound' named (by rwa [alike])
  entry := by rw [twins.left.entry_name sound named, twins.right.entry_name sound' named, alike]

theorem Twins.join_stay (twins : Twins a b names p q) (plain : '/' ∉ name) (unnamed : ¬IsName name)
    (notUp : name ≠ ['.', '.']) : Twins a b names (p.join ⟨name⟩) (q.join ⟨name⟩) where
  left := (twins.left.join_stay plain unnamed notUp).1
  right := (twins.right.join_stay plain unnamed notUp).1
  entry := by
    rw [(twins.left.join_stay plain unnamed notUp).2, (twins.right.join_stay plain unnamed notUp).2,
      alike]

end Steps

/-- A path with the parts of the base directory leads to it. -/
theorem Spot.Sound.reaches {spot : Spot} {p : Path} (sound : spot.Sound) (filled : p.text ≠ [])
    (away : p.text ≠ ['.']) (parts : p.parts = spot.base.parts) :
    spot.Reaches [] p ∧ spot.tree.entryAt? p = some .directory := by
  have located : spot.tree.locate? p = some (spot.place ++ []) := by
    rw [List.append_nil, ← sound.located, FileTree.locate?, parts, FileTree.locate?]
  have there : spot.tree.lookup (spot.place ++ []) = some .directory := by
    rw [List.append_nil, sound.directory]
  refine ⟨⟨filled, away, by simp [parts], located, by rw [there]; rfl⟩, ?_⟩
  rw [FileTree.entryAt_of_locate filled located, there]
  rfl

/-! ## Fuel -/

/-- The fuel that is used up, at most, by some pieces that are followed from a place. -/
def need (tree : FileTree) (pieces : Nat) (place : List Text) : Nat :=
  pieces * (depth tree + 1) + (depth tree - place.length)

theorem need_lt_bound (tree : FileTree) (pieces : Nat) (place : List Text) :
    need tree pieces place < bound tree pieces := by
  rw [need, bound, Nat.add_mul, Nat.one_mul]
  omega

/-- A piece that has been followed saves fuel, wherever it leads. -/
theorem need_lt_of_fewer (tree : FileTree) {fewer pieces : Nat} (less : fewer < pieces)
    (place place' : List Text) : need tree fewer place' < need tree pieces place := by
  have whole : bound tree fewer ≤ pieces * (depth tree + 1) :=
    Nat.mul_le_mul_right _ (Nat.succ_le_of_lt less)
  have saved := need_lt_bound tree fewer place'
  rw [need] at saved ⊢
  rw [need]
  omega

/-- A directory that has been entered saves fuel. -/
theorem need_lt_of_deeper {tree : FileTree} (wellformed : tree.Wellformed) {place : List Text}
    {name : Text} {fewer pieces : Nat} (less : fewer ≤ pieces)
    (taken : (tree.lookup (place ++ [name])).isSome) :
    need tree fewer (place ++ [name]) < need tree pieces place := by
  have short := wellformed.length_le_depth taken
  have whole : fewer * (depth tree + 1) ≤ pieces * (depth tree + 1) :=
    Nat.mul_le_mul_right _ less
  rw [List.length_append, List.length_singleton] at short
  rw [need, need, List.length_append, List.length_singleton]
  omega

/-! ## What patterns find -/

/-- Paths that the same names lead to. -/
def Paired (a b : Spot) (p q : Path) : Prop := ∃ names, Twins a b names p q

theorem forall₂_flatMap {α β γ : Type} {R : β → γ → Prop} {f : α → List β} {g : α → List γ}
    {list : List α} (each : ∀ member ∈ list, List.Forall₂ R (f member) (g member)) :
    List.Forall₂ R (list.flatMap f) (list.flatMap g) := by
  induction list with
  | nil => exact .nil
  | cons first rest ih =>
    obtain ⟨here, later⟩ := List.forall_mem_cons.mp each
    exact List.rel_append here (ih later)

section Expanding

variable {a b : Spot} (sound : a.Sound) (sound' : b.Sound) (alike : a.Alike b)
include sound sound' alike

theorem Twins.namesIn {names : List Text} {p q : Path} (twins : Twins a b names p q) :
    namesIn b.tree q = namesIn a.tree p ∧ ∀ name ∈ namesIn a.tree p, IsName name ∧
      (a.tree.lookup (a.place ++ (names ++ [name]))).isSome := by
  have children : b.tree.children (b.place ++ names) = a.tree.children (a.place ++ names) :=
    FileTree.children_congr sound.wellformed sound'.wellformed fun others _ => by
      rw [List.append_assoc, List.append_assoc, alike]
  simp only [Glob.namesIn, twins.left.located, twins.right.located, children, true_and]
  intro name member
  obtain ⟨⟨name, entry⟩, child, rfl⟩ := List.mem_map.mp member
  have found := sound.wellformed.mem_children.mp child
  have taken : (a.tree.lookup (a.place ++ (names ++ [name]))).isSome := by
    rw [← List.append_assoc, found]
    rfl
  exact ⟨sound.wellformed.isName_of_lookup taken name (by simp), taken⟩

omit sound sound' alike in
theorem Twins.isDirectory {names : List Text} {p q : Path} (twins : Twins a b names p q) :
    b.tree.isDirectory q = a.tree.isDirectory p := by
  rw [FileTree.isDirectory, twins.entry, FileTree.isDirectory]

/-- A piece without marks leads on from both paths or from neither. -/
theorem Twins.literal {names : List Text} {p q : Path} {piece : List Token} {name : Text}
    (twins : Twins a b names p q) (tame : Tame piece) (literal : literal? piece = some name) :
    b.tree.exists? (q.join ⟨name⟩) = a.tree.exists? (p.join ⟨name⟩) ∧
      ((name = ['.'] ∨ a.tree.exists? (p.join ⟨name⟩) = true) →
        ∃ names, Twins a b names (p.join ⟨name⟩) (q.join ⟨name⟩)) := by
  have plain := tame.plain name literal
  have notUp := tame.ne_up literal
  by_cases named : IsName name
  · have entry := twins.left.entry_name sound named
    have entry' := twins.right.entry_name sound' named
    rw [alike] at entry'
    refine ⟨by rw [FileTree.exists?, entry', FileTree.exists?, entry], fun leads => ?_⟩
    rcases leads with dot | leads
    · exact absurd dot named.2.1
    · rw [FileTree.exists?, entry] at leads
      exact ⟨_, twins.join_name alike sound sound' named leads⟩
  · have stays := twins.join_stay alike plain named notUp
    exact ⟨by rw [FileTree.exists?, stays.entry, FileTree.exists?], fun _ => ⟨names, stays⟩⟩

omit sound sound' alike in
/-- Entries of the same name lead on alike, if whatever searches on from them does. -/
theorem Twins.enter {names : List Text} {p q : Path} {name : Text} {piece : List Token}
    {rest : List (List Token)} {search search' : Path → List (List Token) → List Path}
    (child : Twins a b names (childPath p name) (childPath q name))
    (onward : ∀ fewer, fewer <:+ rest → List.Forall₂ (Paired a b)
      (search (childPath p name) fewer) (search' (childPath q name) fewer))
    (deeper : List.Forall₂ (Paired a b)
      (search (childPath p name) (piece :: rest.dropWhile isRecursive))
      (search' (childPath q name) (piece :: rest.dropWhile isRecursive))) :
    List.Forall₂ (Paired a b) (enter a.tree search p piece rest name)
      (enter b.tree search' q piece rest name) := by
  have itself : List.Forall₂ (Paired a b) [childPath p name] [childPath q name] :=
    .cons ⟨names, child⟩ .nil
  unfold Glob.enter
  dsimp only
  split
  · refine List.rel_append ?_ deeper
    have inside := List.dropWhile_suffix isRecursive (l := rest)
    generalize rest.dropWhile isRecursive = collapsed at inside
    cases collapsed with
    | nil =>
      dsimp only
      rw [child.isDirectory]
      split
      · exact itself
      · exact .nil
    | cons next more =>
      dsimp only
      split
      · split
        · exact itself
        · exact onward more ((List.suffix_cons next more).trans inside)
      · exact .nil
  · split
    · split
      · exact itself
      · exact onward rest (List.suffix_refl rest)
    · exact .nil

section Step

variable {fuel fuel' : Nat} {names : List Text} {p q : Path} {piece : List Token} {rest : List (List Token)}

/-- A piece without marks finds the same from two directories that hold the same if the pieces after it do. -/
theorem Twins.expand_literal {name : Text} (twins : Twins a b names p q) (tame : Tame piece)
    (literal : literal? piece = some name)
    (onward : ∀ {others : List Text} {p q : Path}, Twins a b others p q →
      List.Forall₂ (Paired a b) (expand a.tree fuel p rest) (expand b.tree fuel' q rest)) :
    List.Forall₂ (Paired a b) (expand a.tree (fuel + 1) p (piece :: rest))
      (expand b.tree (fuel' + 1) q (piece :: rest)) := by
  obtain ⟨same, leads⟩ := twins.literal sound sound' alike tame literal
  rw [expand_of_literal literal, expand_of_literal literal, childPath_of_ne twins.left.away,
    childPath_of_ne twins.right.away, same, twins.isDirectory]
  split
  next onto =>
    have kept : name = ['.'] ∨ a.tree.exists? (p.join ⟨name⟩) = true := by
      rcases onto with ⟨dot | up, -⟩ | ⟨-, there⟩
      · exact Or.inl dot
      · exact absurd up (tame.ne_up literal)
      · exact Or.inr there
    obtain ⟨others, twins'⟩ := leads kept
    exact onward twins'
  · exact .nil

/-- A piece with marks finds the same from two directories that hold the same if the pieces after it do, and
if it does from their entries. -/
theorem Twins.expand_open (twins : Twins a b names p q) (tame : Tame piece)
    (marked : literal? piece = none)
    (onward : ∀ {others : List Text} {p q : Path} {fewer : List (List Token)}, fewer <:+ rest →
      Twins a b others p q →
      List.Forall₂ (Paired a b) (expand a.tree fuel p fewer) (expand b.tree fuel' q fewer))
    (deeper : ∀ {name : Text} {p q : Path}, (a.tree.lookup (a.place ++ (names ++ [name]))).isSome →
      Twins a b (names ++ [name]) p q →
      List.Forall₂ (Paired a b) (expand a.tree fuel p (piece :: rest.dropWhile isRecursive))
        (expand b.tree fuel' q (piece :: rest.dropWhile isRecursive))) :
    List.Forall₂ (Paired a b) (expand a.tree (fuel + 1) p (piece :: rest))
      (expand b.tree (fuel' + 1) q (piece :: rest)) := by
  rw [expand_of_open marked, expand_of_open marked, twins.isDirectory]
  split
  · refine List.rel_append (forall₂_flatMap fun name member => ?_) ?_
    · rw [tame.eq_dot member]
      exact onward (List.suffix_refl rest) (twins.join_stay alike (by decide) (by decide) (by decide))
    · obtain ⟨same, each⟩ := twins.namesIn sound sound' alike
      rw [same]
      refine forall₂_flatMap fun name member => ?_
      obtain ⟨named, taken⟩ := each name member
      have child := twins.join_name alike sound sound' named taken
      rw [← childPath_of_ne twins.left.away, ← childPath_of_ne twins.right.away] at child
      exact child.enter (fun fewer inside => onward inside child) (deeper taken child)
  · exact .nil

end Step

/-- What pieces find from two directories that hold the same is the same, path by path. -/
theorem Twins.expand (fuel : Nat) {fuel' : Nat} {names : List Text} {p q : Path}
    {pieces : List (List Token)} (tame : ∀ piece ∈ pieces, Tame piece)
    (twins : Twins a b names p q)
    (ample : need a.tree pieces.length (a.place ++ names) < fuel)
    (ample' : need b.tree pieces.length (b.place ++ names) < fuel') :
    List.Forall₂ (Paired a b) (expand a.tree fuel p pieces) (expand b.tree fuel' q pieces) := by
  induction fuel generalizing fuel' names p q pieces with
  | zero => omega
  | succ fuel ih =>
    obtain ⟨fuel', rfl⟩ : ∃ n, fuel' = n + 1 := ⟨fuel' - 1, by omega⟩
    cases pieces with
    | nil => exact .cons ⟨names, twins⟩ .nil
    | cons piece rest =>
      obtain ⟨first, later⟩ := List.forall_mem_cons.mp tame
      -- Fuel is enough for fewer pieces, wherever they are followed from.
      have onward : ∀ {others : List Text} {p q : Path} {fewer : List (List Token)}, fewer <:+ rest →
          Twins a b others p q → List.Forall₂ (Paired a b) (Glob.expand a.tree fuel p fewer)
            (Glob.expand b.tree fuel' q fewer) := by
        intro others p q fewer inside twins
        have less : fewer.length < (piece :: rest).length := Nat.lt_succ_of_le inside.length_le
        have saved := need_lt_of_fewer a.tree less (a.place ++ names) (a.place ++ others)
        have saved' := need_lt_of_fewer b.tree less (b.place ++ names) (b.place ++ others)
        exact ih (fun piece member => later piece (inside.subset member)) twins (by omega) (by omega)
      cases literal : literal? piece with
      | some name =>
        exact twins.expand_literal sound sound' alike first literal (onward (List.suffix_refl rest))
      | none =>
        refine twins.expand_open sound sound' alike first literal onward fun {name} _ _ taken child => ?_
        have collapsed := collapsed_sublist piece rest
        have taken' : (b.tree.lookup (b.place ++ names ++ [name])).isSome := by
          rwa [List.append_assoc, alike]
        rw [← List.append_assoc] at taken
        have saved := need_lt_of_deeper sound.wellformed collapsed.length_le taken
        have saved' := need_lt_of_deeper sound'.wellformed collapsed.length_le taken'
        rw [List.append_assoc] at saved saved'
        exact ih (fun other member => tame other (collapsed.subset member)) child (by omega) (by omega)

end Expanding

end DocSite.Glob
