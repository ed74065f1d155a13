/-
# DocSite.Proofs.Glob.Literal -- patterns that begin with a plain path

Characters without a meaning of their own stand for themselves. A pattern that follows a plain path and a
slash is well-formed just if it is so alone (`read_lead`), and is cut into the pieces of both
(`pieces_lead`). Where a plain path leads to a directory, its pieces lead there too
(`expand_literal`).
-/
import DocSite.Glob
import DocSite.Proofs.FileTree.Writing
import DocSite.Proofs.Mapping
import Mathlib.Tactic.Ring

set_option autoImplicit false

namespace DocSite.Glob

open Text
open FileTree (directory_of_follow inner_pieces)
open DocSite.Path (IsName)

/-! ## Reading -/

/-- Whether a character has a meaning of its own in patterns. -/
def isSpecial (c : Char) : Bool := c == '*' || c == '?' || c == '['

/-- Whether a text stands for itself. -/
def Plain (text : Text) : Prop := ∀ c ∈ text, isSpecial c = false

instance (text : Text) : Decidable (Plain text) :=
  List.decidableBAll (fun c => isSpecial c = false) text

variable {text before piece : Text}

theorem Plain.mono (plain : Plain text) (inside : ∀ c ∈ piece, c ∈ text) : Plain piece :=
  fun c member => plain c (inside c member)

theorem tokens_cons {c : Char} (plain : isSpecial c = false) (fresh : Bool) (fuel : Nat)
    (rest : Text) : tokens? fresh (fuel + 1) (c :: rest) =
      (tokens? (c == '/') fuel rest).map (.char c :: ·) := by
  simp only [isSpecial, Bool.or_eq_false_iff, beq_eq_false_iff_ne] at plain
  obtain ⟨⟨notStar, notMark⟩, notBracket⟩ := plain
  conv_lhs => unfold tokens?
  rw [if_neg notMark, if_neg notStar, if_neg notBracket]

/-- A plain text is a pattern of its characters. -/
theorem read_plain (plain : Plain text) : read? text = some (text.map .char) := by
  have step : ∀ fresh, tokens? fresh (text.length + 1) text = some (text.map .char) := by
    induction text with
    | nil => exact fun _ => rfl
    | cons c rest ih =>
      obtain ⟨first, later⟩ := List.forall_mem_cons.mp plain
      intro fresh
      rw [List.length_cons, tokens_cons first, ih later]
      rfl
  exact step true

/-- After a plain path and a slash a pattern is read as it is alone. -/
theorem read_lead (plain : Plain before) (text : Text) :
    read? (before ++ '/' :: text) = (read? text).map ((before ++ ['/']).map .char ++ ·) := by
  have step : ∀ fresh, tokens? fresh ((before ++ '/' :: text).length + 1) (before ++ '/' :: text) =
      (read? text).map ((before ++ ['/']).map .char ++ ·) := by
    induction before with
    | nil =>
      intro fresh
      exact tokens_cons (by decide) fresh _ text
    | cons c rest ih =>
      obtain ⟨first, later⟩ := List.forall_mem_cons.mp plain
      intro fresh
      rw [List.cons_append, List.length_cons, tokens_cons first, ih later, Option.map_map]
      rfl
  exact step true

theorem literal_eq_some {tokens : List Token} {name : Text} :
    literal? tokens = some name ↔ tokens = name.map .char := by
  induction tokens generalizing name with
  | nil => cases name <;> simp [literal?]
  | cons token rest ih =>
    cases token with
    | char c => cases name <;> simp [literal?, ih, and_comm]
    | _ => cases name <;> simp [literal?]

/-- A character with a meaning of its own never stands for itself. -/
theorem literal_of_special {c : Char} {fresh : Bool} {fuel : Nat} {rest : Text} {tokens : List Token}
    (special : isSpecial c = true) (read : tokens? fresh (fuel + 1) (c :: rest) = some tokens) :
    literal? tokens = none := by
  have ahead : ∀ {found : Option (List Token)} {token : Token}, (∀ a, token ≠ .char a) →
      found.map (token :: ·) = some tokens → literal? tokens = none := by
    intro found token other same
    obtain ⟨more, -, rfl⟩ := Option.map_eq_some_iff.mp same
    cases token with
    | char a => exact absurd rfl (other a)
    | _ => rfl
  rw [tokens?.eq_def] at read
  dsimp only at read
  split at read
  · exact ahead (by simp) read
  next notMark =>
    split at read
    · split at read
      · cases read
      · split at read
        · cases read
        · split at read
          · cases read
            rfl
          · exact ahead (by simp) read
          · cases read
      · exact ahead (by simp) read
    next notStar =>
      have bracket : c = '[' := by simpa [isSpecial, notMark, notStar] using special
      rw [if_pos bracket] at read
      split at read
      · split at read
        · exact ahead (by simp) read
        · cases read
      · split at read
        · exact ahead (by simp) read
        · cases read

/-- Only a text itself is read as the pattern of its characters. -/
theorem eq_of_literal {name : Text} {tokens : List Token} (read : read? text = some tokens)
    (literal : literal? tokens = some name) : text = name := by
  have step : ∀ (fuel : Nat) (fresh : Bool) (text name : Text) (tokens : List Token),
      text.length < fuel → tokens? fresh fuel text = some tokens → literal? tokens = some name →
      text = name := by
    intro fuel
    induction fuel with
    | zero => intro _ _ _ _ enough; omega
    | succ fuel ih =>
      intro fresh text name tokens enough read literal
      cases text with
      | nil =>
        cases read
        exact Option.some.inj literal
      | cons c rest =>
        cases plain : isSpecial c with
        | true =>
          rw [literal_of_special plain read] at literal
          cases literal
        | false =>
          rw [tokens_cons plain] at read
          obtain ⟨tokens', read', rfl⟩ := Option.map_eq_some_iff.mp read
          obtain ⟨name', literal', rfl⟩ := Option.map_eq_some_iff.mp literal
          have shorter : rest.length < fuel := by simpa using enough
          rw [ih _ rest name' tokens' shorter read' literal']
  exact step _ true text name tokens (Nat.lt_succ_self _) read literal

/-! ## Pieces -/

/-- The pieces of a pattern that follows something and a slash. -/
theorem pieces_lead (before text : Text) :
    pieces (before ++ '/' :: text) = splitOn '/' before ++ pieces text := by
  have filled := splitOn_ne_nil '/' text
  simp only [pieces, splitOn_append, List.getLast?_append_of_ne_nil _ filled]
  split
  · rw [List.dropLast_append_of_ne_nil filled]
  · rfl

theorem mem_pieces (member : piece ∈ pieces text) : piece ∈ splitOn '/' text := by
  unfold pieces at member
  dsimp only at member
  split at member
  · exact (List.dropLast_sublist _).subset member
  · exact member

theorem mapM_read_plain {segments : List Text} (plain : ∀ segment ∈ segments, Plain segment) :
    segments.mapM read? = some (segments.map fun segment => segment.map .char) := by
  induction segments with
  | nil => rfl
  | cons segment rest ih =>
    obtain ⟨first, later⟩ := List.forall_mem_cons.mp plain
    rw [List.mapM_cons, read_plain first, ih later]
    rfl

/-- Every piece that has been read is that of a text without slashes, which it stands for if it has no
marks. -/
theorem exists_piece {found : List (List Token)} {tokens : List Token}
    (read : (pieces text).mapM read? = some found) (member : tokens ∈ found) :
    ∃ piece ∈ splitOn '/' text, read? piece = some tokens ∧
      ∀ name, literal? tokens = some name → '/' ∉ name := by
  have inside : ∀ piece ∈ pieces text, piece ∈ splitOn '/' text := fun piece => mem_pieces
  have each := Mapping.mapM_eq_some.mp read
  clear read
  generalize pieces text = list at inside each
  induction each with
  | nil => cases member
  | @cons piece tokens' _ _ here _ ih =>
    obtain ⟨first, later⟩ := List.forall_mem_cons.mp inside
    rcases List.mem_cons.mp member with rfl | member
    · refine ⟨piece, first, here, fun name literal => ?_⟩
      rw [← eq_of_literal here literal]
      exact not_mem_of_mem_splitOn first
    · exact ih member later

theorem pieces_ne_nil (filled : text ≠ []) : pieces text ≠ [] := by
  intro none
  unfold pieces at none
  dsimp only at none
  split at none
  next last =>
    -- A single piece that is empty is that of the empty text.
    obtain ⟨before, whole⟩ := List.getLast?_eq_some_iff.mp last
    rw [whole, List.dropLast_concat] at none
    have same := join_splitOn '/' text
    rw [whole, none] at same
    exact filled same.symm
  · exact splitOn_ne_nil '/' text none

/-! ## Following -/

variable {tree : FileTree} {here : Path} {place target : List Text}

theorem expand_of_literal {tokens : List Token} {name : Text} (literal : literal? tokens = some name)
    (fuel : Nat) (here : Path) (rest : List (List Token)) :
    expand tree (fuel + 1) here (tokens :: rest) =
      if (name = ['.'] ∨ name = ['.', '.']) ∧ tree.isDirectory here = true ∨
          ¬(name = ['.'] ∨ name = ['.', '.']) ∧ tree.exists? (childPath here name) = true
      then expand tree fuel (childPath here name) rest else [] := by
  rw [expand]
  simp only [literal]
  exact if_congr (by simp) rfl rfl

theorem expand_of_open {tokens : List Token} (marked : literal? tokens = none) (fuel : Nat)
    (here : Path) (rest : List (List Token)) :
    expand tree (fuel + 1) here (tokens :: rest) =
      if tree.isDirectory here then
        (dots tokens).flatMap (fun name => expand tree fuel (here.join ⟨name⟩) rest) ++
          (namesIn tree here).flatMap (enter tree (expand tree fuel) here tokens rest)
      else [] := by
  rw [expand]
  simp only [marked]

/-- The dots that a piece leads on by are two names at most, and it accepts them. -/
theorem mem_dots {tokens : List Token} {name : Text} :
    name ∈ dots tokens ↔ tokens.head? = some (.char '.') ∧ (name = ['.'] ∨ name = ['.', '.']) ∧
      accepts tokens name = true := by
  unfold dots
  split
  next begins => simp [begins, List.mem_filter, or_comm]
  next other => simp [other]

/-- Pieces for any number of directories count once if they follow each other. -/
theorem collapsed_sublist (tokens : List Token) (rest : List (List Token)) :
    (tokens :: rest.dropWhile isRecursive).Sublist (tokens :: rest) :=
  (List.dropWhile_sublist isRecursive).cons_cons tokens

theorem childPath_of_ne (away : here.text ≠ ['.']) (name : Text) :
    childPath here name = here.join ⟨name⟩ := if_neg away

theorem head_of_plain (plain : '/' ∉ text) : text.head? ≠ some '/' := by
  cases text with
  | nil => simp
  | cons c rest =>
    intro slash
    exact plain (by simp_all)

/-- What stands between slashes adds its part to a path. -/
theorem parts_join_piece (filled : here.text ≠ []) (plain : '/' ∉ piece) :
    (here.join ⟨piece⟩).parts = here.parts ++ (Path.partOf? piece).toList := by
  rw [Path.parts_join filled (head_of_plain plain), splitOn_of_not_mem plain, List.filterMap_cons]
  cases Path.partOf? piece <;> rfl

/-- A path that has been followed on is never a dot alone. -/
theorem join_ne_dot (filled : here.text ≠ []) (after : Path) : (here.join after).text ≠ ['.'] := by
  have slash : '/' ∈ (here.join after).text := by
    unfold Path.join
    split
    next absolute => exact List.mem_of_mem_head? (by simpa [Path.isAbsolute] using absolute)
    · split
      next ended =>
        have last : here.text.getLast? = some '/' := by simpa [filled] using ended
        exact List.mem_append_left _ (List.mem_of_getLast? last)
      · simp
  intro dot
  rw [dot] at slash
  simp at slash

theorem isDirectory_of_lookup (filled : here.text ≠ []) (located : tree.locate? here = some place)
    (directory : tree.lookup place = some .directory) : tree.isDirectory here = true :=
  FileTree.isDirectory_iff.mpr ⟨filled, place, located, directory⟩

theorem exists_of_lookup (filled : here.text ≠ []) (located : tree.locate? here = some place)
    (directory : tree.lookup place = some .directory) : tree.exists? here = true :=
  FileTree.exists_of_isDirectory (isDirectory_of_lookup filled located directory)

/-- Each piece adds its part. -/
theorem parts_cons (segment : Text) (segments : List Text) :
    (segment :: segments).filterMap Path.partOf? =
      (Path.partOf? segment).toList ++ segments.filterMap Path.partOf? := by
  rw [List.filterMap_cons]
  cases Path.partOf? segment <;> rfl

theorem locate_join_piece (filled : here.text ≠ []) (plain : '/' ∉ piece)
    (located : tree.locate? here = some place) :
    tree.locate? (here.join ⟨piece⟩) = tree.follow place (Path.partOf? piece).toList := by
  rw [FileTree.locate?] at located
  rw [FileTree.locate?, parts_join_piece filled plain, FileTree.follow_append, located, Option.bind_some]

/-- Where a plain path leads to a directory, its pieces lead there as well. -/
theorem expand_literal {segments : List Text} (plain : ∀ segment ∈ segments, '/' ∉ segment)
    (filled : here.text ≠ []) (away : here.text ≠ ['.'])
    (located : tree.locate? here = some place)
    (found : tree.follow place (segments.filterMap Path.partOf?) = some target)
    (directory : tree.lookup target = some .directory) :
    ∃ there : Path, there.text ≠ [] ∧ there.text ≠ ['.'] ∧
      there.parts = here.parts ++ segments.filterMap Path.partOf? ∧
      ∀ fuel rest, expand tree (fuel + segments.length) here
          ((segments.map fun segment => segment.map .char) ++ rest) =
        expand tree fuel there rest := by
  induction segments generalizing here place with
  | nil => exact ⟨here, filled, away, by simp, fun fuel rest => rfl⟩
  | cons segment segments ih =>
    obtain ⟨first, later⟩ := List.forall_mem_cons.mp plain
    have filled' : (here.join ⟨segment⟩).text ≠ [] := Path.join_ne_nil filled
    have there := directory_of_follow (inner_pieces (segment :: segments)) found directory
    rw [parts_cons, FileTree.follow_append] at found
    -- The place that the piece leads to, from which the others lead on.
    obtain ⟨next, step, found'⟩ := Option.bind_eq_some_iff.mp found
    have located' := (locate_join_piece filled first located).trans step
    have there' := directory_of_follow (inner_pieces segments) found' directory
    obtain ⟨last, filled'', away', parts', same⟩ :=
      ih later filled' (join_ne_dot filled _) located' found'
    refine ⟨last, filled'', away', ?_, fun fuel rest => ?_⟩
    · rw [parts', parts_join_piece filled first, List.append_assoc, parts_cons]
    · rw [List.map_cons, List.cons_append, List.length_cons, ← Nat.add_assoc,
        expand_of_literal (literal_eq_some.mpr rfl), childPath_of_ne away, ← same, if_pos]
      by_cases dots : segment = ['.'] ∨ segment = ['.', '.']
      · exact Or.inl ⟨dots, isDirectory_of_lookup filled located there⟩
      · exact Or.inr ⟨dots, exists_of_lookup filled' located' there'⟩

/-! ## Patterns that follow a base directory -/

/-- What is found of a pattern that begins with plain pieces. -/
theorem find_segments {full : Path} {pattern : Text} {segments : List Text}
    (nonempty : pattern ≠ []) (cut : pieces (afterRoot full) = segments ++ pieces pattern)
    (plain : ∀ segment ∈ segments, Plain segment)
    (read : (read? full.text).isNone = (read? pattern).isNone)
    (last : full.text.getLast? = pattern.getLast?) :
    find? full tree = if (read? pattern).isNone then none
      else ((pieces pattern).mapM read?).map fun found =>
        let paths := expand tree (bound tree (segments.length + found.length)) (start full)
          ((segments.map fun segment => segment.map .char) ++ found)
        if pattern.getLast? = some '/' then paths.filter (tree.isDirectory ·) else paths := by
  have filled := pieces_ne_nil nonempty
  have rest : (afterRoot full).isEmpty = false := by
    cases empty : afterRoot full with
    | nil =>
      rw [empty] at cut
      exact absurd (List.append_eq_nil_iff.mp cut.symm).2 filled
    | cons => rfl
  unfold find?
  rw [read, last]
  refine if_congr Iff.rfl rfl ?_
  rw [cut, List.mapM_append, mapM_read_plain plain]
  cases found : (pieces pattern).mapM read? with
  | none => rfl
  | some found' =>
    have lengths := Mapping.length_of_mapM found
    have nonempty' : found' ≠ [] := by
      intro empty
      rw [empty] at lengths
      exact filled (List.length_eq_zero_iff.mp lengths.symm)
    simp [rest, nonempty']

/-- The parts of what stands before a slash. -/
theorem parts_lead_root (before : Text) :
    Path.parts ⟨'/' :: before ++ ['/']⟩ = .root :: (splitOn '/' before).filterMap Path.partOf? := by
  have whole := Path.parts_append [] (before ++ ['/'])
  rw [List.nil_append, List.nil_append, splitOn_append, List.filterMap_append] at whole
  rw [List.cons_append, whole]
  simp [splitOn, Path.parts, Path.partOf?]

theorem parts_lead_relative {before first : Text} {more : List Text}
    (pieces : splitOn '/' before = first :: more) (filled : first ≠ []) (away : first ≠ ['.']) :
    Path.parts ⟨before ++ ['/']⟩ =
      (Path.partOf? first).toList ++ more.filterMap Path.partOf? := by
  have whole : splitOn '/' (before ++ ['/']) = first :: (more ++ [[]]) := by
    rw [splitOn_append, pieces]
    rfl
  rw [Path.parts, whole]
  simp [filled, away, List.filterMap_append, Path.partOf?]

/-- A base directory with the slash that what follows it stands behind. -/
theorem exists_lead {base : Path} (filled : base.text ≠ []) : ∃ before : Text,
    base.parts = Path.parts ⟨before ++ ['/']⟩ ∧ (∀ c ∈ before, c ∈ base.text) ∧
    ∀ after : Text, after.head? ≠ some '/' →
      (base.join ⟨after⟩).text = before ++ '/' :: after := by
  have relative : ∀ {after : Text}, after.head? ≠ some '/' → Path.isAbsolute ⟨after⟩ = false :=
    fun other => by simpa [Path.isAbsolute] using other
  by_cases ended : base.text.getLast? = some '/'
  · obtain ⟨before, whole⟩ := List.getLast?_eq_some_iff.mp ended
    refine ⟨before, by rw [← whole], fun c member => by simp [whole, member], fun after other => ?_⟩
    simp [Path.join, relative other, whole]
  · refine ⟨base.text, (Path.parts_slash filled).symm, fun c member => member, fun after other => ?_⟩
    simp [Path.join, relative other, filled, ended]

theorem mem_of_mem_splitOn {separator c : Char} (member : piece ∈ splitOn separator text)
    (present : c ∈ piece) : c ∈ text := by
  induction text generalizing piece with
  | nil => simp_all [splitOn]
  | cons d rest ih =>
    rw [splitOn] at member
    cases pieces : splitOn separator rest with
    | nil => exact absurd pieces (splitOn_ne_nil separator rest)
    | cons first more =>
      rw [pieces] at member ih
      by_cases hit : d = separator
      · rw [if_pos hit] at member
        rcases List.mem_cons.mp member with rfl | member
        · cases present
        · exact List.mem_cons_of_mem _ (ih member present)
      · rw [if_neg hit] at member
        rcases List.mem_cons.mp member with rfl | member
        · rcases List.mem_cons.mp present with rfl | present
          · exact List.mem_cons_self ..
          · exact List.mem_cons_of_mem _ (ih (List.mem_cons_self ..) present)
        · exact List.mem_cons_of_mem _ (ih (List.mem_cons_of_mem _ member) present)

/-- The first piece of a base directory that is searched for from nowhere leads where it says. -/
theorem expand_first {first : Text} (plain : '/' ∉ first) (filled : first ≠ []) (away : first ≠ ['.'])
    (found : tree.follow tree.home (Path.partOf? first).toList = some place)
    (directory : tree.lookup place = some .directory) (fuel : Nat) (rest : List (List Token)) :
    Path.parts ⟨first⟩ = (Path.partOf? first).toList ∧
      tree.locate? ⟨first⟩ = some place ∧
      expand tree (fuel + 1) ⟨['.']⟩ (first.map .char :: rest) = expand tree fuel ⟨first⟩ rest := by
  have parts : Path.parts ⟨first⟩ = (Path.partOf? first).toList := by
    rw [Path.parts, splitOn_of_not_mem plain]
    simp [filled, away]
  have located : tree.locate? ⟨first⟩ = some place := by
    rw [FileTree.locate?, parts]
    exact found
  refine ⟨parts, located, ?_⟩
  have child : childPath ⟨['.']⟩ first = ⟨first⟩ := if_pos rfl
  rw [expand_of_literal (literal_eq_some.mpr rfl), child, if_pos]
  by_cases up : first = ['.', '.']
  · subst up
    have home : tree.lookup tree.home = some .directory :=
      directory_of_follow (show FileTree.Inner [.up] by simp [FileTree.Inner]) found directory
    exact Or.inl ⟨Or.inr rfl, isDirectory_of_lookup (by simp) rfl home⟩
  · exact Or.inr ⟨by simp [away, up], exists_of_lookup filled located directory⟩

/-- Pieces without marks stand for a base directory in every pattern that follows it, and lead to a path that
names the same directory. -/
structure Spells (tree : FileTree) (base : Path) (segments : List Text) (there : Path) : Prop where
  filled : there.text ≠ []
  away : there.text ≠ ['.']
  parts : there.parts = base.parts
  inside : ∀ segment ∈ segments, ∀ c ∈ segment, c ∈ base.text
  cut : ∀ pattern : Text, pattern.head? ≠ some '/' →
    pieces (afterRoot (base.join ⟨pattern⟩)) = segments ++ pieces pattern
  leads : ∀ pattern : Text, pattern.head? ≠ some '/' → ∀ fuel rest,
    expand tree (fuel + segments.length) (start (base.join ⟨pattern⟩))
        ((segments.map fun segment => segment.map .char) ++ rest) =
      expand tree fuel there rest

section Base

variable {base : Path} (located : tree.locate? base = some place)
  (directory : tree.lookup place = some .directory)
include located directory

theorem exists_spells_absolute {rest : Text} (parts : base.parts = Path.parts ⟨'/' :: rest ++ ['/']⟩)
    (inside : ∀ c ∈ rest, c ∈ base.text)
    (texts : ∀ after : Text, after.head? ≠ some '/' →
      (base.join ⟨after⟩).text = '/' :: rest ++ '/' :: after) :
    ∃ segments there, Spells tree base segments there := by
  rw [parts_lead_root] at parts
  rw [FileTree.locate?, parts] at located
  have plain : ∀ segment ∈ splitOn '/' rest, '/' ∉ segment := fun segment => not_mem_of_mem_splitOn
  have root : tree.locate? ⟨['/']⟩ = some [] := rfl
  obtain ⟨there, filled, away, parts', leads⟩ :=
    expand_literal plain (by simp) (by simp) root located directory
  have absolute : ∀ {pattern : Text}, pattern.head? ≠ some '/' →
      (base.join ⟨pattern⟩).isAbsolute = true :=
    fun relative => by simp [Path.isAbsolute, texts _ relative]
  refine ⟨splitOn '/' rest, there, filled, away, parts'.trans parts.symm, ?_, ?_, ?_⟩
  · exact fun segment member c present => inside c (mem_of_mem_splitOn member present)
  · intro pattern relative
    rw [afterRoot, absolute relative, texts pattern relative]
    exact pieces_lead rest pattern
  · intro pattern relative
    rw [start, absolute relative]
    exact leads

theorem exists_spells_relative {before : Text} (parts : base.parts = Path.parts ⟨before ++ ['/']⟩)
    (away : base.parts.head? ≠ some .here) (relative : before.head? ≠ some '/') (filled : before ≠ [])
    (inside : ∀ c ∈ before, c ∈ base.text)
    (texts : ∀ after : Text, after.head? ≠ some '/' →
      (base.join ⟨after⟩).text = before ++ '/' :: after) :
    ∃ segments there, Spells tree base segments there := by
  obtain ⟨c, rest, rfl⟩ := List.exists_cons_of_ne_nil filled
  have unslashed : c ≠ '/' := by simpa using relative
  cases cut : splitOn '/' (c :: rest) with
  | nil => exact absurd cut (splitOn_ne_nil '/' _)
  | cons first more =>
    have plain : ∀ segment ∈ first :: more, '/' ∉ segment :=
      fun segment member => not_mem_of_mem_splitOn (cut ▸ member)
    obtain ⟨plain, plain'⟩ := List.forall_mem_cons.mp plain
    have filled : first ≠ [] := by
      intro empty
      rw [splitOn, if_neg unslashed] at cut
      split at cut <;> simp_all
    have undotted : first ≠ ['.'] := by
      rintro rfl
      refine away ?_
      rw [parts, Path.parts, splitOn_append, cut]
      simp
    rw [parts_lead_relative cut filled undotted] at parts
    rw [FileTree.locate?, parts, FileTree.follow_append] at located
    obtain ⟨next, step, located⟩ := Option.bind_eq_some_iff.mp located
    have there := directory_of_follow (inner_pieces more) located directory
    have firstly := expand_first plain filled undotted step there
    obtain ⟨parts', located', -⟩ := firstly 0 []
    obtain ⟨last, filled', away', parts'', leads⟩ :=
      expand_literal plain' filled undotted located' located directory
    have begins : ∀ {pattern : Text}, pattern.head? ≠ some '/' →
        (base.join ⟨pattern⟩).isAbsolute = false :=
      fun relative => by simp [Path.isAbsolute, texts _ relative, unslashed]
    refine ⟨first :: more, last, filled', away', by rw [parts'', parts', parts], ?_, ?_, ?_⟩
    · intro segment member d present
      rw [← cut] at member
      exact inside d (mem_of_mem_splitOn member present)
    · intro pattern relative
      rw [afterRoot, begins relative, texts pattern relative, ← cut]
      exact pieces_lead _ pattern
    · intro pattern relative fuel tokens
      rw [start, begins relative, List.length_cons, ← Nat.add_assoc]
      exact (firstly _ _).2.2.trans (leads fuel tokens)

/-- The pieces of a base directory lead to it. -/
theorem exists_spells (filled : base.text ≠ []) (away : base.parts.head? ≠ some .here) :
    ∃ segments there, Spells tree base segments there := by
  obtain ⟨before, parts, inside, texts⟩ := exists_lead filled
  cases before with
  | nil =>
    refine ⟨[], ⟨['/']⟩, by simp, by simp, parts.symm, by simp, fun pattern relative => ?_,
      fun pattern relative => ?_⟩
    · simp [afterRoot, Path.isAbsolute, texts pattern relative]
    · simp [start, Path.isAbsolute, texts pattern relative]
  | cons c rest =>
    by_cases absolute : c = '/'
    · subst absolute
      exact exists_spells_absolute located directory parts (fun c member => inside c (.tail _ member)) texts
    · exact exists_spells_relative located directory parts away (by simpa using absolute)
        (List.cons_ne_nil c rest) inside texts

end Base

/-- A pattern that follows a plain base directory is searched for from there. -/
theorem find_join {base : Path} (filled : base.text ≠ []) (plain : Plain base.text)
    (away : base.parts.head? ≠ some .here) (located : tree.locate? base = some place)
    (directory : tree.lookup place = some .directory) :
    ∃ there : Path, there.text ≠ [] ∧ there.text ≠ ['.'] ∧ there.parts = base.parts ∧
      ∀ pattern : Text, pattern ≠ [] → pattern.head? ≠ some '/' →
        ∃ fuel, bound tree (pieces pattern).length ≤ fuel ∧
          find? (base.join ⟨pattern⟩) tree = if (read? pattern).isNone then none
            else ((pieces pattern).mapM read?).map fun found =>
              let paths := expand tree fuel there found
              if pattern.getLast? = some '/' then paths.filter (tree.isDirectory ·) else paths := by
  obtain ⟨segments, there, spells⟩ := exists_spells located directory filled away
  refine ⟨there, spells.filled, spells.away, spells.parts, fun pattern nonempty relative => ?_⟩
  have leads := spells.leads pattern relative
  obtain ⟨before, -, inside', texts⟩ := exists_lead filled
  have text := texts pattern relative
  have read : (read? (base.join ⟨pattern⟩).text).isNone = (read? pattern).isNone := by
    rw [text, read_lead (plain.mono inside') pattern, Option.isNone_map]
  have last : (base.join ⟨pattern⟩).text.getLast? = pattern.getLast? := by
    rw [text, List.append_cons, List.getLast?_append_of_ne_nil _ nonempty]
  -- What the pieces of the base directory use up is more than is needed for them.
  have split : bound tree (segments.length + (pieces pattern).length) =
      bound tree (pieces pattern).length + segments.length * depth tree + segments.length := by
    simp only [bound]
    ring
  refine ⟨bound tree (pieces pattern).length + segments.length * depth tree, Nat.le_add_right _ _, ?_⟩
  rw [find_segments nonempty (spells.cut pattern relative)
    (fun segment member => plain.mono (spells.inside segment member)) read last]
  refine if_congr Iff.rfl rfl ?_
  cases found : (pieces pattern).mapM read? with
  | none => rfl
  | some found' =>
    simp only [Option.map_some, Mapping.length_of_mapM found, split, leads]

end DocSite.Glob
