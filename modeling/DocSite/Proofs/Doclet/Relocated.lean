/-
# DocSite.Proofs.Doclet.Relocated -- references do not depend on where the sources lie

The files that patterns name are searched for from a base directory. If two base directories hold the same,
the same files are found below both, in the same order (`collect_relocated`): always for patterns that
name directories, and for other ones if the path of the base directory stands for itself when it is read as
the beginning of a pattern.
-/
import DocSite.Doclet.Adapter
import DocSite.Proofs.Glob.Relocated
import DocSite.Proofs.Path.Order

set_option autoImplicit false

namespace DocSite.Doclet

open Text
open DocSite.Path (IsName Part)
open Glob (Spot Twins Paired Plain Tame)

/-! ## Patterns and base directories -/

/-- A pattern that stays below the directory it is followed from: it is relative, and none of its pieces
leads up. -/
structure Inside (pattern : Text) : Prop where
  relative : pattern.head? ≠ some '/'
  stays : ∀ piece ∈ splitOn '/' pattern, ∀ tokens, Glob.read? piece = some tokens →
    Glob.climbs tokens = false

/-- Whether a pattern stays below the directory it is followed from can be seen piece by piece. -/
theorem inside_iff {pattern : Text} : Inside pattern ↔ (pattern.head? != some '/' &&
    (splitOn '/' pattern).all fun piece => (Glob.read? piece).all (!Glob.climbs ·)) = true := by
  rw [Bool.and_eq_true, bne_iff_ne, List.all_eq_true]
  constructor
  · rintro ⟨relative, stays⟩
    refine ⟨relative, fun piece member => ?_⟩
    cases read : Glob.read? piece with
    | none => rfl
    | some tokens => simp [stays piece member tokens read]
  · rintro ⟨relative, stays⟩
    exact ⟨relative, fun piece member tokens read => by simpa [read] using stays piece member⟩

/-- A base directory whose path stands for itself as the beginning of a pattern. -/
structure Literal (base : Path) : Prop where
  plain : Plain base.text
  away : base.parts.head? ≠ some .here

instance (base : Path) : Decidable (Literal base) :=
  decidable_of_iff (Plain base.text ∧ base.parts.head? ≠ some .here)
    ⟨fun ⟨plain, away⟩ => ⟨plain, away⟩, fun ⟨plain, away⟩ => ⟨plain, away⟩⟩

variable {a b spot : Spot} {p q r s : Path} {pattern : Text} {extensions : List Text}

/-- The names that a pattern is made of if it is taken as a path. -/
theorem Inside.exists_names (inside : Inside pattern) : ∃ names : List Text,
    (∀ name ∈ names, IsName name) ∧
    (splitOn '/' pattern).filterMap Path.partOf? = names.map .name := by
  have pieces : ∀ piece ∈ splitOn '/' pattern, '/' ∉ piece ∧ piece ≠ ['.', '.'] := by
    intro piece member
    refine ⟨not_mem_of_mem_splitOn member, ?_⟩
    rintro rfl
    exact absurd (inside.stays _ member _ rfl) (by decide)
  generalize splitOn '/' pattern = list at pieces
  induction list with
  | nil => exact ⟨[], by simp⟩
  | cons piece rest ih =>
    obtain ⟨⟨plain, notUp⟩, later⟩ := List.forall_mem_cons.mp pieces
    obtain ⟨names, named, same⟩ := ih later
    rw [List.filterMap_cons, same]
    cases part : Path.partOf? piece with
    | none => exact ⟨names, named, rfl⟩
    | some part' =>
      have named' : part' = .name piece ∧ IsName piece := by
        have named' := part
        unfold Path.partOf? at named'
        rw [if_neg notUp] at named'
        split at named'
        · cases named'
        · cases named'
          exact ⟨rfl, Path.isName_of_partOf plain part⟩
      rw [named'.1]
      exact ⟨piece :: names, List.forall_mem_cons.mpr ⟨named'.2, named⟩, rfl⟩

/-! ## Counterparts -/

/-- Paths that lead on from their base directories alike. -/
def Counterparts (a b : Spot) (p q : Path) : Prop :=
  ∃ rest, rest ≠ [] ∧ p.parts = a.base.parts ++ rest ∧ q.parts = b.base.parts ++ rest

theorem Counterparts.name (counterparts : Counterparts a b p q) : q.name? = p.name? := by
  obtain ⟨rest, filled, parts, parts'⟩ := counterparts
  rw [Path.name?, Path.name?, parts, parts', List.getLast?_append_of_ne_nil _ filled,
    List.getLast?_append_of_ne_nil _ filled]

theorem Counterparts.isTest (counterparts : Counterparts a b p q) : isTest q = isTest p := by
  rw [Doclet.isTest, counterparts.name, Doclet.isTest]

theorem Counterparts.hasExtension (counterparts : Counterparts a b p q) (extensions : List Text) :
    hasExtension extensions q = hasExtension extensions p := by
  rw [Doclet.hasExtension, Path.extension?, counterparts.name, Doclet.hasExtension, Path.extension?]

theorem Counterparts.compare (first : Counterparts a b p q) (second : Counterparts a b r s) :
    Path.compare q s = Path.compare p r := by
  obtain ⟨rest, -, parts, parts'⟩ := first
  obtain ⟨more, -, parts'', parts'''⟩ := second
  rw [Path.compare, Path.compare, parts, parts', parts'', parts''', Path.compareParts_append,
    Path.compareParts_append]

theorem Counterparts.insertPath {found found' : List Path} (counterparts : Counterparts a b p q)
    (each : List.Forall₂ (Counterparts a b) found found') :
    List.Forall₂ (Counterparts a b) (insertPath p found) (insertPath q found') := by
  induction each with
  | nil => exact .cons counterparts .nil
  | cons first rest ih =>
    unfold Doclet.insertPath
    rw [counterparts.compare first]
    split
    · exact .cons counterparts (.cons first rest)
    · exact .cons first rest
    · exact .cons first ih

theorem counterparts_below {found found' : List Path}
    (each : List.Forall₂ (Counterparts a b) found found') : ∃ rests : List (List Part),
      found.map (Path.below? a.base) = rests.map some ∧
      found'.map (Path.below? b.base) = rests.map some := by
  induction each with
  | nil => exact ⟨[], rfl, rfl⟩
  | cons first _ ih =>
    obtain ⟨rest, -, parts, parts'⟩ := first
    obtain ⟨rests, same, same'⟩ := ih
    refine ⟨rest :: rests, ?_, ?_⟩
    · rw [List.map_cons, Path.below_eq_some.mpr parts, same, List.map_cons]
    · rw [List.map_cons, Path.below_eq_some.mpr parts', same', List.map_cons]

theorem forall₂_filter {R S : Path → Path → Prop} {f g : Path → Bool} {found found' : List Path}
    (same : ∀ p q, R p q → g q = f p) (kept : ∀ p q, R p q → f p = true → S p q)
    (each : List.Forall₂ R found found') : List.Forall₂ S (found.filter f) (found'.filter g) := by
  induction each with
  | nil => exact .nil
  | @cons p q _ _ first _ ih =>
    rw [List.filter_cons, List.filter_cons, same p q first]
    split
    next passes => exact .cons (kept p q first passes) ih
    · exact ih

/-! ## Files that patterns name -/

/-- The files below a directory have counterparts below another one that holds the same. -/
theorem counterparts_files {names : List Text} (sound : a.Sound) (sound' : b.Sound)
    (alike : a.Alike b) (filled : p.text ≠ []) (filled' : q.text ≠ [])
    (parts : p.parts = a.base.parts ++ names.map .name)
    (parts' : q.parts = b.base.parts ++ names.map .name)
    (located : a.tree.locate? p = some (a.place ++ names))
    (located' : b.tree.locate? q = some (b.place ++ names)) :
    List.Forall₂ (Counterparts a b) (filesBelow a.tree p) (filesBelow b.tree q) := by
  have same : b.tree.below (b.place ++ names) = a.tree.below (a.place ++ names) :=
    FileTree.below_congr sound.wellformed sound'.wellformed fun others _ => by
      rw [List.append_assoc, List.append_assoc, alike]
  have each : ∀ entry ∈ a.tree.below (a.place ++ names),
      entry.1 ≠ [] ∧ ∀ name ∈ entry.1, IsName name := by
    intro (others, entry) member
    obtain ⟨filled, found⟩ := sound.wellformed.mem_below.mp member
    have named := sound.wellformed.isName_of_lookup (by rw [found]; rfl)
    exact ⟨filled, fun name inside => named name (List.mem_append_right _ inside)⟩
  rw [filesBelow, located, filesBelow, located']
  dsimp only
  rw [same]
  generalize a.tree.below (a.place ++ names) = entries at each
  induction entries with
  | nil => exact .nil
  | cons first rest ih =>
    obtain ⟨⟨nonempty, named⟩, later⟩ := List.forall_mem_cons.mp each
    obtain ⟨others, entry⟩ := first
    cases entry with
    | directory => exact ih later
    | file content =>
      refine .cons ⟨names.map .name ++ others.map .name, by simp [nonempty], ?_, ?_⟩ (ih later)
      · rw [Path.parts_join_names filled nonempty named, parts, List.append_assoc]
      · rw [Path.parts_join_names filled' nonempty named, parts', List.append_assoc]

/-- A pattern that stays below a directory names a directory if there is one at its names. -/
theorem Inside.locate (inside : Inside pattern) (sound : spot.Sound) {names : List Text}
    (same : (splitOn '/' pattern).filterMap Path.partOf? = names.map .name) :
    (spot.base.join ⟨pattern⟩).parts = spot.base.parts ++ names.map .name ∧
      (spot.tree.isDirectory (spot.base.join ⟨pattern⟩) = true ↔
        spot.tree.lookup (spot.place ++ names) = some .directory) ∧
      (spot.tree.lookup (spot.place ++ names) = some .directory →
        spot.tree.locate? (spot.base.join ⟨pattern⟩) = some (spot.place ++ names)) := by
  have parts := Path.parts_join sound.filled inside.relative
  rw [same] at parts
  have located : spot.tree.locate? (spot.base.join ⟨pattern⟩) =
      spot.tree.follow spot.place (names.map .name) := by
    have base := sound.located
    rw [FileTree.locate?] at base ⊢
    rw [parts, FileTree.follow_append, base]
    rfl
  have leads : spot.tree.lookup (spot.place ++ names) = some .directory →
      spot.tree.locate? (spot.base.join ⟨pattern⟩) = some (spot.place ++ names) := by
    intro directory
    rw [located]
    refine sound.wellformed.follow_names fun filled => ?_
    rw [← List.dropLast_append_getLast filled, ← List.append_assoc] at directory
    exact sound.wellformed.rooted _ _ (by rw [directory]; rfl)
  refine ⟨parts, ⟨fun directory => ?_, fun directory => ?_⟩, leads⟩
  · obtain ⟨-, place, found, there⟩ := FileTree.isDirectory_iff.mp directory
    rw [located] at found
    rwa [← FileTree.eq_of_follow_names found]
  · exact FileTree.isDirectory_iff.mpr ⟨Path.join_ne_nil sound.filled, _, leads directory, directory⟩

/-- The pieces of a pattern that stays below a directory are tame. -/
theorem Inside.tame (inside : Inside pattern) {found : List (List Glob.Token)}
    (read : (Glob.pieces pattern).mapM Glob.read? = some found) : ∀ piece ∈ found, Tame piece := by
  intro piece member
  obtain ⟨text, listed, here, plain⟩ := Glob.exists_piece read member
  exact ⟨inside.stays text listed piece here, plain⟩

/-- What a pattern finds below a directory that stands for itself has counterparts below another
one. -/
theorem counterparts_found (sound : a.Sound) (sound' : b.Sound) (alike : a.Alike b)
    (literal : Literal a.base) (literal' : Literal b.base) (inside : Inside pattern)
    (nonempty : pattern ≠ []) :
    Option.Rel (List.Forall₂ (Paired a b)) (Glob.find? (a.base.join ⟨pattern⟩) a.tree)
      (Glob.find? (b.base.join ⟨pattern⟩) b.tree) := by
  obtain ⟨there, filled, away, parts, finds⟩ := Glob.find_join sound.filled literal.plain literal.away
    sound.located sound.directory
  obtain ⟨there', filled', away', parts', finds'⟩ := Glob.find_join sound'.filled literal'.plain
    literal'.away sound'.located sound'.directory
  obtain ⟨fuel, ample, found⟩ := finds pattern nonempty inside.relative
  obtain ⟨fuel', ample', found'⟩ := finds' pattern nonempty inside.relative
  rw [found, found']
  split
  · exact .none
  cases read : (Glob.pieces pattern).mapM Glob.read? with
  | none => exact .none
  | some pieces =>
    have lengths := Mapping.length_of_mapM read
    rw [← lengths] at ample ample'
    have reaches := sound.reaches filled away parts
    have reaches' := sound'.reaches filled' away' parts'
    have twins : Twins a b [] there there' :=
      ⟨reaches.1, reaches'.1, reaches'.2.trans reaches.2.symm⟩
    have each : List.Forall₂ (Paired a b) (Glob.expand a.tree fuel there pieces)
        (Glob.expand b.tree fuel' there' pieces) :=
      twins.expand sound sound' alike fuel (inside.tame read)
        ((Glob.need_lt_bound ..).trans_le ample) ((Glob.need_lt_bound ..).trans_le ample')
    refine .some ?_
    dsimp only
    split
    · exact forall₂_filter (fun p q => fun ⟨names, twins⟩ => twins.isDirectory)
        (fun p q paired _ => paired) each
    · exact each

/-- Files that were found by the same names are counterparts. -/
theorem counterparts_of_paired (sound : a.Sound) (paired : Paired a b p q) :
    b.tree.isFile q = a.tree.isFile p ∧ (a.tree.isFile p = true → Counterparts a b p q) := by
  obtain ⟨names, twins⟩ := paired
  refine ⟨by rw [FileTree.isFile, twins.entry, FileTree.isFile], fun file => ?_⟩
  refine ⟨names.map .name, ?_, twins.left.parts, twins.right.parts⟩
  intro empty
  obtain ⟨content, found⟩ := FileTree.isFile_iff.mp file
  obtain ⟨-, -, place, located, there⟩ := FileTree.entryAt_eq_file.mp found
  rw [twins.left.located, List.map_eq_nil_iff.mp empty, List.append_nil] at located
  cases located
  rw [sound.directory] at there
  cases there

/-- The files that a pattern names below a directory have counterparts below another one. -/
theorem counterparts_named (sound : a.Sound) (sound' : b.Sound) (alike : a.Alike b)
    (inside : Inside pattern) (extensions : List Text)
    (literal : a.tree.isDirectory (a.base.join ⟨pattern⟩) = false →
      Literal a.base ∧ Literal b.base) :
    Option.Rel (List.Forall₂ (Counterparts a b)) (namedFiles? a.tree a.base extensions pattern)
      (namedFiles? b.tree b.base extensions pattern) := by
  obtain ⟨names, -, same⟩ := inside.exists_names
  obtain ⟨parts, directory, located⟩ := inside.locate sound same
  obtain ⟨parts', directory', located'⟩ := inside.locate sound' same
  have both : b.tree.isDirectory (b.base.join ⟨pattern⟩) =
      a.tree.isDirectory (a.base.join ⟨pattern⟩) := by
    rw [Bool.eq_iff_iff, directory, directory', alike]
  unfold namedFiles?
  dsimp only
  rw [both]
  split
  next there =>
    rw [directory] at there
    have each := counterparts_files sound sound' alike (Path.join_ne_nil sound.filled)
      (Path.join_ne_nil sound'.filled) parts parts' (located there)
      (located' (by rw [alike, there]))
    refine .some (forall₂_filter (fun p q counterparts => ?_) (fun p q same _ => same) each)
    rw [counterparts.hasExtension, counterparts.isTest]
  next elsewhere =>
    have nonempty : pattern ≠ [] := by
      rintro rfl
      cases names with
      | nil => exact elsewhere (directory.mpr (by simpa using sound.directory))
      | cons name names => cases same
    obtain ⟨plain, plain'⟩ := literal (Bool.eq_false_iff.mpr elsewhere)
    have found := counterparts_found sound sound' alike plain plain' inside nonempty
    revert found
    cases Glob.find? (a.base.join ⟨pattern⟩) a.tree <;>
      cases Glob.find? (b.base.join ⟨pattern⟩) b.tree
    · exact fun _ => .none
    · intro found; cases found
    · intro found; cases found
    · rintro ⟨each⟩
      refine .some (forall₂_filter (fun p q paired => ?_) (fun p q paired passes => ?_) each)
      · obtain ⟨file, counterparts⟩ := counterparts_of_paired sound paired
        rw [file]
        cases isFile : a.tree.isFile p with
        | false => rfl
        | true => rw [(counterparts isFile).isTest]
      · rw [Bool.and_eq_true] at passes
        exact (counterparts_of_paired sound paired).2 passes.1

/-- Files that are collected one pattern after the other keep their counterparts. -/
theorem counterparts_collected {patterns : List Text} {found found' : List Path}
    (named : ∀ pattern ∈ patterns, Option.Rel (List.Forall₂ (Counterparts a b))
      (namedFiles? a.tree a.base extensions pattern) (namedFiles? b.tree b.base extensions pattern))
    (each : List.Forall₂ (Counterparts a b) found found') :
    (∃ pattern, patterns.foldlM (addNamed a.tree a.base extensions) found = .error pattern ∧
      patterns.foldlM (addNamed b.tree b.base extensions) found' = .error pattern) ∨
    ∃ all all', patterns.foldlM (addNamed a.tree a.base extensions) found = .ok all ∧
      patterns.foldlM (addNamed b.tree b.base extensions) found' = .ok all' ∧
      List.Forall₂ (Counterparts a b) all all' := by
  induction patterns generalizing found found' with
  | nil => exact Or.inr ⟨found, found', rfl, rfl, each⟩
  | cons pattern rest ih =>
    obtain ⟨first, later⟩ := List.forall_mem_cons.mp named
    rw [List.foldlM_cons, List.foldlM_cons, addNamed, addNamed]
    revert first
    cases namedFiles? a.tree a.base extensions pattern <;>
      cases namedFiles? b.tree b.base extensions pattern
    · exact fun _ => Or.inl ⟨pattern, rfl, rfl⟩
    · intro first; cases first
    · intro first; cases first
    · rintro ⟨paths⟩
      have step : ∀ {paths paths' : List Path}, List.Forall₂ (Counterparts a b) paths paths' →
          ∀ {found found' : List Path}, List.Forall₂ (Counterparts a b) found found' →
          List.Forall₂ (Counterparts a b) (paths.foldl (fun found p => insertPath p found) found)
            (paths'.foldl (fun found p => insertPath p found) found') := by
        intro paths paths' related
        induction related with
        | nil => exact fun each => each
        | cons first _ ih => exact fun each => ih (first.insertPath each)
      exact ih later (step paths each)

/-- The same files are collected below two base directories that hold the same, in the same order, or
neither collects any: always for patterns that name directories, and for other ones if the paths of
both base directories stand for themselves. -/
theorem collect_relocated {patterns : List Text} (sound : a.Sound) (sound' : b.Sound)
    (alike : a.Alike b) (inside : ∀ pattern ∈ patterns, Inside pattern)
    (literal : ∀ pattern ∈ patterns, a.tree.isDirectory (a.base.join ⟨pattern⟩) = false →
      Literal a.base ∧ Literal b.base) (extensions : List Text) :
    ∃ found : Except Text (List (List Part)),
      (collect a.tree a.base extensions patterns).map (List.map (Path.below? a.base)) =
        found.map (List.map some) ∧
      (collect b.tree b.base extensions patterns).map (List.map (Path.below? b.base)) =
        found.map (List.map some) := by
  have named : ∀ pattern ∈ patterns, Option.Rel (List.Forall₂ (Counterparts a b))
      (namedFiles? a.tree a.base extensions pattern)
      (namedFiles? b.tree b.base extensions pattern) := fun pattern member =>
    counterparts_named sound sound' alike (inside pattern member) extensions (literal pattern member)
  rcases counterparts_collected named .nil with ⟨pattern, failed, failed'⟩ | ⟨all, all', done, done', each⟩
  · refine ⟨.error pattern, ?_, ?_⟩
    · rw [collect, failed]
      rfl
    · rw [collect, failed']
      rfl
  · obtain ⟨rests, same, same'⟩ := counterparts_below each
    refine ⟨.ok rests, ?_, ?_⟩
    · rw [collect, done]
      exact congrArg Except.ok same
    · rw [collect, done']
      exact congrArg Except.ok same'

/-! ## One library in several places -/

/-- A library in four places, one of which has brackets in its name and one of which is the root of the
others. -/
def libraryFiles : FileTree where
  entries := [
    (["a.scss".toList], .file (.text [])),
    (["p[1]".toList], .directory),
    (["p[1]".toList, "a.scss".toList], .file (.text [])),
    (["q".toList], .directory),
    (["q".toList, "a.scss".toList], .file (.text [])),
    (["r".toList], .directory),
    (["r".toList, "q".toList], .directory),
    (["r".toList, "q".toList, "a.scss".toList], .file (.text []))]
  home := []

/-- A place of the library as a path leads to it. -/
def libraryAt (base : Text) (place : List Text) : Spot := ⟨libraryFiles, ⟨base⟩, place⟩

/-- What is collected below two base directories, as paths relative to them. -/
def SameFiles (a b : Spot) (patterns : List Text) : Prop :=
  (collect a.tree a.base Sass.extensions patterns).map (List.map (Path.below? a.base)) =
    (collect b.tree b.base Sass.extensions patterns).map (List.map (Path.below? b.base))

/-- The library has the same files at a place below the root and at a deeper one. -/
theorem library_relocated :
    (libraryAt "/q".toList ["q".toList]).Sound ∧
    (libraryAt "r/q/".toList ["r".toList, "q".toList]).Sound ∧
    (libraryAt "/q".toList ["q".toList]).Alike (libraryAt "r/q/".toList ["r".toList, "q".toList]) ∧
    (∀ pattern ∈ ["**/[a-c].scss".toList, [ '.' ]], Inside pattern) ∧
    Literal ⟨"/q".toList⟩ ∧ Literal ⟨"r/q/".toList⟩ ∧
    SameFiles (libraryAt "/q".toList ["q".toList]) (libraryAt "r/q/".toList ["r".toList, "q".toList])
      ["**/[a-c].scss".toList, [ '.' ]] ∧
    (collect libraryFiles ⟨"r/q/".toList⟩ Sass.extensions ["**/[a-c].scss".toList, [ '.' ]]).toOption =
      some [⟨"r/q/a.scss".toList⟩] := by
  have sound : (libraryAt "/q".toList ["q".toList]).Sound :=
    ⟨by decide +kernel, by decide, by decide +kernel, by decide +kernel⟩
  have sound' : (libraryAt "r/q/".toList ["r".toList, "q".toList]).Sound :=
    ⟨by decide +kernel, by decide, by decide +kernel, by decide +kernel⟩
  have alike := sound.alike_of_below sound' (by decide +kernel)
  have inside : ∀ pattern ∈ ["**/[a-c].scss".toList, [ '.' ]], Inside pattern := by
    refine List.forall_mem_cons.mpr ⟨inside_iff.mpr (by decide +kernel), ?_⟩
    exact List.forall_mem_cons.mpr ⟨inside_iff.mpr (by decide +kernel), by simp⟩
  have literal : Literal ⟨"/q".toList⟩ ∧ Literal ⟨"r/q/".toList⟩ := by decide +kernel
  obtain ⟨found, same, same'⟩ := collect_relocated sound sound' alike inside
    (fun _ _ _ => literal) Sass.extensions
  exact ⟨sound, sound', alike, inside, literal.1, literal.2, same.trans same'.symm,
    by decide +kernel⟩

/-- Brackets in the name of a base directory are read as a set of characters, a dot that it begins with is
lost, and a piece that begins with a dot and has a star leads up. -/
theorem not_every_library_is_relocated :
    ¬(∀ a b : Spot, a.Sound → b.Sound → a.Alike b → ∀ patterns : List Text,
      (∀ pattern ∈ patterns, pattern.head? ≠ some '/' ∧ ['.', '.'] ∉ splitOn '/' pattern) →
      SameFiles a b patterns) ∧
    ¬SameFiles (libraryAt "/q".toList ["q".toList]) (libraryAt "/p[1]".toList ["p[1]".toList])
      ["*.scss".toList] ∧
    ¬SameFiles (libraryAt "/q".toList ["q".toList]) (libraryAt "./q".toList ["q".toList])
      ["*.scss".toList] ∧
    ¬SameFiles (libraryAt "/q".toList ["q".toList])
      (libraryAt "/r/q".toList ["r".toList, "q".toList]) [".*/*.scss".toList] := by
  have mapped : ∀ (found : Except Text (List Path)) (f : List Path → List (Option (List Part))),
      (found.map f).toOption = found.toOption.map f := by
    intro found f
    cases found <;> rfl
  have differ : ∀ {a b : Spot} {patterns : List Text},
      ((collect a.tree a.base Sass.extensions patterns).toOption.map
          (List.map (Path.below? a.base)) ≠
        (collect b.tree b.base Sass.extensions patterns).toOption.map
          (List.map (Path.below? b.base))) → ¬SameFiles a b patterns := by
    intro a b patterns other same
    have results := congrArg Except.toOption same
    rw [mapped, mapped] at results
    exact other results
  have brackets : ¬SameFiles (libraryAt "/q".toList ["q".toList])
      (libraryAt "/p[1]".toList ["p[1]".toList]) ["*.scss".toList] := differ (by decide +kernel)
  refine ⟨fun all => ?_, brackets, differ (by decide +kernel), differ (by decide +kernel)⟩
  have sound : (libraryAt "/q".toList ["q".toList]).Sound :=
    ⟨by decide +kernel, by decide, by decide +kernel, by decide +kernel⟩
  have sound' : (libraryAt "/p[1]".toList ["p[1]".toList]).Sound :=
    ⟨by decide +kernel, by decide, by decide +kernel, by decide +kernel⟩
  have stays : ∀ pattern ∈ ["*.scss".toList], pattern.head? ≠ some '/' ∧
      ['.', '.'] ∉ splitOn '/' pattern :=
    List.forall_mem_cons.mpr ⟨by decide +kernel, by simp⟩
  exact brackets (all _ _ sound sound' (sound.alike_of_below sound' (by decide +kernel)) _ stays)

end DocSite.Doclet
