/-
# DocSite.Proofs.Page.Location -- output paths that stay inside the output directory

The names below the page root are file names, but the last of them changes on its way into the output:
its order is taken off and its extension replaced. What is left may be one dot or two
(`isName_outputName_iff` tells which names these are), and a source that is the page root itself has no
name left at all. In all other cases the output path is made of file names, so that it leads to a place
below the output directory, and neither writing nor removing the file there touches anything outside
(`outputPath_inside_iff`).
-/
import DocSite.Proofs.Site.Output
import DocSite.Proofs.Site.Sources
import DocSite.Proofs.Text.Phrases

set_option autoImplicit false

namespace DocSite

namespace Text

variable {separator : Char} {text before after : Text}

/-! ## The last occurrence of a character -/

theorem splitLast_of_not_mem (plain : separator ∉ text) : splitLast? separator text = none := by
  have whole := takeWhile_free (mt List.mem_reverse.mp plain) []
  rw [List.append_nil, List.takeWhile_nil, List.append_nil] at whole
  simp [splitLast?, whole]

theorem splitLast_append (before : Text) (plain : separator ∉ after) :
    splitLast? separator (before ++ separator :: after) = some (before, after) := by
  have tail : (before ++ separator :: after).reverse.takeWhile (· != separator) = after.reverse := by
    rw [List.reverse_append, List.reverse_cons, List.append_assoc, List.singleton_append,
      takeWhile_mark (mt List.mem_reverse.mp plain)]
  have cut : (before ++ separator :: after).length - after.length - 1 = before.length := by
    rw [List.length_append, List.length_cons]
    omega
  have longer : after.length ≠ (before ++ separator :: after).length := by
    rw [List.length_append, List.length_cons]
    omega
  rw [splitLast?, tail, List.reverse_reverse, if_neg longer, cut, List.take_left]

/-- A text is cut in a unique way at the last occurrence of a character. -/
theorem eq_of_last_split {before' after' : Text} (plain : separator ∉ after)
    (plain' : separator ∉ after')
    (same : before ++ separator :: after = before' ++ separator :: after') :
    before = before' ∧ after = after' := by
  have first := splitLast_append before plain
  rw [same, splitLast_append before' plain', Option.some.injEq, Prod.mk.injEq] at first
  exact ⟨first.1.symm, first.2.symm⟩

/-- A text without a character, or cut at its last occurrence. -/
theorem exists_last_split (separator : Char) (text : Text) :
    separator ∉ text ∨ ∃ before after, text = before ++ separator :: after ∧ separator ∉ after := by
  induction text with
  | nil => simp
  | cons c rest ih =>
    rcases ih with plain | ⟨before, after, rfl, plain⟩
    · by_cases same : c = separator
      · exact Or.inr ⟨[], rest, by simp [same], plain⟩
      · exact Or.inl (by simp [plain, Ne.symm same])
    · exact Or.inr ⟨c :: before, after, rfl, plain⟩

end Text

namespace Path

open Text

variable {name stem tail : Text}

/-! ## Names and their extensions -/

theorem cutName_plain (plain : '.' ∉ name) : cutName name = (name, none) := by
  rw [cutName, splitLast_of_not_mem plain]

/-- A name that begins with its only dot has no extension. -/
theorem cutName_dotted (plain : '.' ∉ tail) : cutName ('.' :: tail) = ('.' :: tail, none) := by
  have split := splitLast_append [] plain
  rw [List.nil_append] at split
  rw [cutName, split]
  rfl

/-- The extension of a name stands after its last dot. -/
theorem cutName_append (plain : '.' ∉ tail) (filled : stem ≠ []) :
    cutName (stem ++ '.' :: tail) = (stem, some tail) := by
  rw [cutName, splitLast_append stem plain]
  simp [filled]

end Path

namespace Page

open Text
open DocSite.Path (IsName)
open DocSite.FileTree

variable {extension name : Text} {path root directory : Path} {names place : List Text}
  {t : FileTree}

/-! ## File names in the output -/

theorem withoutOrder_ne_nil (filled : name ≠ []) : withoutOrder name ≠ [] := by
  unfold withoutOrder
  split
  next order rest found =>
    unfold splitOrder? at found
    dsimp only at found
    split at found
    next c more _ =>
      split at found
      · cases found
      · cases found
        simp
    · cases found
  · exact filled

/-- Whether nothing but dots is left of a file name once its extension is replaced: the name is a dot, or
two dots and no other one after them; without a new extension, three dots may stand there too. -/
def OnlyDots (extension name : Text) : Prop :=
  name = ['.'] ∨ ∃ tail, '.' ∉ tail ∧
    (name = '.' :: '.' :: tail ∨ extension = [] ∧ name = '.' :: '.' :: '.' :: tail)

theorem nameWithExtension_plain (plain : '.' ∉ name) (filled : name ≠ []) :
    Path.nameWithExtension extension name =
      if extension = [] then name else name ++ '.' :: extension := by
  have whole := Path.cutName_plain plain
  have notDot : name ≠ ['.'] := fun same => plain (by simp [same])
  have notDots : name ≠ ['.', '.'] := fun same => plain (by simp [same])
  simp [Path.nameWithExtension, Path.nameBase, whole, filled, notDot, notDots]

theorem nameWithExtension_dotted {tail : Text} (plain : '.' ∉ tail) (filled : tail ≠ []) :
    Path.nameWithExtension extension ('.' :: tail) =
      if extension = [] then '.' :: tail else '.' :: tail ++ '.' :: extension := by
  have whole := Path.cutName_dotted plain
  have notDot : tail ≠ ['.'] := fun same => plain (by simp [same])
  simp [Path.nameWithExtension, Path.nameBase, whole, filled, notDot]

theorem nameWithExtension_append {stem tail : Text} (plain : '.' ∉ tail) (filled : stem ≠ []) :
    Path.nameWithExtension extension (stem ++ '.' :: tail) =
      if stem = ['.'] then ['.', '.']
      else if extension = [] then stem else stem ++ '.' :: extension := by
  have cut := Path.cutName_append plain filled
  have base : Path.nameBase (stem ++ '.' :: tail) = stem ++ ['.'] := by
    rw [Path.nameBase, cut]
  have long : stem ++ ['.'] ≠ ['.'] := by simpa using filled
  simp only [Path.nameWithExtension, base, cut]
  by_cases dot : stem = ['.']
  · simp [dot]
  · have notDots : stem ++ ['.'] ≠ ['.', '.'] := by
      intro same
      exact dot (List.append_inj_left' same rfl)
    simp [long, dot, notDots]

/-- A name has only dots left if what stands before its last dot is a dot, or two dots without a new
extension. -/
theorem onlyDots_append {stem tail : Text} (plain : '.' ∉ tail) (filled : stem ≠ []) :
    OnlyDots extension (stem ++ '.' :: tail) ↔
      stem = ['.'] ∨ extension = [] ∧ stem = ['.', '.'] := by
  have unique : ∀ {stem' tail' : Text}, '.' ∉ tail' →
      stem ++ '.' :: tail = stem' ++ '.' :: tail' → stem = stem' :=
    fun plain' same => (eq_of_last_split plain plain' same).1
  constructor
  · rintro (alone | ⟨tail', plain', same | ⟨none, same⟩⟩)
    · have start : stem = [] := unique List.not_mem_nil alone
      exact absurd start filled
    · have start : stem = ['.'] := unique plain' same
      exact Or.inl start
    · have start : stem = ['.', '.'] := unique plain' same
      exact Or.inr ⟨none, start⟩
  · rintro (rfl | ⟨none, rfl⟩)
    · exact Or.inr ⟨tail, plain, Or.inl rfl⟩
    · exact Or.inr ⟨tail, plain, Or.inr ⟨none, rfl⟩⟩

theorem isName_append_extension (plain : '/' ∉ extension) (filled : name ≠ []) (named : '/' ∉ name)
    (notDot : name ≠ ['.']) : IsName (name ++ '.' :: extension) := by
  cases name with
  | nil => exact absurd rfl filled
  | cons c rest =>
    refine ⟨by simp, by simp, fun same => ?_, ?_⟩
    · obtain ⟨rfl, same⟩ := List.cons.inj same
      cases rest with
      | nil => exact notDot rfl
      | cons => simp at same
    · simp only [List.mem_append, List.mem_cons, not_or] at named ⊢
      exact ⟨named, by decide, plain⟩

/-- What is left of a file name in the output is a file name, unless it is made of dots. -/
theorem isName_nameWithExtension_iff (plain : '/' ∉ extension) (filled : name ≠ [])
    (named : '/' ∉ name) :
    IsName (Path.nameWithExtension extension name) ↔ ¬OnlyDots extension name := by
  rcases exists_last_split '.' name with undotted | ⟨stem, tail, rfl, last⟩
  · have free : ¬OnlyDots extension name := by
      rintro (rfl | ⟨tail, -, rfl | ⟨-, rfl⟩⟩) <;> simp at undotted
    have notDot : name ≠ ['.'] := fun same => undotted (by simp [same])
    have notDots : name ≠ ['.', '.'] := fun same => undotted (by simp [same])
    rw [nameWithExtension_plain undotted filled]
    split
    · exact iff_of_true ⟨filled, notDot, notDots, named⟩ free
    · exact iff_of_true (isName_append_extension plain filled named notDot) free
  by_cases start : stem = []
  · subst start
    by_cases alone : tail = []
    · subst alone
      have left : Path.nameWithExtension extension ['.'] = ['.'] := rfl
      rw [List.nil_append, left]
      exact iff_of_false (by decide) (fun free => free (Or.inl rfl))
    · have free : ¬OnlyDots extension ([] ++ '.' :: tail) := by
        rintro (same | ⟨tail', -, same | ⟨-, same⟩⟩)
        · exact alone (List.cons.inj same).2
        · rw [(List.cons.inj same).2] at last
          simp at last
        · rw [(List.cons.inj same).2] at last
          simp at last
      have notDot : tail ≠ ['.'] := fun same => last (by simp [same])
      rw [List.nil_append] at free named ⊢
      rw [nameWithExtension_dotted last alone]
      split
      · exact iff_of_true ⟨by simp, by simpa using alone, by simpa using notDot, named⟩ free
      · exact iff_of_true
          (isName_append_extension plain (by simp) named (by simpa using alone)) free
  · have inner : '/' ∉ stem := fun inside => named (List.mem_append_left _ inside)
    rw [onlyDots_append last start, nameWithExtension_append last start]
    by_cases dot : stem = ['.']
    · rw [if_pos dot]
      exact iff_of_false (by decide) (fun free => free (Or.inl dot))
    rw [if_neg dot]
    by_cases none : extension = []
    · simp [none, dot, start, inner, IsName]
    · simp only [none, if_false, dot, false_and, or_self, not_false_eq_true, iff_true]
      exact isName_append_extension plain start inner dot

/-- The file name of a page in the output is a file name, unless only dots are left of it. -/
theorem isName_outputName_iff (plain : '/' ∉ extension) (named : IsName name) :
    IsName (outputName extension name) ↔ ¬OnlyDots extension (withoutOrder name) :=
  isName_nameWithExtension_iff plain (withoutOrder_ne_nil named.1)
    (Site.plain_withoutOrder named.2.2.2)

/-! ## Output paths -/

theorem outputNames_concat (extension : Text) (names : List Text) (name : Text) :
    outputNames extension (names ++ [name]) = names ++ [outputName extension name] := by
  induction names with
  | nil => rfl
  | cons first names ih =>
    cases more : names ++ [name] with
    | nil => simp at more
    | cons next rest =>
      rw [more] at ih
      rw [List.cons_append, more, outputNames, ih]
      · rfl
      · simp

theorem parts_of_name (last : path.name? = some name) :
    ∃ before, path.parts = before ++ [.name name] := by
  unfold Path.name? at last
  split at last
  next text ended =>
    cases last
    obtain ⟨before, whole⟩ := List.getLast?_eq_some_iff.mp ended
    exact ⟨before, whole⟩
  · cases last

/-- The names that lead to a source end with its file name, unless it is the page root itself. -/
theorem sourceNames_eq (root : Path) (last : path.name? = some name) :
    (path.parts = root.parts ∧ sourceNames path root = []) ∨
      (path.parts ≠ root.parts ∧ ∃ outer, sourceNames path root = outer ++ [name]) := by
  obtain ⟨before, whole⟩ := parts_of_name last
  unfold sourceNames
  cases below : Path.below? root path with
  | none =>
    refine Or.inr ⟨fun same => ?_, [], by simp [last]⟩
    have inside : Path.below? root path = some [] :=
      Path.below_eq_some.mpr (same.trans (List.append_nil _).symm)
    rw [below] at inside
    cases inside
  | some rest =>
    have split := Path.below_eq_some.mp below
    rcases List.eq_nil_or_concat rest with rfl | ⟨inner, part, rfl⟩
    · exact Or.inl ⟨by simpa using split, rfl⟩
    · rw [List.concat_eq_append] at split below ⊢
      have own : part = .name name := by
        rw [whole, ← List.append_assoc] at split
        simpa using (List.append_inj_right' split rfl).symm
      refine Or.inr ⟨fun same => ?_, Path.names inner, ?_⟩
      · rw [same] at split
        simp at split
      · simp [Path.names, own, List.filterMap_append]

/-- The pieces of an output path are the names that lead to the page, if there are any. -/
theorem splitOn_outputPath (path root : Path) (plain : '/' ∉ extension)
    (filled : outputNames extension (sourceNames path root) ≠ []) :
    splitOn '/' (outputPath path root extension) =
      outputNames extension (sourceNames path root) := by
  refine splitOn_join filled (Site.plain_outputNames plain fun name member => ?_)
  exact (Site.isName_sourceNames member).2.2.2

/-- An output path is made of file names just if the source is not the page root and its file name does
not become one of dots. -/
theorem isName_outputPath_iff (plain : '/' ∉ extension) (last : path.name? = some name) :
    (∀ piece ∈ splitOn '/' (outputPath path root extension), IsName piece) ↔
      path.parts ≠ root.parts ∧ ¬OnlyDots extension (withoutOrder name) := by
  rcases sourceNames_eq root last with ⟨same, none⟩ | ⟨different, outer, names⟩
  · have empty : outputPath path root extension = [] := by
      rw [outputPath, none]
      rfl
    refine iff_of_false (fun named => ?_) (fun apart => apart.1 same)
    rw [empty] at named
    exact (named [] (List.mem_singleton_self _)).1 rfl
  · have own : ∀ name ∈ sourceNames path root, IsName name :=
      fun name member => Site.isName_sourceNames member
    have pieces := splitOn_outputPath path root plain
      (by rw [names, outputNames_concat]; simp)
    rw [names] at own
    rw [pieces, names, outputNames_concat]
    have file := isName_outputName_iff plain (own name (by simp))
    constructor
    · intro named
      exact ⟨different, file.mp (named _ (by simp))⟩
    · rintro ⟨-, free⟩ piece member
      rcases List.mem_append.mp member with inside | inside
      · exact own piece (List.mem_append_left _ inside)
      · rw [List.mem_singleton.mp inside]
        exact file.mpr free

/-! ## Writing and removing below a directory -/

/-- File names that are followed from any directory lead on by these names. -/
theorem parts_join (directory : Path) (nonempty : names ≠ []) (named : ∀ name ∈ names, IsName name) :
    (directory.join ⟨join ['/'] names⟩).parts = directory.parts ++ names.map .name := by
  by_cases filled : directory.text = []
  · have inner : Path.isAbsolute ⟨join ['/'] names⟩ = false := by
      simpa [Path.isAbsolute] using Path.head_join_names nonempty named
    have whole : directory.join ⟨join ['/'] names⟩ = ⟨join ['/'] names⟩ := by
      simp [Path.join, inner, filled]
    have nowhere : directory.parts = [] := by simp [Path.parts, filled, splitOn]
    rw [whole, nowhere, Path.parts_names nonempty named, List.nil_append]
  · exact Path.parts_join_names filled nonempty named

theorem locate_join (located : t.locate? directory = some place) (nonempty : names ≠ [])
    (named : ∀ name ∈ names, IsName name) :
    t.locate? (directory.join ⟨join ['/'] names⟩) = t.follow place (names.map .name) := by
  rw [locate?] at located ⊢
  rw [parts_join directory nonempty named, follow_append, located]
  rfl

variable {other : List Text}

/-- Writing at names below a directory leaves everything as it is that is not below it, even if the file
cannot be written. -/
theorem writeFile_outside (wellformed : t.Wellformed) (located : t.locate? directory = some place)
    (there : t.lookup place = some .directory) (nonempty : names ≠ [])
    (named : ∀ name ∈ names, IsName name) (outside : ¬(place <+: other ∧ other ≠ place))
    (text : Text) :
    (Site.writeFile (directory.join ⟨join ['/'] names⟩) text t).1.lookup other = t.lookup other := by
  have parts := parts_join directory nonempty named
  have onWay : ∀ name ∈ names.dropLast, IsName name :=
    fun name member => named name (List.dropLast_subset _ member)
  unfold Site.writeFile
  cases made : t.makeParents (directory.join ⟨join ['/'] names⟩) with
  | error fault => rfl
  | ok s =>
    obtain ⟨target, reached⟩ := (makeParents_below located there nonempty parts).mp made
    obtain ⟨-, grown⟩ := wellformed.made_of_reach there onWay reached
    have kept := grown.lookup_outside wellformed there outside
    dsimp only
    cases written : s.writeText (directory.join ⟨join ['/'] names⟩) text with
    | error fault => exact kept
    | ok u =>
      obtain ⟨-, target, reached, done⟩ := writeText_eq_ok.mp written
      obtain ⟨filled, -, -, rfl⟩ := writeFile_eq_some.mp done
      have base := locate_mono (extends_makeParents made).home
        (extends_makeParents made).directory located
      rw [locate_join base nonempty named] at reached
      obtain rfl := eq_of_follow_names reached
      have apart : other ≠ place ++ names := by
        rintro rfl
        exact outside ⟨List.prefix_append _ _, by simpa using nonempty⟩
      simpa [lookup_put filled, apart] using kept

/-- So does removing what is at names below a directory. -/
theorem removeFile_outside (wellformed : t.Wellformed) (located : t.locate? directory = some place)
    (nonempty : names ≠ []) (named : ∀ name ∈ names, IsName name)
    (outside : ¬(place <+: other ∧ other ≠ place)) :
    (t.removeFile (directory.join ⟨join ['/'] names⟩)).lookup other = t.lookup other := by
  unfold removeFile
  split
  next content target found reached =>
    obtain ⟨-, -, target', reached', taken⟩ := entryAt_eq_file.mp found
    rw [reached, Option.some.injEq] at reached'
    subst reached'
    rw [locate_join located nonempty named] at reached
    obtain rfl := eq_of_follow_names reached
    rw [wellformed.lookup_remove_file taken, if_neg]
    rintro rfl
    exact outside ⟨List.prefix_append _ _, by simpa using nonempty⟩
  · rfl

/-- Output paths stay inside the output directory unless nothing but dots is left of the file name of a
source, or the source is the page root itself: they are made of file names, lead to a place below the
directory, and neither writing nor removing a file there touches anything outside. -/
theorem outputPath_inside_iff (plain : '/' ∉ extension) (last : path.name? = some name) :
    ((∀ piece ∈ splitOn '/' (outputPath path root extension), IsName piece) ↔
      path.parts ≠ root.parts ∧ ¬OnlyDots extension (withoutOrder name)) ∧
    ((∀ piece ∈ splitOn '/' (outputPath path root extension), IsName piece) →
      ∀ directory : Path,
        (directory.join ⟨outputPath path root extension⟩).parts =
          directory.parts ++ (splitOn '/' (outputPath path root extension)).map .name ∧
        ∀ (t : FileTree) (place other : List Text), t.Wellformed →
          t.locate? directory = some place → t.lookup place = some .directory →
          ¬(place <+: other ∧ other ≠ place) →
            (∀ text, (Site.writeFile (directory.join ⟨outputPath path root extension⟩) text
              t).1.lookup other = t.lookup other) ∧
            (t.removeFile (directory.join ⟨outputPath path root extension⟩)).lookup other =
              t.lookup other) := by
  refine ⟨isName_outputPath_iff plain last, fun named directory => ?_⟩
  have pieces := splitOn_ne_nil '/' (outputPath path root extension)
  have parts := parts_join directory pieces named
  rw [join_splitOn] at parts
  refine ⟨parts, fun t place other wellformed located there outside => ⟨fun text => ?_, ?_⟩⟩
  · have written := writeFile_outside wellformed located there pieces named outside text
    rwa [join_splitOn] at written
  · have removed := removeFile_outside wellformed located pieces named outside
    rwa [join_splitOn] at removed

/-- A tree with an output directory and a file beside it. -/
def besideOutput : FileTree where
  entries := [(["dist".toList], .directory), (["notes".toList], .file (.text ['n']))]
  home := []

/-- A source with an order, dots and a directory in its path. -/
def dottedSource : Path := ⟨"docs/01-x/02-.a..md".toList⟩

theorem dotted_page_stays_inside :
    (∀ piece ∈ splitOn '/' (outputPath dottedSource ⟨"docs".toList⟩ "html".toList), IsName piece) ∧
    (Site.writeFile ((Path.mk "dist".toList).join
      ⟨outputPath dottedSource ⟨"docs".toList⟩ "html".toList⟩) ['x'] besideOutput).1.lookup
        ["notes".toList] = besideOutput.lookup ["notes".toList] := by
  have plain : '/' ∉ "html".toList := by decide
  have last : dottedSource.name? = some "02-.a..md".toList := by decide +kernel
  have named : ∀ piece ∈ splitOn '/' (outputPath dottedSource ⟨"docs".toList⟩ "html".toList),
      IsName piece := by decide +kernel
  obtain ⟨-, inside⟩ := outputPath_inside_iff plain last
  obtain ⟨-, outside⟩ := inside named ⟨"dist".toList⟩
  have apart : ¬(["dist".toList] <+: ["notes".toList] ∧ ["notes".toList] ≠ ["dist".toList]) := by
    decide +kernel
  exact ⟨named, (outside besideOutput ["dist".toList] ["notes".toList] (by decide +kernel)
    (by decide +kernel) (by decide +kernel) apart).1 ['x']⟩

/-- A name of dots alone, with or without an order in front of it, leads to the output directory itself or
to the directory that it lies in, and so does a source that is the page root. -/
theorem not_every_page_stays_inside :
    outputPath ⟨"docs/01-..md".toList⟩ ⟨"docs".toList⟩ "html".toList = ['.', '.'] ∧
    outputPath ⟨"docs/1-.".toList⟩ ⟨"docs".toList⟩ "html".toList = ['.'] ∧
    outputPath ⟨"docs/...md".toList⟩ ⟨"docs".toList⟩ [] = ['.', '.'] ∧
    outputPath ⟨"docs/a.md".toList⟩ ⟨"docs/a.md".toList⟩ "html".toList = [] ∧
    ¬∀ (path root : Path) (extension name : Text), '/' ∉ extension → path.name? = some name →
      ∀ piece ∈ splitOn '/' (outputPath path root extension), IsName piece := by
  have dots : outputPath ⟨"docs/01-..md".toList⟩ ⟨"docs".toList⟩ "html".toList = ['.', '.'] := by
    decide +kernel
  refine ⟨dots, by decide +kernel, by decide +kernel, by decide +kernel, fun all => ?_⟩
  have named := all ⟨"docs/01-..md".toList⟩ ⟨"docs".toList⟩ "html".toList "01-..md".toList
    (by decide) (by decide +kernel)
  rw [dots] at named
  exact absurd named (by decide)

end Page

end DocSite
