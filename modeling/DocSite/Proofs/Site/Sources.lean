/-
# DocSite.Proofs.Site.Sources -- which files are sources, and where their pages go

The sources of a site are the files below its page root whose last name tells that they are, as long
as no name on the way is hidden (`mem_discover`). Whether a path looks like a source and where its
page goes depends on the parts of the path alone (`isPageSource_congr`, `outputPath_congr`). Different
output paths lead to different files, unless the extension of the site has a slash
(`outputPath_of_place`).
-/
import DocSite.Proofs.FileTree.Following
import DocSite.Site.Project

set_option autoImplicit false

namespace DocSite.Site

open Text
open DocSite.Path (IsName)

variable {site : Site} {files : FileTree} {path other : Path} {paths : List Path}
  {place names : List Text}

/-! ## What looks like a source -/

theorem isPageSource_congr (same : path.parts = other.parts) :
    site.isPageSource path = site.isPageSource other := by
  simp only [isPageSource, Path.extension?, Path.name_congr same]

/-- A page source is not hidden itself. -/
theorem not_hidden_of_isPageSource {name : Text} (source : site.isPageSource path = true)
    (last : path.name? = some name) : isHidden name = false := by
  unfold isPageSource at source
  split at source
  · cases source
  · simpa [last] using (Bool.and_eq_true_iff.mp source).2

/-! ## Discovery -/

/-- The source that there is at a place below the page root. -/
def listed? (site : Site) (below : List Text × Entry) : Option Path :=
  let path := site.settings.root.join ⟨join ['/'] below.1⟩
  match below.2 with
  | .file _ => if !below.1.any isHidden && site.isPageSource path then some path else none
  | .directory => none

/-- Sources are found if the page root is a directory, and then below its place. -/
theorem discover_eq_ok :
    site.discover files = .ok paths ↔
      site.settings.root.text ≠ [] ∧ ∃ place, files.locate? site.settings.root = some place ∧
        files.lookup place = some .directory ∧
        paths = (files.below place).filterMap site.listed? := by
  simp only [discover]
  constructor
  · intro found
    split at found
    next place directory located =>
      obtain ⟨filled, place', located', taken⟩ := FileTree.isDirectory_iff.mp directory
      rw [located] at located'
      cases located'
      exact ⟨filled, place, located, taken, (Except.ok.inj found).symm⟩
    · cases found
  · rintro ⟨filled, place, located, taken, rfl⟩
    have directory := FileTree.isDirectory_iff.mpr ⟨filled, place, located, taken⟩
    rw [directory, located]
    rfl

theorem listed_eq_some {entry : Entry} :
    site.listed? (names, entry) = some path ↔
      (∃ content, entry = .file content) ∧ path = site.settings.root.join ⟨join ['/'] names⟩ ∧
        names.any isHidden = false ∧ site.isPageSource path = true := by
  cases entry with
  | directory => simp [listed?]
  | file content =>
    simp only [listed?]
    split
    next shown =>
      obtain ⟨visible, source⟩ := Bool.and_eq_true_iff.mp shown
      rw [Bool.not_eq_true'] at visible
      constructor
      · rintro ⟨rfl⟩
        exact ⟨⟨content, rfl⟩, rfl, visible, source⟩
      · rintro ⟨-, rfl, -, -⟩
        rfl
    next other =>
      constructor
      · intro none
        cases none
      · rintro ⟨-, rfl, visible, source⟩
        exact absurd (by simp [visible, source]) other

/-- The sources that are found are the files below the page root that look like sources, with no
hidden name on the way. -/
theorem mem_discover (wellformed : files.Wellformed)
    (located : files.locate? site.settings.root = some place)
    (found : site.discover files = .ok paths) :
    path ∈ paths ↔ ∃ names content, names ≠ [] ∧
      files.lookup (place ++ names) = some (.file content) ∧
      path = site.settings.root.join ⟨join ['/'] names⟩ ∧
      names.any isHidden = false ∧ site.isPageSource path = true := by
  obtain ⟨-, place', located', -, rfl⟩ := discover_eq_ok.mp found
  rw [located] at located'
  cases located'
  rw [List.mem_filterMap]
  constructor
  · rintro ⟨⟨names, entry⟩, member, listed⟩
    obtain ⟨nonempty, taken⟩ := wellformed.mem_below.mp member
    obtain ⟨⟨content, rfl⟩, same, visible, source⟩ := listed_eq_some.mp listed
    exact ⟨names, content, nonempty, taken, same, visible, source⟩
  · rintro ⟨names, content, nonempty, taken, same, visible, source⟩
    exact ⟨(names, .file content), wellformed.mem_below.mpr ⟨nonempty, taken⟩,
      listed_eq_some.mpr ⟨⟨content, rfl⟩, same, visible, source⟩⟩

/-- The names below the page root of a source that is found are file names. -/
theorem names_of_taken (wellformed : files.Wellformed) {entry : Entry}
    (taken : files.lookup (place ++ names) = some entry) : ∀ name ∈ names, IsName name :=
  fun name member => wellformed.isName_of_lookup (by rw [taken]; rfl) name
    (List.mem_append_right _ member)

/-! ## Output paths -/

theorem sourceNames_congr {root : Path} (same : path.parts = other.parts) :
    Page.sourceNames path root = Page.sourceNames other root := by
  simp only [Page.sourceNames, Path.below?, Path.name_congr same, same]

theorem outputPath_congr (same : path.parts = other.parts) :
    site.outputPath path = site.outputPath other := by
  simp only [outputPath, PageReader.outputPath, Page.outputPath, sourceNames_congr same]

theorem isName_sourceNames {root : Path} {name : Text} (member : name ∈ Page.sourceNames path root) :
    IsName name := by
  have among : ∀ parts : List Path.Part, name ∈ Path.names parts → .name name ∈ parts := by
    intro parts inside
    obtain ⟨part, present, same⟩ := List.mem_filterMap.mp inside
    cases part <;> simp_all
  unfold Page.sourceNames at member
  split at member
  next parts below =>
    have whole := Path.below_eq_some.mp below
    exact Path.isName_of_mem_parts (p := path)
      (by rw [whole]; exact List.mem_append_right _ (among _ member))
  · split at member
    next name' last =>
      rw [List.mem_singleton.mp member]
      unfold Path.name? at last
      split at last
      next text ended =>
        cases last
        exact Path.isName_of_mem_parts (List.mem_of_getLast? ended)
      · cases last
    · exact Path.isName_of_mem_parts (among _ member)

theorem plain_withoutOrder {name : Text} (plain : '/' ∉ name) : '/' ∉ Page.withoutOrder name := by
  unfold Page.withoutOrder
  split
  next order rest found =>
    unfold Page.splitOrder? at found
    dsimp only at found
    split at found
    next c more cut =>
      split at found
      · cases found
      · cases found
        intro inside
        refine plain (List.mem_of_mem_drop (i := (name.takeWhile Char.isDigit).length) ?_)
        rw [cut]
        exact List.mem_cons_of_mem _ inside
    · cases found
  · exact plain

theorem plain_cutName {name : Text} (plain : '/' ∉ name) : '/' ∉ (Path.cutName name).1 := by
  unfold Path.cutName
  split
  next before after found =>
    split
    · exact plain
    · unfold splitLast? at found
      dsimp only at found
      split at found
      · cases found
      · cases found
        exact fun inside => plain (List.mem_of_mem_take inside)
  · exact plain

/-- The file name of a page has no slash, unless the extension of the site has one. -/
theorem plain_outputName {extension name : Text} (plain : '/' ∉ extension) (named : '/' ∉ name) :
    '/' ∉ Page.outputName extension name := by
  have stem := plain_cutName (plain_withoutOrder named)
  have base : '/' ∉ Path.nameBase (Page.withoutOrder name) := by
    unfold Path.nameBase
    split
    next before after cut =>
      rw [cut] at stem
      simpa using stem
    next before cut =>
      rw [cut] at stem
      exact stem
  unfold Page.outputName Path.nameWithExtension
  dsimp only
  split
  · exact base
  · split
    · exact stem
    · simp [stem, plain]

theorem dropLast_outputNames (extension : Text) (names : List Text) :
    (Page.outputNames extension names).dropLast = names.dropLast := by
  induction names with
  | nil => rfl
  | cons name names ih =>
    cases names with
    | nil => rfl
    | cons next names =>
      have more : Page.outputNames extension (next :: names) ≠ [] := by
        cases names <;> simp [Page.outputNames]
      rw [Page.outputNames, List.dropLast_cons_of_ne_nil more, ih]
      · rfl
      · simp

theorem plain_outputNames {extension : Text} (plain : '/' ∉ extension)
    (named : ∀ name ∈ names, '/' ∉ name) : ∀ name ∈ Page.outputNames extension names, '/' ∉ name := by
  induction names with
  | nil => intro name member; cases member
  | cons name names ih =>
    cases names with
    | nil =>
      intro other member
      rw [List.mem_singleton.mp member]
      exact plain_outputName plain (named name (List.mem_cons_self ..))
    | cons next names =>
      intro other member
      rcases List.mem_cons.mp member with rfl | later
      · exact named other (List.mem_cons_self ..)
      · exact ih (fun name inside => named name (List.mem_cons_of_mem _ inside)) other later

/-- With an extension without a slash, all pieces of an output path but the last one are names of the
source. -/
theorem outer_pieces (plain : '/' ∉ site.settings.extension) (path : Path) :
    ∀ piece ∈ (splitOn '/' (site.outputPath path)).dropLast, IsName piece := by
  have named : ∀ name ∈ Page.sourceNames path site.settings.root, IsName name :=
    fun name member => isName_sourceNames member
  have whole : site.outputPath path =
    join ['/'] (Page.outputNames site.settings.extension
      (Page.sourceNames path site.settings.root)) := rfl
  by_cases empty : Page.outputNames site.settings.extension
      (Page.sourceNames path site.settings.root) = []
  · rw [whole, empty]
    intro piece member
    cases member
  · rw [whole, splitOn_join empty (plain_outputNames plain fun name member => (named name member).2.2.2),
      dropLast_outputNames]
    exact fun piece member => named piece (List.dropLast_subset _ member)

/-! ## Output files -/

/-- What leads to a file below a directory is made of file names, if all but its last piece is. -/
theorem pieces_of_isFile {directory : Path} {outputPath : Text}
    (outer : ∀ piece ∈ (splitOn '/' outputPath).dropLast, IsName piece)
    (file : files.isFile (directory.join ⟨outputPath⟩) = true) :
    ∀ piece ∈ splitOn '/' outputPath, IsName piece := by
  have pieces := splitOn_ne_nil '/' outputPath
  have relative : outputPath.head? ≠ some '/' := by
    intro absolute
    obtain ⟨rest, rfl⟩ := List.head?_eq_some_iff.mp absolute
    have first : [] ∈ (splitOn '/' ('/' :: rest)).dropLast := by
      rw [splitOn, if_pos rfl, List.dropLast_cons_of_ne_nil (splitOn_ne_nil '/' rest)]
      exact List.mem_cons_self ..
    exact (outer [] first).1 rfl
  obtain ⟨content, found⟩ := FileTree.isFile_iff.mp file
  obtain ⟨-, ending, -⟩ := FileTree.entryAt_eq_file.mp found
  have last : IsName ((splitOn '/' outputPath).getLast pieces) := by
    rw [FileTree.endsWithName, Path.last_piece_join directory relative, Bool.and_eq_true] at ending
    obtain ⟨some_name, same⟩ := ending
    obtain ⟨name, named⟩ := Option.isSome_iff_exists.mp some_name
    rw [named, List.getLast?_eq_getLast_of_ne_nil pieces, beq_iff_eq, Option.some.injEq] at same
    rw [same]
    unfold Path.name? at named
    split at named
    next text ended =>
      cases named
      exact Path.isName_of_mem_parts (List.mem_of_getLast? ended)
    · cases named
  intro piece member
  rw [← List.dropLast_append_getLast pieces] at member
  rcases List.mem_append.mp member with inside | inside
  · exact outer piece inside
  · rw [List.mem_singleton.mp inside]
    exact last

/-- Such a file is at the place below the directory that its pieces name. -/
theorem place_of_isFile {directory : Path} {outputPath : Text}
    (outer : ∀ piece ∈ (splitOn '/' outputPath).dropLast, IsName piece)
    (file : files.isFile (directory.join ⟨outputPath⟩) = true) :
    ∃ place, files.locate? directory = some place ∧
      files.locate? (directory.join ⟨outputPath⟩) = some (place ++ splitOn '/' outputPath) := by
  have named := pieces_of_isFile outer file
  have pieces := splitOn_ne_nil '/' outputPath
  obtain ⟨content, found⟩ := FileTree.isFile_iff.mp file
  obtain ⟨-, -, target, located, -⟩ := FileTree.entryAt_eq_file.mp found
  have way : files.locate? (directory.join ⟨outputPath⟩) = (files.locate? directory).bind
      fun place => files.follow place ((splitOn '/' outputPath).map .name) := by
    by_cases filled : directory.text = []
    · -- Without a directory the names are followed from home.
      have relative := Path.head_join_names pieces named
      have parts := Path.parts_names pieces named
      rw [join_splitOn] at relative parts
      have whole : directory.join ⟨outputPath⟩ = ⟨outputPath⟩ := by
        have inner : Path.isAbsolute ⟨outputPath⟩ = false := by
          simpa [Path.isAbsolute] using relative
        simp [Path.join, inner, filled]
      have nowhere : directory.parts = [] := by simp [Path.parts, filled, splitOn]
      rw [whole, FileTree.locate?, FileTree.locate?, parts, nowhere]
      rfl
    · have below := FileTree.locate_join_names (t := files) filled pieces named
      rwa [join_splitOn] at below
  rw [located] at way
  obtain ⟨place, base, followed⟩ := Option.bind_eq_some_iff.mp way.symm
  exact ⟨place, base, located.trans (congrArg some (FileTree.eq_of_follow_names followed))⟩

/-- Different such texts lead to different files. -/
theorem eq_of_same_place {directory : Path} {first second : Text}
    (outer : ∀ piece ∈ (splitOn '/' first).dropLast, IsName piece)
    (outer' : ∀ piece ∈ (splitOn '/' second).dropLast, IsName piece)
    (file : files.isFile (directory.join ⟨first⟩) = true)
    (file' : files.isFile (directory.join ⟨second⟩) = true)
    (same : files.locate? (directory.join ⟨first⟩) = files.locate? (directory.join ⟨second⟩)) :
    first = second := by
  obtain ⟨place, base, here⟩ := place_of_isFile outer file
  obtain ⟨place', base', there⟩ := place_of_isFile outer' file'
  rw [base] at base'
  cases base'
  rw [here, there, Option.some.injEq, List.append_cancel_left_eq] at same
  rw [← join_splitOn '/' first, same, join_splitOn]

/-- Different output paths lead to different files, unless the extension of the site has a slash. -/
theorem outputPath_of_place {directory : Path} (plain : '/' ∉ site.settings.extension)
    (file : files.isFile (directory.join ⟨site.outputPath path⟩) = true)
    (file' : files.isFile (directory.join ⟨site.outputPath other⟩) = true)
    (same : files.locate? (directory.join ⟨site.outputPath path⟩) =
      files.locate? (directory.join ⟨site.outputPath other⟩)) :
    site.outputPath path = site.outputPath other :=
  eq_of_same_place (outer_pieces plain path) (outer_pieces plain other) file file' same

end DocSite.Site
