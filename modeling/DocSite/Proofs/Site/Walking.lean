/-
# DocSite.Proofs.Site.Walking -- sources are found on a walk

Sources are found on a walk through the page root and the directories in it (`walk`). The system lists what a
directory holds in an order of its own; the walk takes it in the order of the names, goes through a directory
before it comes to the next name, and leaves out what is hidden, with all that is in it. What a walk comes to
are the places with nothing hidden on the way (`mem_walk`), in the order of all places (`ordered_walk`). So it
is what `discover` picks out of the whole tree (`discover_eq_walkSources`): the files that have one of the
extensions, in the order of their paths, each of them once (`discover_is_walk`).
-/
import DocSite.Proofs.FileTree.Listing
import DocSite.Proofs.Page.Location
import DocSite.Proofs.Path.Order
import DocSite.Proofs.Site.Sources

set_option autoImplicit false

namespace DocSite.Site

open Text
open DocSite.FileTree (Ordered comparePlaces)
open DocSite.Path (Ascending)

variable {site : Site} {files : FileTree} {path : Path} {place names found : List Text} {name : Text}
  {entry : Entry} {depth : Nat}

/-! ## The walk -/

/-- What the system lists for each directory, in an order of its own. -/
abbrev Listing := List Text → List (Text × Entry)

/-- What is in a directory, in the order of the names. -/
def Listing.inOrder (listing : Listing) (place : List Text) : List (Text × Entry) :=
  sortBy (fun a b => before a.1 b.1) (listing place)

/-- What a walk comes to at something in a directory to which `names` lead: nothing if its name is hidden, else
this itself and, if it is a directory, what `inside` finds in it. -/
def visit (inside : List Text → List (List Text × Entry)) (names : List Text) (child : Text × Entry) :
    List (List Text × Entry) :=
  if isHidden child.1 then []
  else (names ++ [child.1], child.2) ::
    if child.2 = .directory then inside (names ++ [child.1]) else []

/-- What a walk comes to in a directory. `names` lead to it from the place where the walk began, and `depth`
bounds how many directories are in each other from there. -/
def walk (listing : Listing) (place : List Text) : (depth : Nat) → (names : List Text) →
    List (List Text × Entry)
  | 0, _ => []
  | depth + 1, names => (listing.inOrder (place ++ names)).flatMap (visit (walk listing place depth) names)

/-- The source that a walk comes to, if it is one. -/
def source? (site : Site) (met : List Text × Entry) : Option Path :=
  let path := site.settings.root.join ⟨join ['/'] met.1⟩
  match met.2 with
  | .file _ => if site.isPageSource path then some path else none
  | .directory => none

/-- The sources that a walk through the page root comes to. -/
def walkSources (listing : Listing) (files : FileTree) (site : Site) : Except BuildError (List Path) :=
  match files.isDirectory site.settings.root, files.locate? site.settings.root with
  | true, some place => .ok ((walk listing place (Glob.depth files) []).filterMap site.source?)
  | _, _ => .error (.missingRoot site.settings.root)

/-! ## What the walk comes to -/

theorem mem_visit {inside : List Text → List (List Text × Entry)} {child : Text × Entry} {met : List Text × Entry} :
    met ∈ visit inside names child ↔ isHidden child.1 = false ∧
      (met = (names ++ [child.1], child.2) ∨ child.2 = .directory ∧ met ∈ inside (names ++ [child.1])) := by
  rw [visit]
  cases isHidden child.1 with
  | true => simp
  | false => by_cases directory : child.2 = .directory <;> simp [directory]

/-- What is met at a directory is in order if this comes first and what is in it is in order. -/
theorem ordered_visit {inside : List Text → List (List Text × Entry)} {child : Text × Entry}
    (first : ∀ met ∈ inside (names ++ [child.1]), comparePlaces (names ++ [child.1]) met.1 = .lt)
    (ordered : Ordered (inside (names ++ [child.1]))) : Ordered (visit inside names child) := by
  rw [visit]
  split
  · exact .nil
  · split
    · exact List.pairwise_cons.mpr ⟨first, ordered⟩
    · exact List.pairwise_singleton ..

section Walk

variable {listing : Listing} (wellformed : files.Wellformed)
  (lists : ∀ place, (listing place).Perm (files.children place))
include wellformed lists

theorem mem_inOrder :
    (name, entry) ∈ listing.inOrder place ↔ files.lookup (place ++ [name]) = some entry := by
  rw [Listing.inOrder, (sortBy_perm _).mem_iff, (lists place).mem_iff, wellformed.mem_children]

/-- In the order of the names, no name stands twice. -/
theorem ascending_inOrder (place : List Text) :
    (listing.inOrder place).Pairwise fun a b => Text.compare a.1 b.1 = .lt := by
  have sorted : (listing.inOrder place).Pairwise fun a b => before b.1 a.1 = false := by
    refine sortBy_ordered (fun a b ahead => ?_) (fun a b c ahead next => ?_) _
    · rw [before, beq_iff_eq] at ahead
      rw [before, beq_eq_false_iff_ne, Std.OrientedCmp.gt_of_lt ahead]
      decide
    · rw [before, beq_iff_eq] at *
      exact Std.TransCmp.lt_trans ahead next
  have single : ((listing.inOrder place).map Prod.fst).Nodup := by
    have same : (listing.inOrder place).Perm (files.children place) := (sortBy_perm _).trans (lists place)
    exact (same.map Prod.fst).nodup_iff.mpr (nodup_of_ascending (List.pairwise_map.mp (wellformed.ordered_names place)))
  refine (sorted.and (List.pairwise_map.mp single)).imp fun {a b} ⟨behind, different⟩ => ?_
  cases order : Text.compare a.1 b.1 with
  | lt => rfl
  | eq => exact absurd (Std.LawfulEqCmp.eq_of_compare order) different
  | gt =>
    rw [before, Std.OrientedCmp.lt_of_gt order] at behind
    cases behind

/-- A walk comes to the places below a directory that have no hidden name on the way, as far down as it goes. -/
theorem mem_walk : (found, entry) ∈ walk listing place depth names ↔
    ∃ rest, rest ≠ [] ∧ rest.length ≤ depth ∧ found = names ++ rest ∧
      files.lookup (place ++ found) = some entry ∧ rest.any isHidden = false := by
  induction depth generalizing names with
  | zero =>
    refine iff_of_false List.not_mem_nil ?_
    rintro ⟨rest, filled, short, -⟩
    exact filled (List.length_eq_zero_iff.mp (Nat.le_zero.mp short))
  | succ depth ih =>
    rw [walk, List.mem_flatMap]
    constructor
    · rintro ⟨⟨name, first⟩, member, inside⟩
      rw [mem_inOrder wellformed lists, List.append_assoc] at member
      obtain ⟨visible, here | ⟨rfl, below⟩⟩ := mem_visit.mp inside
      · cases here
        exact ⟨[name], by simp, by simp, rfl, member, by simp [visible]⟩
      · obtain ⟨rest, filled, short, rfl, taken, open_way⟩ := ih.mp below
        refine ⟨name :: rest, by simp, by simpa using short, by simp, taken, ?_⟩
        rw [List.any_cons, visible, open_way, Bool.or_self]
    · rintro ⟨rest, filled, short, rfl, taken, visible⟩
      obtain ⟨name, rest, rfl⟩ := List.exists_cons_of_ne_nil filled
      obtain ⟨shown, later⟩ := Bool.or_eq_false_iff.mp visible
      by_cases last : rest = []
      · subst last
        refine ⟨(name, entry), (mem_inOrder wellformed lists).mpr (by rwa [List.append_assoc]), ?_⟩
        exact mem_visit.mpr ⟨shown, .inl rfl⟩
      · -- What is further below lies in a directory of this name.
        have further : names ++ name :: rest = names ++ [name] ++ rest := List.append_cons ..
        have directory : files.lookup (place ++ (names ++ [name])) = some .directory :=
          wellformed.directory_of_prefix last (by rw [List.append_assoc place, ← further, taken]; rfl)
        refine ⟨(name, .directory), (mem_inOrder wellformed lists).mpr (by rwa [List.append_assoc]), ?_⟩
        exact mem_visit.mpr ⟨shown, .inr ⟨rfl, ih.mpr ⟨rest, last, by simpa using short, further, taken, later⟩⟩⟩

/-- A walk comes to places in their order. -/
theorem ordered_walk (place : List Text) (depth : Nat) (names : List Text) :
    Ordered (walk listing place depth names) := by
  induction depth generalizing names with
  | zero => exact .nil
  | succ depth ih =>
    have below {name : Text} {met : List Text × Entry} (member : met ∈ walk listing place depth (names ++ [name])) :
        ∃ next rest, met.1 = names ++ [name] ++ next :: rest := by
      obtain ⟨rest, filled, -, same, -⟩ := (mem_walk wellformed lists).mp member
      obtain ⟨next, rest, rfl⟩ := List.exists_cons_of_ne_nil filled
      exact ⟨next, rest, same⟩
    -- What is met at a name begins with this name.
    have starts {child : Text × Entry} {met : List Text × Entry}
        (inside : met ∈ visit (walk listing place depth) names child) : ∃ rest, met.1 = names ++ child.1 :: rest := by
      obtain ⟨-, rfl | ⟨-, member⟩⟩ := mem_visit.mp inside
      · exact ⟨[], rfl⟩
      · obtain ⟨next, rest, same⟩ := below member
        exact ⟨next :: rest, by rw [same, List.append_assoc, List.singleton_append]⟩
    rw [walk, Ordered, List.pairwise_flatMap]
    constructor
    · intro child _
      refine ordered_visit (fun met member => ?_) (ih _)
      obtain ⟨next, rest, same⟩ := below member
      have ahead : comparePlaces (names ++ [child.1] ++ []) (names ++ [child.1] ++ next :: rest) = .lt :=
        FileTree.comparePlaces_append ..
      rwa [List.append_nil, ← same] at ahead
    · refine (ascending_inOrder wellformed lists _).imp fun {a b} ahead first inside second inside' => ?_
      obtain ⟨rest, same⟩ := starts inside
      obtain ⟨rest', same'⟩ := starts inside'
      rw [same, same', FileTree.comparePlaces_append, comparePlaces, ahead]

/-- A walk that goes down to all places comes to what is below a directory with nothing hidden on the way. -/
theorem walk_eq_filter (place : List Text) : walk listing place (Glob.depth files) [] =
    (files.below place).filter fun met => !met.1.any isHidden := by
  refine Ordered.eq_of_mem_iff (ordered_walk wellformed lists place _ [])
    (List.Pairwise.filter _ (wellformed.ordered_below place)) fun (found, entry) => ?_
  rw [mem_walk wellformed lists, List.mem_filter, wellformed.mem_below]
  constructor
  · rintro ⟨rest, filled, -, rfl, taken, visible⟩
    exact ⟨⟨filled, taken⟩, by simpa using visible⟩
  · rintro ⟨⟨filled, taken⟩, visible⟩
    have some : (files.lookup (place ++ found)).isSome := by rw [taken]; rfl
    have short := wellformed.length_le_depth some
    rw [List.length_append] at short
    exact ⟨found, filled, by omega, rfl, taken, by simpa using visible⟩

/-- A walk finds the sources that are picked out of all that is below the page root. -/
theorem discover_eq_walkSources (site : Site) : site.discover files = walkSources listing files site := by
  rw [walkSources, discover]
  cases files.isDirectory site.settings.root with
  | false => rfl
  | true =>
    cases files.locate? site.settings.root with
    | none => rfl
    | some place =>
      dsimp only
      rw [walk_eq_filter wellformed lists, List.filterMap_filter]
      refine congrArg _ (List.filterMap_congr fun met _ => ?_)
      obtain ⟨names, entry⟩ := met
      cases entry with
      | directory => cases names.any isHidden <;> rfl
      | file content => cases names.any isHidden <;> simp [source?]

end Walk

/-! ## The sources of a site -/

/-- Whether names lead from the place of the page root to a source: a file with one of the extensions, with
nothing hidden on the way. -/
structure LeadsToSource (site : Site) (files : FileTree) (place names : List Text) : Prop where
  file : files.isFileAt (place ++ names) = true
  visible : ∀ name ∈ names, name.head? ≠ some '.'
  extended : ∃ stem extension, names.getLast? = some (stem ++ '.' :: extension) ∧ '.' ∉ extension ∧
    ∃ known ∈ site.settings.sources, extension.map Char.toLower = known.map Char.toLower

theorem isHidden_eq_false : isHidden name = false ↔ name.head? ≠ some '.' := by
  rw [isHidden, beq_eq_false_iff_ne]

/-- A file that is not hidden looks like a source if what stands after the last dot of its name is one of the
extensions. -/
theorem isPageSource_iff (last : path.name? = some name) (visible : isHidden name = false) :
    site.isPageSource path = true ↔ ∃ stem extension, name = stem ++ '.' :: extension ∧ '.' ∉ extension ∧
      ∃ known ∈ site.settings.sources, extension.map Char.toLower = known.map Char.toLower := by
  have cut : path.extension? = (Path.cutName name).2 := by rw [Path.extension?, last, Option.bind_some]
  rw [isPageSource, cut, last]
  rcases exists_last_split '.' name with plain | ⟨stem, extension, rfl, plain⟩
  · rw [Path.cutName_plain plain]
    refine iff_of_false Bool.false_ne_true ?_
    rintro ⟨stem, extension, rfl, -⟩
    exact plain (by simp)
  · have filled : stem ≠ [] := by
      rintro rfl
      exact isHidden_eq_false.mp visible rfl
    rw [Path.cutName_append plain filled]
    simp only [Option.any_some, visible, Bool.not_false, Bool.and_true, List.any_eq_true, Doclet.sameLetters,
      beq_iff_eq]
    constructor
    · rintro ⟨known, member, same⟩
      exact ⟨stem, extension, rfl, plain, known, member, same⟩
    · rintro ⟨stem', extension', same, plain', known, member, letters⟩
      obtain ⟨rfl, rfl⟩ := eq_of_last_split plain plain' same
      exact ⟨known, member, letters⟩

/-- The names of a file lead to a source if none of them is hidden and the path looks like one. -/
theorem leadsToSource_iff (wellformed : files.Wellformed) (filled : site.settings.root.text ≠ [])
    (nonempty : names ≠ []) {content : Content} (there : files.lookup (place ++ names) = some (.file content)) :
    LeadsToSource site files place names ↔ (∀ name ∈ names, isHidden name = false) ∧
      site.isPageSource (site.settings.root.join ⟨join ['/'] names⟩) = true := by
  have last : (site.settings.root.join ⟨join ['/'] names⟩).name? = some (names.getLast nonempty) := by
    rw [Path.name_join_names filled nonempty (names_of_taken wellformed there),
      List.getLast?_eq_getLast_of_ne_nil nonempty]
  have ending := List.getLast?_eq_getLast_of_ne_nil nonempty
  constructor
  · rintro ⟨-, visible, extended⟩
    have shown : ∀ name ∈ names, isHidden name = false :=
      fun name member => isHidden_eq_false.mpr (visible name member)
    refine ⟨shown, (isPageSource_iff last (shown _ (List.getLast_mem nonempty))).mpr ?_⟩
    simpa [ending] using extended
  · rintro ⟨shown, source⟩
    refine ⟨FileTree.isFileAt_iff.mpr ⟨content, there⟩,
      fun name member => isHidden_eq_false.mp (shown name member), ?_⟩
    simpa [ending] using (isPageSource_iff last (shown _ (List.getLast_mem nonempty))).mp source

theorem comparePlaces_eq (names names' : List Text) :
    Path.compareParts (names.map .name) (names'.map .name) = comparePlaces names names' := by
  induction names generalizing names' with
  | nil => cases names' <;> rfl
  | cons name names ih =>
    cases names' with
    | nil => rfl
    | cons name' names' =>
      rw [List.map_cons, List.map_cons, Path.compareParts, comparePlaces, ih]
      rfl

theorem ascending_discover (wellformed : files.Wellformed) (filled : site.settings.root.text ≠ [])
    (place : List Text) : Ascending ((files.below place).filterMap site.listed?) := by
  rw [Ascending, List.pairwise_filterMap]
  refine (wellformed.ordered_below place).imp_of_mem fun {a b} member member' ahead path listed path' listed' => ?_
  have parts {names : List Text} {entry : Entry} {path : Path} (member : (names, entry) ∈ files.below place)
      (listed : site.listed? (names, entry) = some path) :
      path.parts = site.settings.root.parts ++ names.map .name := by
    obtain ⟨nonempty, taken⟩ := wellformed.mem_below.mp member
    obtain ⟨-, rfl, -⟩ := listed_eq_some.mp listed
    exact Path.parts_join_names filled nonempty (names_of_taken wellformed taken)
  rw [Path.compare, parts member listed, parts member' listed', Path.compareParts_append, comparePlaces_eq]
  exact ahead

/-- The sources of a site are found on a walk through the page root, whatever its name is and in whatever order
the system lists what directories hold. They are all files below it that have one of the extensions and nothing
hidden on the way, and nothing else, in the order of their paths and each of them once. -/
theorem discover_is_walk (wellformed : files.Wellformed) {listing : Listing}
    (lists : ∀ place, (listing place).Perm (files.children place))
    (there : files.isDirectory site.settings.root = true) :
    ∃ place paths, files.locate? site.settings.root = some place ∧
      walkSources listing files site = .ok paths ∧ site.discover files = .ok paths ∧ Ascending paths ∧
      ∀ path, path ∈ paths ↔ ∃ names, LeadsToSource site files place names ∧
        path = site.settings.root.join ⟨join ['/'] names⟩ := by
  obtain ⟨filled, place, located, taken⟩ := FileTree.isDirectory_iff.mp there
  have found : site.discover files = .ok ((files.below place).filterMap site.listed?) :=
    discover_eq_ok.mpr ⟨filled, place, located, taken, rfl⟩
  refine ⟨place, _, located, (discover_eq_walkSources wellformed lists site).symm.trans found, found,
    ascending_discover wellformed filled place, fun path => ?_⟩
  rw [mem_discover wellformed located found]
  refine exists_congr fun names => ?_
  constructor
  · rintro ⟨content, nonempty, there, rfl, visible, source⟩
    have shown : ∀ name ∈ names, isHidden name = false := by simpa using visible
    exact ⟨(leadsToSource_iff wellformed filled nonempty there).mpr ⟨shown, source⟩, rfl⟩
  · rintro ⟨leads, rfl⟩
    obtain ⟨content, there⟩ := FileTree.isFileAt_iff.mp leads.file
    have nonempty : names ≠ [] := by
      rintro rfl
      obtain ⟨_, _, last, -⟩ := leads.extended
      cases last
    obtain ⟨shown, source⟩ := (leadsToSource_iff wellformed filled nonempty there).mp leads
    exact ⟨content, nonempty, there, rfl, by simpa using shown, source⟩

/-- A page root with a hidden name, in which a directory stands beside a page of the same name. -/
def notes : FileTree where
  entries :=
    [([".notes".toList], .directory),
     ([".notes".toList, ".drafts".toList], .directory),
     ([".notes".toList, ".drafts".toList, "later.md".toList], .file (.text [])),
     ([".notes".toList, "guide".toList], .directory),
     ([".notes".toList, "guide".toList, "start.MD".toList], .file (.text [])),
     ([".notes".toList, "guide.md".toList], .file (.text [])),
     ([".notes".toList, "log.txt".toList], .file (.text []))]
  home := []

def notesSite : Site :=
  .create { Settings.standard with root := ⟨".notes".toList⟩ } .empty Layouts.builtin.engine .standard

/-- The page in the directory comes first, and neither the draft nor the log is a source, also when directories
are listed from the last name to the first. -/
theorem discover_notes : notesSite.discover notes =
    .ok [⟨".notes/guide/start.MD".toList⟩, ⟨".notes/guide.md".toList⟩] ∧
    ∃ listing : Listing, walkSources listing notes notesSite = notesSite.discover notes ∧
      listing [".notes".toList] ≠ notes.children [".notes".toList] := by
  have wellformed : notes.Wellformed := by decide
  have lists (place : List Text) : (notes.children place).reverse.Perm (notes.children place) :=
    List.reverse_perm _
  have there : notes.isDirectory notesSite.settings.root = true := by decide +kernel
  obtain ⟨place, paths, -, walked, found, -⟩ := discover_is_walk wellformed lists there
  exact ⟨by decide +kernel, fun place => (notes.children place).reverse, walked.trans found.symm, by decide⟩

end DocSite.Site
