/-
# DocSite.Proofs.Site.Output -- what is in the output directory

Writing pages, whether or not it comes to its end, leaves all directories and files that are there
(`extends_writePages`). If the output directory holds nothing that stands in the way of the files to
be written (`Tidy`), all of them are written, and they are all that changes (`writePages_tidy`).
-/
import DocSite.Proofs.FileTree.Writing
import DocSite.Site.Project

set_option autoImplicit false

namespace DocSite.Site

open Text
open FileTree
open DocSite.Path (IsName)

variable {t s u : FileTree} {directory path : Path} {place names : List Text} {text index : Text}
  {report : OutputReport}

/-! ## Nothing is lost -/

theorem extends_writeFile (path : Path) (text : Text) (t : FileTree) :
    Extends t (writeFile path text t).1 := by
  unfold writeFile
  split
  · exact Extends.refl t
  next s made =>
    have grown := extends_makeParents made
    split
    · exact grown
    next u written => exact grown.trans (extends_writeText written)

theorem extends_writeEach (directory : Path) (t : FileTree) (report : OutputReport)
    (rendered : List (Text × Except RenderError Text)) :
    Extends t (writeEach directory t report rendered).1 := by
  induction rendered generalizing t report with
  | nil => exact Extends.refl t
  | cons first rest ih =>
    obtain ⟨outputPath, result⟩ := first
    cases result with
    | error e => exact ih t _
    | ok text =>
      have grown := extends_writeFile (directory.join ⟨outputPath⟩) text t
      rw [writeEach]
      split
      next s written =>
        rw [written] at grown
        exact grown.trans (ih s _)
      next s e failed =>
        rw [failed] at grown
        exact grown

/-- Writing pages leaves directories and files where they are, even if it fails. -/
theorem extends_writePages (directory : Path) (rendered : List (Text × Except RenderError Text))
    (index : Text) (t : FileTree) : Extends t (writePages directory rendered index t).1 := by
  unfold writePages
  split
  · exact Extends.refl t
  next s made =>
    have first := extends_makePath made
    have second := extends_writeEach directory s ⟨0, []⟩ rendered
    split
    next u e failed =>
      rw [failed] at second
      exact first.trans second
    next u report written =>
      rw [written] at second
      have third := extends_writeFile (directory.join ⟨searchFile⟩) index u
      split
      next v done =>
        rw [done] at third
        exact (first.trans second).trans third
      next v e failed =>
        rw [failed] at third
        exact (first.trans second).trans third

/-! ## One file -/

/-- A file is written below a directory if there is no file on the way and no directory in its
place. -/
theorem writeFile_clear (wellformed : t.Wellformed) (filled : directory.text ≠ [])
    (located : t.locate? directory = some place) (there : t.lookup place = some .directory)
    (nonempty : names ≠ []) (named : ∀ name ∈ names, IsName name)
    (clear : ∀ upper, place <+: upper → upper <+: place ++ names.dropLast →
      t.isFileAt upper = false)
    (free : t.lookup (place ++ names) ≠ some .directory) (text : Text) :
    ∃ s, writeFile (directory.join ⟨join ['/'] names⟩) text t = (s, .ok ()) ∧
      Written (place ++ names) (.text text) t s := by
  obtain ⟨s, reached⟩ := reach_clear clear
  have parts := Path.parts_join_names filled nonempty named
  have onWay : ∀ name ∈ names.dropLast, IsName name :=
    fun name member => named name (List.dropLast_subset _ member)
  have above : (place ++ names).dropLast = place ++ names.dropLast :=
    List.dropLast_append_of_ne_nil nonempty
  obtain ⟨-, made⟩ := wellformed.made_of_reach there onWay reached
  have grown := extends_reach reached
  -- The directories on the way are made.
  have parents : t.makeParents (directory.join ⟨join ['/'] names⟩) = .ok s :=
    (makeParents_below located there nonempty parts).mpr ⟨_, reached⟩
  have parent : s.lookup (place ++ names.dropLast) = some .directory := by
    rw [made.lookup, if_pos (List.prefix_refl _)]
  have found : s.locate? (directory.join ⟨join ['/'] names⟩) = some (place ++ names) := by
    rw [locate_join_names filled nonempty named, locate_mono grown.home grown.directory located]
    exact made.wellformed.follow_names fun _ => parent
  -- There is nothing but a file in its place.
  have open_place : s.lookup (place ++ names) ≠ some .directory := by
    have beyond := not_prefix_dropLast (List.append_ne_nil_of_right_ne_nil place nonempty)
    rw [above] at beyond
    rwa [made.lookup, if_neg beyond]
  have done : s.writeFile? (place ++ names) (.text text) =
      some (s.put (place ++ names) (.file (.text text))) :=
    writeFile_eq_some.mpr ⟨by simp [nonempty], by rw [above, parent], open_place, rfl⟩
  refine ⟨_, ?_, (above.symm ▸ made).written ?_ done⟩
  · rw [writeFile, parents]
    simp [writeText, Path.endsWithName_join_names filled nonempty named, found, done]
  · intro name member
    rcases List.mem_append.mp member with outer | inner
    · exact wellformed.isName_of_lookup (by rw [there]; rfl) name outer
    · exact named name inner

/-! ## Directories without obstacles -/

/-- Whether names that are allowed below a directory never stand in each other's way. -/
structure Spread (allowed : List Text → Prop) : Prop where
  nonempty : ∀ names, allowed names → names ≠ []
  named : ∀ names, allowed names → ∀ name ∈ names, IsName name
  apart : ∀ names others, allowed names → allowed others → names <+: others → names = others

/-- Whether there are files below a place at names that are allowed alone, and directories only on the
way to such names. -/
structure Tidy (allowed : List Text → Prop) (place : List Text) (t : FileTree) : Prop where
  file : ∀ names content, t.lookup (place ++ names) = some (.file content) → allowed names
  directory : ∀ names, names ≠ [] → t.lookup (place ++ names) = some .directory →
    ∃ target, allowed target ∧ names <+: target ∧ names ≠ target

variable {allowed : List Text → Prop}

/-- There are no files in a directory with nothing below it. -/
theorem no_file_of_blank (wellformed : t.Wellformed) (there : t.lookup place = some .directory)
    (blank : t.below place = []) (names : List Text) (content : Content) :
    t.lookup (place ++ names) ≠ some (.file content) := by
  intro file
  by_cases empty : names = []
  · rw [empty, List.append_nil, there] at file
    cases file
  · have member := wellformed.mem_below.mpr ⟨empty, file⟩
    rw [blank] at member
    cases member

/-- A directory with nothing below it is tidy. -/
theorem Tidy.of_blank (wellformed : t.Wellformed) (there : t.lookup place = some .directory)
    (blank : t.below place = []) : Tidy allowed place t where
  file names content file := absurd file (no_file_of_blank wellformed there blank names content)
  directory names nonempty found := by
    have member := wellformed.mem_below.mpr ⟨nonempty, found⟩
    rw [blank] at member
    cases member

theorem Tidy.clear (tidy : Tidy allowed place t) (spread : Spread allowed)
    (allows : allowed names) (upper : List Text) (below : place <+: upper)
    (above : upper <+: place ++ names.dropLast) : t.isFileAt upper = false := by
  obtain ⟨rest, rfl⟩ := below
  have onWay : rest <+: names.dropLast := (List.prefix_append_right_inj place).mp above
  by_contra file
  obtain ⟨content, taken⟩ := isFileAt_iff.mp (by simpa using file)
  have same := spread.apart _ _ (tidy.file rest content taken) allows
    (onWay.trans (List.dropLast_prefix names))
  have short := onWay.length_le
  have long := List.length_pos_iff.mpr (spread.nonempty names allows)
  rw [same, List.length_dropLast] at short
  omega

theorem Tidy.free (tidy : Tidy allowed place t) (spread : Spread allowed)
    (allows : allowed names) : t.lookup (place ++ names) ≠ some .directory := by
  intro taken
  obtain ⟨target, allowed', inside, different⟩ :=
    tidy.directory names (spread.nonempty names allows) taken
  exact different (spread.apart names target allows allowed' inside)

theorem Tidy.written (tidy : Tidy allowed place t) (allows : allowed names) {content : Content}
    (written : Written (place ++ names) content t s) : Tidy allowed place s where
  file others found file := by
    rcases written.file_iff.mp file with ⟨same, -⟩ | ⟨-, before⟩
    · rw [List.append_cancel_left same]
      exact allows
    · exact tidy.file others found before
  directory others nonempty there := by
    rw [written.lookup] at there
    split at there
    · cases there
    next different =>
      split at there
      next onWay =>
        refine ⟨names, allows, (List.prefix_append_right_inj place).mp onWay, ?_⟩
        rintro rfl
        exact different rfl
      · exact tidy.directory others nonempty there

theorem Tidy.remove_file (tidy : Tidy allowed place t) (wellformed : t.Wellformed)
    {gone : List Text} {content : Content} (file : t.lookup gone = some (.file content)) :
    Tidy allowed place (t.remove gone) where
  file others found there := by
    rw [wellformed.lookup_remove_file file] at there
    split at there
    · cases there
    · exact tidy.file others found there
  directory others nonempty there := by
    rw [wellformed.lookup_remove_file file] at there
    split at there
    · cases there
    · exact tidy.directory others nonempty there

theorem Tidy.removeFile (tidy : Tidy allowed place t) (wellformed : t.Wellformed)
    (filled : directory.text ≠ []) (located : t.locate? directory = some place)
    (nonempty : names ≠ []) (named : ∀ name ∈ names, IsName name) :
    Tidy allowed place (t.removeFile (directory.join ⟨join ['/'] names⟩)) := by
  rw [wellformed.removeFile_join_names filled located nonempty named]
  split
  next file =>
    obtain ⟨content, taken⟩ := isFileAt_iff.mp file
    exact tidy.remove_file wellformed taken
  · exact tidy

/-! ## Many files -/

/-- A tree has files with texts at names below a place, and otherwise the files of another one. -/
structure Published (place : List Text) (targets : List (List Text × Text)) (t s : FileTree) :
    Prop where
  wellformed : s.Wellformed
  grown : Extends t s
  outside : ∀ other, ¬place <+: other → s.lookup other = t.lookup other
  file : ∀ names content, s.lookup (place ++ names) = some (.file content) ↔
    (∃ text, (names, text) ∈ targets ∧ content = .text text) ∨
      (names ∉ targets.map Prod.fst ∧ t.lookup (place ++ names) = some (.file content))

/-- What has been published is found under the path of a directory. -/
theorem Published.entryAt {targets : List (List Text × Text)} (published : Published place targets t s)
    (filled : directory.text ≠ []) (located : t.locate? directory = some place) (nonempty : names ≠ [])
    (named : ∀ name ∈ names, IsName name) (member : (names, text) ∈ targets) :
    s.entryAt? (directory.join ⟨join ['/'] names⟩) = some (.file (.text text)) := by
  have located' := locate_mono published.grown.home published.grown.directory located
  rw [published.wellformed.entryAt_join_names filled located' nonempty named]
  exact (published.file names _).mpr (Or.inl ⟨text, member, rfl⟩)

theorem Published.nil (wellformed : t.Wellformed) : Published place [] t t :=
  ⟨wellformed, Extends.refl t, fun _ _ => rfl, fun _ _ => by simp⟩

theorem Published.singleton (there : t.lookup place = some .directory)
    (wellformed : t.Wellformed) (written : Written (place ++ names) (.text text) t s) :
    Published place [(names, text)] t s where
  wellformed := written.wellformed
  grown := written.extends
  outside other apart := by
    by_cases onWay : other <+: place ++ names
    · -- What is on the way but not below the place is above it.
      have above := (List.prefix_or_prefix_of_prefix onWay (List.prefix_append place names)).resolve_right
        apart
      rw [written.lookup, if_neg, if_pos onWay, (wellformed.made there).lookup other, if_pos above]
      rintro rfl
      exact apart (List.prefix_append _ _)
    · exact written.outside onWay
  file others content := by
    rw [written.file_iff]
    simp [eq_comm]

theorem Published.append {first second : List (List Text × Text)}
    (before : Published place first t s) (after : Published place second s u)
    (distinct : ∀ names ∈ first.map Prod.fst, names ∉ second.map Prod.fst) :
    Published place (first ++ second) t u where
  wellformed := after.wellformed
  grown := before.grown.trans after.grown
  outside other apart := (after.outside other apart).trans (before.outside other apart)
  file names content := by
    rw [after.file, before.file]
    constructor
    · rintro (⟨text, member, same⟩ | ⟨absent, ⟨text, member, same⟩ | ⟨absent', there⟩⟩)
      · exact Or.inl ⟨text, List.mem_append_right _ member, same⟩
      · exact Or.inl ⟨text, List.mem_append_left _ member, same⟩
      · exact Or.inr ⟨by simp_all, there⟩
    · rintro (⟨text, member, same⟩ | ⟨absent, there⟩)
      · rcases List.mem_append.mp member with member | member
        · exact Or.inr ⟨distinct names (List.mem_map_of_mem (f := Prod.fst) member),
            Or.inl ⟨text, member, same⟩⟩
        · exact Or.inl ⟨text, member, same⟩
      · rw [List.map_append, List.mem_append, not_or] at absent
        exact Or.inr ⟨absent.2, Or.inr ⟨absent.1, there⟩⟩

/-- The texts of the pages that have been rendered, with the names that their output paths are made of. -/
def shown (rendered : List (Text × Except RenderError Text)) : List (List Text × Text) :=
  rendered.filterMap fun (outputPath, result) =>
    match result with
    | .ok text => some (splitOn '/' outputPath, text)
    | .error _ => none

/-- Why a page has not been rendered. -/
def failure? : Except RenderError Text → Option RenderError
  | .ok _ => none
  | .error e => some e

/-- Why the other pages have not been rendered. -/
def unshown (rendered : List (Text × Except RenderError Text)) : List RenderError :=
  rendered.filterMap fun page => failure? page.2

theorem mem_shown {rendered : List (Text × Except RenderError Text)} :
    (names, text) ∈ shown rendered ↔
      ∃ outputPath, (outputPath, .ok text) ∈ rendered ∧ names = splitOn '/' outputPath := by
  rw [shown, List.mem_filterMap]
  constructor
  · rintro ⟨⟨outputPath, result⟩, member, same⟩
    cases result with
    | error e => cases same
    | ok text' =>
      cases same
      exact ⟨outputPath, member, rfl⟩
  · rintro ⟨outputPath, member, rfl⟩
    exact ⟨_, member, rfl⟩

/-- The output paths of the pages that have been rendered are among all output paths, in their order. -/
theorem shown_sublist (rendered : List (Text × Except RenderError Text)) :
    ((shown rendered).map Prod.fst).Sublist (rendered.map fun page => splitOn '/' page.1) := by
  induction rendered with
  | nil => exact .slnil
  | cons first rest ih =>
    obtain ⟨outputPath, result⟩ := first
    cases result with
    | ok text => exact ih.cons_cons _
    | error e => exact ih.cons _

theorem length_shown (rendered : List (Text × Except RenderError Text)) :
    (shown rendered).length = (rendered.filter fun page => page.2.isOk).length := by
  induction rendered with
  | nil => rfl
  | cons first rest ih =>
    obtain ⟨outputPath, result⟩ := first
    cases result with
    | ok text => exact congrArg Nat.succ ih
    | error e => exact ih

/-- If nothing has failed, every result is a text. -/
theorem ok_of_unshown {rendered : List (Text × Except RenderError Text)}
    (clean : unshown rendered = []) {outputPath : Text} {result : Except RenderError Text}
    (member : (outputPath, result) ∈ rendered) : ∃ text, result = .ok text := by
  have fine := List.filterMap_eq_nil_iff.mp clean _ member
  cases result with
  | ok text => exact ⟨text, rfl⟩
  | error e => cases fine

/-- A file at names that are allowed is written, and the directory stays tidy. -/
theorem writeFile_tidy (spread : Spread allowed) (tidy : Tidy allowed place t)
    (wellformed : t.Wellformed) (filled : directory.text ≠ [])
    (located : t.locate? directory = some place) (there : t.lookup place = some .directory)
    (allows : allowed names) (text : Text) :
    ∃ s, writeFile (directory.join ⟨join ['/'] names⟩) text t = (s, .ok ()) ∧
      Published place [(names, text)] t s ∧ Tidy allowed place s := by
  obtain ⟨s, done, written⟩ := writeFile_clear wellformed filled located there
    (spread.nonempty names allows) (spread.named names allows) (tidy.clear spread allows)
    (tidy.free spread allows) text
  exact ⟨s, done, .singleton there wellformed written, tidy.written allows written⟩

/-- Pages at different names that are allowed are all written, as far as they have been rendered. -/
theorem writeEach_tidy (spread : Spread allowed)
    {rendered : List (Text × Except RenderError Text)}
    (allows : ∀ names ∈ (shown rendered).map Prod.fst, allowed names)
    (distinct : ((shown rendered).map Prod.fst).Nodup) (tidy : Tidy allowed place t)
    (wellformed : t.Wellformed) (filled : directory.text ≠ [])
    (located : t.locate? directory = some place) (there : t.lookup place = some .directory)
    (report : OutputReport) :
    ∃ s, writeEach directory t report rendered =
        (s, .ok ⟨report.written + (shown rendered).length, report.failures ++ unshown rendered⟩) ∧
      Published place (shown rendered) t s ∧ Tidy allowed place s := by
  induction rendered generalizing t report with
  | nil => exact ⟨t, by simp [writeEach, shown, unshown], .nil wellformed, tidy⟩
  | cons page rest ih =>
    obtain ⟨outputPath, result⟩ := page
    cases result with
    | error e =>
      obtain ⟨s, done, later, tidy'⟩ := ih allows distinct tidy wellformed located there
        { report with failures := report.failures ++ [e] }
      rw [List.append_assoc] at done
      exact ⟨s, done, later, tidy'⟩
    | ok text =>
      have first : shown ((outputPath, .ok text) :: rest) =
        (splitOn '/' outputPath, text) :: shown rest := rfl
      rw [first] at allows distinct ⊢
      obtain ⟨new, distinct⟩ := List.nodup_cons.mp distinct
      obtain ⟨s, done, here, tidy'⟩ := writeFile_tidy spread tidy wellformed filled located there
        (allows _ (List.mem_cons_self ..)) text
      obtain ⟨u, done', later, tidy''⟩ :=
        ih (fun _ member => allows _ (List.mem_cons_of_mem _ member))
          distinct tidy' here.wellformed (locate_mono here.grown.home here.grown.directory located)
          (here.grown.directory place there) { report with written := report.written + 1 }
      have apart : ∀ names ∈ [(splitOn '/' outputPath, text)].map Prod.fst,
          names ∉ (shown rest).map Prod.fst := by
        intro names member
        rw [List.map_singleton, List.mem_singleton] at member
        rwa [member]
      refine ⟨u, ?_, here.append later apart, tidy''⟩
      have count : report.written + 1 + (shown rest).length =
        report.written + ((shown rest).length + 1) := by omega
      rw [join_splitOn] at done
      rw [count] at done'
      simp only [writeEach, done, List.length_cons]
      exact done'

/-- Pages at different names that are allowed, as far as they have been rendered, and an index are all
written, and no other file changes. -/
theorem writePages_tidy (spread : Spread allowed)
    {rendered : List (Text × Except RenderError Text)}
    (allows : ∀ names ∈ (shown rendered).map Prod.fst, allowed names) (search : allowed [searchFile])
    (distinct : ((shown rendered).map Prod.fst).Nodup)
    (other : [searchFile] ∉ (shown rendered).map Prod.fst)
    (tidy : Tidy allowed place t) (wellformed : t.Wellformed) (filled : directory.text ≠ [])
    (located : t.locate? directory = some place) (there : t.lookup place = some .directory)
    (index : Text) :
    ∃ s, writePages directory rendered index t =
        (s, .ok ⟨(shown rendered).length, unshown rendered⟩) ∧
      Published place (shown rendered ++ [([searchFile], index)]) t s ∧ Tidy allowed place s := by
  obtain ⟨s, done, pages, tidy'⟩ := writeEach_tidy spread allows distinct tidy wellformed filled
    located there ⟨0, []⟩
  obtain ⟨u, done', last, tidy''⟩ := writeFile_tidy spread tidy' pages.wellformed filled
    (locate_mono pages.grown.home pages.grown.directory located)
    (pages.grown.directory place there) search index
  refine ⟨u, ?_, pages.append last ?_, tidy''⟩
  · have whole : join ['/'] [searchFile] = searchFile := rfl
    rw [whole] at done'
    rw [writePages, makePath_of_locate located there]
    simp only [done, done', Nat.zero_add, List.nil_append]
  · intro names member index_member
    rw [List.map_singleton, List.mem_singleton] at index_member
    rw [index_member] at member
    exact other member

end DocSite.Site
