/-
# DocSite.Proofs.Watch.Current -- sessions that are up to date

The state of a session is `Current` if its pages are those of the sources that are there, and the output
directory displays them. As long as nothing is in the way of this (`Orderly`), writing the pages of a
session whose pages are right makes it current (`Ready.writePages`), and an edit of a source that is
handled keeps it so (`Current.edit`).
-/
import DocSite.Proofs.Site.Publishing
import DocSite.Proofs.Watch.Agreement
import DocSite.Proofs.Watch.Edit

set_option autoImplicit false

namespace DocSite.Watch

open Text
open DocSite.Path (IsName)
open Page (Record)
open Site (isHidden)

/-! ## Handling edits -/

namespace Session

/-- Makes an edit, if it can be made, and handles the event that it causes. -/
def edit (root : List Text) (edit : Edit) (session : Session) (files : FileTree) :
    Session × FileTree :=
  match edit.make? root files with
  | none => (session, files)
  | some edited => session.handle (edit.event session.config.pageRoot) edited

/-- The files without that of the page that is dropped for an event. -/
def cleared? (event : Event) (session : Session) (files : FileTree) : Option FileTree :=
  match Action.ofEvent session.site session.config session.output event with
  | .remove source => (session.site.remove source).2.map fun page =>
      files.removeFile (session.output.join ⟨page.outputPath⟩)
  | _ => none

/-- Whether all pages can be rendered. -/
def Renders (session : Session) (files : FileTree) : Prop :=
  ∀ page ∈ session.site.pages.records,
    ∃ text, (session.site.renderPage files page.outputPath).2 = .ok text

end Session

namespace Project

variable (project : Project)

/-! ## What is assumed -/

/-- Whether neither of the page root and the output directory lies in the other, nor the page root in
the output directory as their paths are written. -/
structure Separate : Prop where
  filled : project.config.pageRoot.text ≠ []
  output_filled : project.output.text ≠ []
  written : project.output.isWithin project.config.pageRoot = false
  root_above : ¬project.root <+: project.out
  out_above : ¬project.out <+: project.root

/-- Whether a path is a source at any time. -/
def Present (trees : List FileTree) (path : Path) : Prop := ∃ t ∈ trees, project.IsSource t path

/-- What is assumed of the files at any time: layouts and what the adapters find do not change, nothing
below the page root is hidden, all sources can be read, and their output paths do not stand in each
other's way, nor in that of the index. -/
structure Orderly (trees : List FileTree) : Prop where
  alike : ∀ t ∈ trees, project.Alike t
  shown : ∀ t ∈ trees, ∀ names, (t.lookup (project.root ++ names)).isSome →
    names.any isHidden = false
  readable : ∀ t ∈ trees, ∀ path, project.IsSource t path →
    ∃ page, project.read t path = .ok (some page)
  apart : ∀ path other, project.Present trees path → project.Present trees other →
    project.site.outputPath other = project.site.outputPath path → other = path
  ordinary : ∀ path, project.Present trees path →
    ∀ piece ∈ splitOn '/' (project.site.outputPath path), IsName piece
  free : ∀ path other, project.Present trees path → project.Present trees other →
    splitOn '/' (project.site.outputPath path) <+: splitOn '/' (project.site.outputPath other) →
    project.site.outputPath path = project.site.outputPath other
  search : ∀ path, project.Present trees path →
    ¬[Site.searchFile] <+: splitOn '/' (project.site.outputPath path)

/-- Names below the output directory that a page or the index is written to at any time. -/
def allowed (trees : List FileTree) (names : List Text) : Prop :=
  names = [Site.searchFile] ∨
    ∃ path, project.Present trees path ∧ names = splitOn '/' (project.site.outputPath path)

/-! ## States -/

/-- Whether a session has the pages of the sources that are there, and nothing stands in the way of
writing them. -/
structure Ready (trees : List FileTree) (session : Session) (t : FileTree) : Prop where
  config : session.config = project.config
  output : session.output = project.output
  tools : session.site.bare = project.site
  kept : project.layouts.Faithful t session.site.kept
  placed : project.Placed t
  pages : Site.Reflects (project.read t) (project.IsSource t) session.site.pages
  tidy : Site.Tidy (project.allowed trees) project.out t

/-- Whether, moreover, the pages are what is written. -/
structure Current (trees : List FileTree) (session : Session) (t : FileTree) : Prop
    extends Ready project trees session t where
  displays : session.site.Displays project.out t

variable {project : Project} {trees : List FileTree} {session : Session} {t s : FileTree}
  {path : Path} {names : List Text}

theorem Orderly.spread (orderly : project.Orderly trees) : Site.Spread (project.allowed trees) where
  nonempty names := by
    rintro (rfl | ⟨path, -, rfl⟩)
    · simp
    · exact splitOn_ne_nil _ _
  named names := by
    rintro (rfl | ⟨path, present, rfl⟩)
    · decide
    · exact orderly.ordinary path present
  apart names others := by
    rintro (rfl | ⟨path, present, rfl⟩) (rfl | ⟨other, present', rfl⟩) inside
    · rfl
    · exact absurd inside (orderly.search other present')
    · -- What is above a single name is this name.
      have short := inside.length_le
      have long := List.length_pos_iff.mpr (splitOn_ne_nil '/' (project.site.outputPath path))
      exact inside.eq_of_length (by rw [List.length_singleton] at short ⊢; omega)
    · rw [orderly.free path other present present' inside]

theorem own_outputPath (path : Path) (page : Record)
    (read : project.read t path = .ok (some page)) :
    page.outputPath = project.site.outputPath path := Site.own_outputPath path page read

/-- The page of a source stands at the names that its output path is made of. -/
theorem Ready.page_source (ready : project.Ready trees session t) {page : Record}
    (member : page ∈ session.site.pages.records) :
    ∃ path, project.IsSource t path ∧ project.read t path = .ok (some page) ∧
      page.outputPath = project.site.outputPath path := by
  obtain ⟨path, there, read⟩ := (ready.pages.page page).mp member
  exact ⟨path, there, read, own_outputPath path page read⟩

theorem Ready.allows (ready : project.Ready trees session t) (seen : t ∈ trees) :
    ∀ page ∈ session.site.pages.records, project.allowed trees (splitOn '/' page.outputPath) := by
  intro page member
  obtain ⟨path, there, -, own⟩ := ready.page_source member
  exact Or.inr ⟨path, ⟨t, seen, there⟩, by rw [own]⟩

/-- No page stands where the index is written. -/
theorem Ready.apart_search (ready : project.Ready trees session t) (orderly : project.Orderly trees)
    (seen : t ∈ trees) :
    ∀ page ∈ session.site.pages.records, splitOn '/' page.outputPath ≠ [Site.searchFile] := by
  intro page member equal
  obtain ⟨path, there, -, own⟩ := ready.page_source member
  have inside : [Site.searchFile] <+: splitOn '/' page.outputPath := by simp [equal]
  rw [own] at inside
  exact orderly.search path ⟨t, seen, there⟩ inside

theorem engine_of_tools {site : Site} (tools : site.bare = project.site) :
    site.engine = project.layouts.engine := by
  have engine : site.bare.engine = project.site.engine := by rw [tools]
  exact engine

theorem outputPath_of_tools {site : Site} (tools : site.bare = project.site) (path : Path) :
    site.outputPath path = project.site.outputPath path := by
  have same : site.bare.outputPath path = project.site.outputPath path := by rw [tools]
  exact same

theorem isPageSource_of_tools {site : Site} (tools : site.bare = project.site) (path : Path) :
    site.isPageSource path = project.site.isPageSource path := by
  have same : site.bare.isPageSource path = project.site.isPageSource path := by rw [tools]
  exact same

/-! ## Writing -/

/-- What is written below the output directory is not below the page root, nor the other way around. -/
theorem Separate.root_not_above (separate : project.Separate) (names others : List Text) :
    ¬project.root ++ names <+: project.out ++ others := by
  intro inside
  rcases List.prefix_or_prefix_of_prefix ((List.prefix_append _ _).trans inside)
    (List.prefix_append project.out others) with above | above
  · exact separate.root_above above
  · exact separate.out_above above

theorem Separate.out_not_above (separate : project.Separate) (names others : List Text) :
    ¬project.out ++ names <+: project.root ++ others := by
  intro inside
  rcases List.prefix_or_prefix_of_prefix ((List.prefix_append _ _).trans inside)
    (List.prefix_append project.root others) with above | above
  · exact separate.out_above above
  · exact separate.root_above above

/-- Writing all pages of a session that is ready leaves it current. -/
theorem Ready.writePages (ready : project.Ready trees session t) (separate : project.Separate)
    (orderly : project.Orderly trees) (seen : t ∈ trees)
    (covers : session.site.Covers project.out t) (seen' : (session.writePages t).2 ∈ trees)
    (renders : (session.writePages t).1.Renders (session.writePages t).2) :
    (∃ report, (session.site.writeOutput session.output t).2.2 = .ok report) ∧
      project.Current trees (session.writePages t).1 (session.writePages t).2 := by
  have engine := engine_of_tools ready.tools
  have same := (orderly.alike t seen).find_eq (orderly.alike _ seen')
  -- What can be rendered after writing could be rendered before.
  have renders' : ∀ page ∈ session.site.pages.records,
      ∃ text, session.site.textOf t page = .ok text := by
    intro page member
    obtain ⟨text, shown⟩ := renders page member
    have faithful := ((Site.renderAll_eq engine ready.kept).2).transfer same
    have rendered : ((session.site.renderAll t).1.renderPage (session.writePages t).2
        page.outputPath).2 = session.site.textOf (session.writePages t).2 page :=
      Site.renderPage_eq engine faithful ready.pages.indexed member
    exact ⟨text, (Site.textOf_congr engine same page).symm.trans (rendered.symm.trans shown)⟩
  obtain ⟨kept, u, report, done, faithful, wellformed, grown, tidy, outside, displays⟩ :=
    Site.writeOutput_displays renders' engine ready.kept ready.pages.indexed orderly.spread
      (Or.inl rfl) (ready.allows seen) (ready.apart_search orderly seen) ready.tidy covers ready.placed.wellformed
      separate.output_filled ready.placed.out ready.placed.out_directory
  have written : session.writePages t =
      ({ session with site := { session.site with kept := kept } }, u) := by
    simp only [Session.writePages, ready.output, done]
  rw [written] at seen' same ⊢
  have placed := ready.placed.grown wellformed grown.home grown.directory
  have unchanged : ∀ names, u.lookup (project.root ++ names) = t.lookup (project.root ++ names) :=
    fun names => outside _ fun inside =>
      separate.out_not_above [] names (by simpa using inside)
  refine ⟨⟨report, by rw [ready.output, done]⟩, ?_⟩
  exact {
    config := ready.config
    output := ready.output
    tools := ready.tools
    kept := faithful.transfer same
    placed := placed
    pages := ready.pages.congr
      (fun path there => read_outside separate.filled ready.placed placed (orderly.alike t seen)
        (orderly.alike u seen') unchanged there)
      (fun path => isSource_outside separate.filled ready.placed placed unchanged)
    tidy := tidy
    displays := displays same }

/-! ## Edits -/

/-- An event at a file below the page root does not lie in the output directory. -/
theorem Placed.outside (placed : project.Placed t) (separate : project.Separate)
    (nonempty : names ≠ []) (named : ∀ name ∈ names, IsName name) :
    project.output.isWithin (project.source names) = false := by
  by_contra inside
  have above := Path.isWithin_iff.mp (by simpa using inside)
  have parts : (project.source names).parts = project.config.pageRoot.parts ++ names.map .name :=
    Path.parts_join_names separate.filled nonempty named
  rw [parts] at above
  rcases List.prefix_or_prefix_of_prefix above (List.prefix_append _ _) with written | ⟨rest, below⟩
  · have outside := separate.written
    rw [Path.isWithin_iff.mpr written] at outside
    cases outside
  · -- The output directory would be led to by names from the page root.
    obtain ⟨onWay, rfl⟩ : ∃ onWay : List Text, rest = onWay.map .name := by
      rw [← below] at above
      have inner := (List.prefix_append_right_inj _).mp above
      exact ⟨names.take rest.length, by
        rw [List.map_take]
        exact List.prefix_iff_eq_take.mp inner⟩
    have located := placed.out
    rw [FileTree.locate?, ← below, FileTree.follow_append] at located
    have root : t.follow t.home project.config.pageRoot.parts = some project.root := placed.root
    rw [root, Option.bind_some] at located
    exact separate.root_above ⟨onWay, (FileTree.eq_of_follow_names located).symm⟩

theorem Separate.within (separate : project.Separate) (nonempty : names ≠ [])
    (named : ∀ name ∈ names, IsName name) :
    project.config.pageRoot.isWithin (project.source names) = true :=
  Path.isWithin_iff.mpr ⟨names.map .name,
    (Path.parts_join_names separate.filled nonempty named).symm⟩

theorem source_of_edit (root : Path) (edit : Edit) :
    (edit.event root).path = root.join ⟨join ['/'] edit.names⟩ := by
  cases edit <;> rfl

/-- What an edit requires: its source is read again or dropped, and what is no source does not count. -/
theorem Current.action (current : project.Current trees session t) (separate : project.Separate)
    (edit : Edit) (nonempty : edit.names ≠ []) (named : ∀ name ∈ edit.names, IsName name) :
    Action.ofEvent session.site session.config session.output (edit.event project.config.pageRoot) =
      if project.site.isPageSource (project.source edit.names) then
        match edit with
        | .write names _ => .reparse (project.source names)
        | .delete names => .remove (project.source names)
      else .ignore := by
  have path : (edit.event project.config.pageRoot).path = project.source edit.names :=
    source_of_edit _ edit
  have outside : session.output.isWithin (edit.event project.config.pageRoot).path = false := by
    rw [path, current.output]
    exact current.placed.outside separate nonempty named
  have within : session.config.pageRoot.isWithin
      (edit.event project.config.pageRoot).path = true := by
    rw [path, current.config]
    exact separate.within nonempty named
  have action : Action.ofEvent session.site session.config session.output
      (edit.event project.config.pageRoot) = _ := ofEvent_below_root within outside
  rw [path, isPageSource_of_tools current.tools] at action
  rw [action]
  cases edit <;> rfl

section Step

variable (separate : project.Separate) (orderly : project.Orderly trees)
include separate orderly

/-- Sources other than the one that is edited are there, and are read, as before. -/
theorem other_sources {edit : Edit} (placed : project.Placed t) (seen : t ∈ trees)
    (seen' : s ∈ trees) (edited : edit.make? project.root t = some s)
    (named : ∀ name ∈ edit.names, IsName name) :
    (∀ other, other ≠ project.source edit.names →
      (project.IsSource s other ↔ project.IsSource t other)) ∧
    ∀ other, other ≠ project.source edit.names → project.IsSource t other →
      project.read s other = project.read t other := by
  have touched := touched_of_edit placed named edited
  have placed' := placed.touched touched
  have elsewhere : ∀ other, other ≠ project.source edit.names → ∀ names,
      project.source names = other → project.root ++ names ≠ project.root ++ edit.names := by
    intro other different names same equal
    rw [List.append_cancel_left equal] at same
    exact different same.symm
  refine ⟨fun other different => ?_, fun other different there => ?_⟩
  · exact isSource_other separate.filled placed placed' (elsewhere other different) touched
  · exact read_other separate.filled placed placed' (orderly.alike t seen) (orderly.alike s seen')
      (elsewhere other different) touched there

/-- A file that looks like a source is one, since nothing is hidden. -/
theorem isSource_of_file (placed : project.Placed t) (seen : t ∈ trees) (nonempty : names ≠ [])
    (named : ∀ name ∈ names, IsName name) {content : Content}
    (file : t.lookup (project.root ++ names) = some (.file content))
    (looks : project.site.isPageSource (project.source names) = true) :
    project.IsSource t (project.source names) :=
  (isSource_source separate.filled placed nonempty named).mpr
    ⟨⟨content, file⟩, orderly.shown t seen names (by rw [file]; rfl), looks⟩

/-- What is below the output directory stays as it is when a file below the page root is edited. -/
theorem Ready.edited {edit : Edit} (ready : project.Ready trees session t) (seen : t ∈ trees)
    (seen' : s ∈ trees) (edited : edit.make? project.root t = some s)
    (named : ∀ name ∈ edit.names, IsName name) :
    project.layouts.Faithful s session.site.kept ∧ project.Placed s ∧
      Site.Tidy (project.allowed trees) project.out s ∧
      ∀ names, s.lookup (project.out ++ names) = t.lookup (project.out ++ names) := by
  have touched := touched_of_edit ready.placed named edited
  have same : ∀ names, s.lookup (project.out ++ names) = t.lookup (project.out ++ names) :=
    fun names => touched.outside _ (separate.out_not_above names edit.names)
  refine ⟨ready.kept.transfer ((orderly.alike t seen).find_eq (orderly.alike s seen')),
    ready.placed.touched touched, ⟨fun names content file => ?_, fun names nonempty there => ?_⟩, same⟩
  · exact ready.tidy.file names content (same names ▸ file)
  · exact ready.tidy.directory names nonempty (same names ▸ there)

/-- An edit of a file that does not look like a source leaves a session current. -/
theorem Current.ignored {edit : Edit} (current : project.Current trees session t) (seen : t ∈ trees)
    (seen' : s ∈ trees) (named : ∀ name ∈ edit.names, IsName name)
    (edited : edit.make? project.root t = some s)
    (other : project.site.isPageSource (project.source edit.names) = false) :
    project.Current trees session s := by
  obtain ⟨kept, placed, tidy, same⟩ :=
    current.toReady.edited separate orderly seen seen' edited named
  obtain ⟨sources, reads⟩ := other_sources separate orderly current.placed seen seen' edited named
  -- The file that is edited is no source, neither before nor after.
  have never : ∀ t, project.Placed t → ¬project.IsSource t (project.source edit.names) := by
    intro t placed there
    obtain ⟨-, -, -, -, -, -, looks⟩ := (isSource_iff separate.filled placed).mp there
    rw [other] at looks
    cases looks
  have different : ∀ t, project.Placed t → ∀ path, project.IsSource t path →
      path ≠ project.source edit.names := by
    rintro t placed path there rfl
    exact never t placed there
  refine { current.toReady with
    kept := kept
    placed := placed
    tidy := tidy
    pages := current.pages.congr
      (fun path there => reads path (different t current.placed path there) there)
      (fun path => ?_)
    displays := fun names content => ?_ }
  · constructor
    · exact fun there => (sources path (different s placed path there)).mp there
    · exact fun there => (sources path (different t current.placed path there)).mpr there
  · have texts : ∀ page, session.site.textOf s page = session.site.textOf t page :=
      fun page => Site.textOf_congr (engine_of_tools current.tools)
        ((orderly.alike t seen).find_eq (orderly.alike s seen')) page
    rw [same]
    simp only [texts]
    exact current.displays names content

/-- A session is ready to write its pages when it has read a source again. -/
theorem Current.parsed {content : Content} (current : project.Current trees session t)
    (seen : t ∈ trees) (seen' : s ∈ trees) (nonempty : names ≠ [])
    (named : ∀ name ∈ names, IsName name)
    (edited : (Edit.write names content).make? project.root t = some s)
    (looks : project.site.isPageSource (project.source names) = true) :
    ∃ site outputPath upserted, session.site.parse s (project.source names) .incremental =
        (site, .ok (.stored outputPath upserted)) ∧
      project.Ready trees { session with site := site } s ∧ site.Covers project.out s := by
  obtain ⟨kept, placed, tidy, same⟩ :=
    current.toReady.edited separate orderly seen seen' edited named
  obtain ⟨sources, reads⟩ := other_sources separate orderly current.placed seen seen' edited named
  have written := written_of_edit current.placed named edited
  have file : s.lookup (project.root ++ names) = some (.file content) :=
    written.file_iff.mpr (Or.inl ⟨rfl, rfl⟩)
  have there := isSource_of_file separate orderly placed seen' nonempty named file looks
  obtain ⟨page, read⟩ := orderly.readable s seen' _ there
  have reader : session.site.reader = project.site.reader := by
    have bare : session.site.bare.reader = project.site.reader := by rw [current.tools]
    exact bare
  have engine : project.site.reader.engine = project.layouts.engine := rfl
  have reading : (session.site.reader.read s session.site.kept (project.source names)).page =
      .ok (some page) := by
    rw [reader, ← read]
    exact Site.read_page engine kept (fun _ _ => rfl) rfl
  have own := own_outputPath _ _ read
  let site : Site := { session.site with
    pages := (session.site.pages.upsert page .incremental).1
    kept := (session.site.reader.read s session.site.kept (project.source names)).kept }
  refine ⟨site, page.outputPath, (session.site.pages.upsert page .incremental).2, ?_, ?_, ?_⟩
  · simp only [Site.parse, reading]
    rfl
  · exact { current.toReady with
      kept := by
        have faithful := (Site.find_read engine s session.site.kept (project.source names)).trans kept
        rwa [← reader] at faithful
      placed := placed
      tidy := tidy
      pages := current.pages.upsert own_outputPath read own
        (fun other different before => reads other different before)
        (fun other => by
          by_cases here : other = project.source names
          · simp [here, there]
          · simp [here, sources other here])
        (fun other before equal =>
          orderly.apart _ other ⟨s, seen', there⟩ ⟨t, seen, before⟩ equal)
        .incremental }
  · have covers : session.site.Covers project.out s := fun others found there =>
      current.displays.covers others found (same others ▸ there)
    exact covers.upsert current.pages.indexed page .incremental _

/-- With a source that was deleted a session drops the page of this source, and has the pages of the
other sources. -/
theorem Current.forgotten (current : project.Current trees session t) (seen : t ∈ trees)
    (seen' : s ∈ trees) (nonempty : names ≠ []) (named : ∀ name ∈ names, IsName name)
    (edited : (Edit.delete names).make? project.root t = some s)
    (looks : project.site.isPageSource (project.source names) = true) :
    ∃ page, project.Present trees (project.source names) ∧
      page.outputPath = project.site.outputPath (project.source names) ∧
      (session.site.remove (project.source names)).2 = some page ∧
      Site.Reflects (project.read s) (project.IsSource s)
        (session.site.remove (project.source names)).1.pages := by
  obtain ⟨-, placed, -, -⟩ := current.toReady.edited separate orderly seen seen' edited named
  obtain ⟨sources, reads⟩ := other_sources separate orderly current.placed seen seen' edited named
  obtain ⟨⟨content, file⟩, removed⟩ := removed_of_edit edited
  have there := isSource_of_file separate orderly current.placed seen nonempty named file looks
  obtain ⟨page, read⟩ := orderly.readable t seen _ there
  have own := own_outputPath _ _ read
  have member : page ∈ session.site.pages.records := (current.pages.page page).mpr ⟨_, there, read⟩
  have path := outputPath_of_tools current.tools (project.source names)
  have gone : ¬project.IsSource s (project.source names) := by
    intro still
    obtain ⟨⟨content', there'⟩, -⟩ :=
      (isSource_source separate.filled placed nonempty named).mp still
    rw [removed, current.placed.wellformed.lookup_remove_file file, if_pos rfl] at there'
    cases there'
  refine ⟨page, ⟨t, seen, there⟩, own, ?_, ?_⟩
  · have answer : (session.site.remove (project.source names)).2 =
        session.site.pages.get? (session.site.outputPath (project.source names)) :=
      Site.Tree.removed_page _ _
    rw [answer, path, ← own]
    exact current.pages.indexed.get_eq_some.mpr ⟨member, rfl⟩
  · have rest : (session.site.remove (project.source names)).1.pages =
        (session.site.pages.remove (project.site.outputPath (project.source names))).1 := by
      rw [← path]
      rfl
    rw [rest]
    refine current.pages.remove own_outputPath (fun other different => reads other different)
      (fun other => ?_)
      (fun other before equal => orderly.apart _ other ⟨t, seen, there⟩ ⟨t, seen, before⟩ equal)
    by_cases here : other = project.source names
    · simp [here, gone]
    · simp [here, sources other here]

/-- A session is ready to write its pages when it has dropped the page of a source that was deleted, and
removed its file. -/
theorem Current.dropped (current : project.Current trees session t) (seen : t ∈ trees)
    (seen' : s ∈ trees) (nonempty : names ≠ []) (named : ∀ name ∈ names, IsName name)
    (edited : (Edit.delete names).make? project.root t = some s)
    (looks : project.site.isPageSource (project.source names) = true) :
    ∃ page, (session.site.remove (project.source names)).2 = some page ∧
      (s.removeFile (session.output.join ⟨page.outputPath⟩) ∈ trees →
        project.Ready trees { session with site := (session.site.remove (project.source names)).1 }
          (s.removeFile (session.output.join ⟨page.outputPath⟩)) ∧
        (session.site.remove (project.source names)).1.Covers project.out
          (s.removeFile (session.output.join ⟨page.outputPath⟩))) := by
  obtain ⟨kept, placed, tidy, same⟩ :=
    current.toReady.edited separate orderly seen seen' edited named
  obtain ⟨page, present, own, removed, pages⟩ :=
    current.forgotten separate orderly seen seen' nonempty named edited looks
  refine ⟨page, removed, ?_⟩
  rw [current.output]
  intro seen''
  have pieces := splitOn_ne_nil '/' page.outputPath
  have ordinary : ∀ piece ∈ splitOn '/' page.outputPath, IsName piece := by
    rw [own]
    exact orderly.ordinary _ present
  obtain ⟨cleared, gone⟩ := placed.wellformed.touched_removeFile separate.output_filled placed.out
    pieces ordinary
  have tidy' := tidy.removeFile placed.wellformed separate.output_filled placed.out pieces ordinary
  rw [join_splitOn '/' page.outputPath] at cleared gone tidy'
  have placed' := placed.touched cleared
  have unchanged : ∀ names, (s.removeFile (project.output.join ⟨page.outputPath⟩)).lookup
      (project.root ++ names) = s.lookup (project.root ++ names) :=
    fun names => cleared.outside _ (separate.root_not_above names _)
  refine ⟨{ current.toReady with
    output := rfl
    kept := kept.transfer ((orderly.alike s seen').find_eq (orderly.alike _ seen''))
    placed := placed'
    tidy := tidy'
    pages := pages.congr
      (fun path there => read_outside separate.filled placed placed' (orderly.alike s seen')
        (orderly.alike _ seen'') unchanged there)
      (fun path => isSource_outside separate.filled placed placed' unchanged) }, ?_⟩
  refine current.displays.covers.remove current.pages.indexed _ fun others found there => ?_
  have different : project.out ++ others ≠ project.out ++ splitOn '/' page.outputPath := by
    intro equal
    rw [equal] at there
    exact gone found there
  have before := (cleared.file _ found different).mp there
  rw [same] at before
  refine ⟨before, fun equal => different ?_⟩
  rw [equal, outputPath_of_tools current.tools, own]

/-- A session that reads a source again stays current. -/
theorem Current.reparse {content : Content} (current : project.Current trees session t)
    (seen : t ∈ trees) (seen' : s ∈ trees) (nonempty : names ≠ [])
    (named : ∀ name ∈ names, IsName name)
    (edited : (Edit.write names content).make? project.root t = some s)
    (looks : project.site.isPageSource (project.source names) = true)
    (seen'' : (session.reparse (project.source names) s).2 ∈ trees)
    (renders : (session.reparse (project.source names) s).1.Renders
      (session.reparse (project.source names) s).2) :
    project.Current trees (session.reparse (project.source names) s).1
      (session.reparse (project.source names) s).2 := by
  obtain ⟨site, outputPath, upserted, parsed, ready, covers⟩ :=
    current.parsed separate orderly seen seen' nonempty named edited looks
  have writes : session.reparse (project.source names) s =
      { session with site := site }.writePages s := by
    simp only [Session.reparse, parsed]
  rw [writes] at seen'' renders ⊢
  exact (ready.writePages separate orderly seen' covers seen'' renders).2

/-- A session that drops the page of a deleted source stays current. -/
theorem Current.remove (current : project.Current trees session t) (seen : t ∈ trees)
    (seen' : s ∈ trees) (nonempty : names ≠ []) (named : ∀ name ∈ names, IsName name)
    (edited : (Edit.delete names).make? project.root t = some s)
    (looks : project.site.isPageSource (project.source names) = true)
    (cleared : ∀ page, (session.site.remove (project.source names)).2 = some page →
      s.removeFile (session.output.join ⟨page.outputPath⟩) ∈ trees)
    (seen'' : (session.remove (project.source names) s).2 ∈ trees)
    (renders : (session.remove (project.source names) s).1.Renders
      (session.remove (project.source names) s).2) :
    project.Current trees (session.remove (project.source names) s).1
      (session.remove (project.source names) s).2 := by
  obtain ⟨page, removed, ready⟩ :=
    current.dropped separate orderly seen seen' nonempty named edited looks
  have between := cleared page removed
  obtain ⟨ready, covers⟩ := ready between
  have writes : session.remove (project.source names) s =
      { session with site := (session.site.remove (project.source names)).1 }.writePages
        (s.removeFile (session.output.join ⟨page.outputPath⟩)) := by
    simp only [Session.remove, removed]
  rw [writes] at seen'' renders ⊢
  exact (ready.writePages separate orderly between covers seen'' renders).2

/-- An edit that is handled leaves a session current. -/
theorem Current.edit (current : project.Current trees session t) (edit : Edit)
    (named : ∀ name ∈ edit.names, IsName name) (seen : t ∈ trees)
    (between : ∀ edited, edit.make? project.root t = some edited → edited ∈ trees ∧
      ∀ cleared, session.cleared? (edit.event project.config.pageRoot) edited = some cleared →
        cleared ∈ trees)
    (seen' : (session.edit project.root edit t).2 ∈ trees)
    (renders : (session.edit project.root edit t).1.Renders
      (session.edit project.root edit t).2) :
    project.Current trees (session.edit project.root edit t).1
      (session.edit project.root edit t).2 := by
  cases edited : edit.make? project.root t with
  | none =>
    have unchanged : session.edit project.root edit t = (session, t) := by
      rw [Session.edit, edited]
    rw [unchanged]
    exact current
  | some s =>
    obtain ⟨seen_s, cleared⟩ := between s edited
    have handled : session.edit project.root edit t =
        session.handle (edit.event project.config.pageRoot) s := by
      rw [Session.edit, edited, current.config]
    have nonempty := nonempty_of_edit current.placed edited
    have action := current.action separate edit nonempty named
    cases looks : project.site.isPageSource (project.source edit.names) with
    | false =>
      have ignored : session.edit project.root edit t = (session, s) := by
        rw [handled, Session.handle, action, looks]
        rfl
      rw [ignored]
      exact current.ignored separate orderly seen seen_s named edited looks
    | true =>
      rw [looks, if_pos rfl] at action
      cases edit with
      | write names content =>
        have reparsed : session.edit project.root (.write names content) t =
            session.reparse (project.source names) s := by
          rw [handled, Session.handle, action]
          rfl
        rw [reparsed] at seen' renders ⊢
        exact current.reparse separate orderly seen seen_s nonempty named edited looks seen' renders
      | delete names =>
        have dropped : session.edit project.root (.delete names) t =
            session.remove (project.source names) s := by
          rw [handled, Session.handle, action]
          rfl
        rw [dropped] at seen' renders ⊢
        refine current.remove separate orderly seen seen_s nonempty named edited looks
          (fun page removed => cleared _ ?_) seen' renders
        simp only [Session.cleared?, action, removed, Option.map_some]

end Step

end Project

end DocSite.Watch
