/-
# DocSite.Proofs.Site.Reachable -- sites and what can be done to them

A site begins without pages. Sources are read into it, all of them or one by one, pages are dropped,
and pages are rendered; a site that comes of this is `Reachable`. Its tools stay those that it began
with (`bare_build` and the like), and each of its pages stands under the output path of its source
(`Reachable.sourced`). What a source can come to is said once (`PageReader.read_cases`), and what
reading one does to a site (`parse_cases`).
-/
import DocSite.Proofs.Mapping
import DocSite.Proofs.Page.Docs
import DocSite.Proofs.Site.Slots
import DocSite.Proofs.Site.Sources

set_option autoImplicit false

namespace DocSite.Site

open Text
open Page (Docs FrontMatter Record)

variable {site : Site} {files : FileTree} {path : Path} {kept : Kept} {page : Record}

/-! ## Reading -/

namespace PageReader

/-- What a page shows for documentation that it asks for, or why it cannot be made. -/
def answer (reader : PageReader) (files : FileTree) (path : Path) (asked : Text × Yaml.Value) :
    Except PageError (Text × Docs) :=
  match reader.registry.run files asked.1 asked.2 with
  | .ok (some resolution) => .ok (asked.1, .resolved resolution.doclets)
  | .ok none => .ok (asked.1, .unresolved asked.2)
  | .error e => .error (.adapter path asked.1 e)

theorem resolveDocs_eq (reader : PageReader) (files : FileTree) (path : Path) (declared : List (Text × Yaml.Value)) :
    reader.resolveDocs files path declared = (declared.mapM (reader.answer files path)).map Docs.inOrder := by
  change (declared.mapM (reader.answer files path) >>= fun pairs => pure (Docs.inOrder pairs)) = _
  cases declared.mapM (reader.answer files path) <;> rfl

theorem resolveDocs_ok_iff {reader : PageReader} {declared : List (Text × Yaml.Value)} {docs : List (Text × Docs)} :
    reader.resolveDocs files path declared = .ok docs ↔
      ∃ answers, declared.mapM (reader.answer files path) = .ok answers ∧ Docs.inOrder answers = docs := by
  rw [resolveDocs_eq]
  cases declared.mapM (reader.answer files path) <;> simp [Except.map]

theorem resolveDocs_error_iff {reader : PageReader} {declared : List (Text × Yaml.Value)} {e : PageError} :
    reader.resolveDocs files path declared = .error e ↔
      declared.mapM (reader.answer files path) = .error e := by
  rw [resolveDocs_eq]
  cases declared.mapM (reader.answer files path) <;> simp [Except.map]

/-- What can come of the text of a source: its front matter cannot be read, its text cannot be rendered, what it asks
for cannot be read, or it is a page. Layouts are kept from the rendering on. -/
inductive Makes (reader : PageReader) (files : FileTree) (kept : Kept) (path : Path) (text : Text) : Reading → Prop
  | unextracted {e : FrontMatter.Error}
      (extracted : FrontMatter.extract ((Page.unwrapComment? (.ofPath path) text).getD text) = .error e) :
      Makes reader files kept path text ⟨.error (.frontMatter path e), kept⟩
  | unrendered {frontMatter : FrontMatter} {body : Text} {reason : Option Text} {later : Kept}
      (extracted : FrontMatter.extract ((Page.unwrapComment? (.ofPath path) text).getD text) = .ok (frontMatter, body))
      (rendered : reader.renderBody files kept (.ofPath path)
        (Page.resolveTitle frontMatter (.ofPath path) body (reader.outputPath path)).body = (.error reason, later)) :
      Makes reader files kept path text ⟨.error (.unrendered path reason), later⟩
  | undocumented {frontMatter : FrontMatter} {body html : Text} {later : Kept} {e : PageError}
      (extracted : FrontMatter.extract ((Page.unwrapComment? (.ofPath path) text).getD text) = .ok (frontMatter, body))
      (rendered : reader.renderBody files kept (.ofPath path)
        (Page.resolveTitle frontMatter (.ofPath path) body (reader.outputPath path)).body = (.ok html, later))
      (asked : reader.resolveDocs files path frontMatter.docs = .error e) :
      Makes reader files kept path text ⟨.error e, later⟩
  | page {page : Record} {body : Text} {later : Kept}
      (extracted : FrontMatter.extract ((Page.unwrapComment? (.ofPath path) text).getD text) =
        .ok (page.frontMatter, body))
      (rendered : reader.renderBody files kept (.ofPath path)
        (Page.resolveTitle page.frontMatter (.ofPath path) body (reader.outputPath path)).body = (.ok page.body, later))
      (asked : reader.resolveDocs files path page.frontMatter.docs = .ok page.docs)
      (source : page.source = path) (own : page.outputPath = reader.outputPath path)
      (title : page.title =
        (Page.resolveTitle page.frontMatter (.ofPath path) body (reader.outputPath path)).title)
      (order : page.order = page.frontMatter.order?.or (nameOrder? path)) :
      Makes reader files kept path text ⟨.ok (some page), later⟩

theorem makes_readText (reader : PageReader) (files : FileTree) (kept : Kept) (path : Path) (text : Text) :
    reader.Makes files kept path text (reader.readText files kept path text) := by
  simp only [readText]
  split
  next e extracted => exact .unextracted extracted
  next frontMatter body extracted =>
    split
    next reason later rendered => exact .unrendered extracted rendered
    next html later rendered =>
      cases asked : reader.resolveDocs files path frontMatter.docs with
      | error e => exact .undocumented extracted rendered asked
      | ok docs =>
        refine .page extracted rendered asked rfl rfl rfl ?_
        cases frontMatter.order? <;> rfl

/-- What comes of a source: a directory gives no page, and a text makes what `Makes` says. -/
theorem read_cases (reader : PageReader) (files : FileTree) (kept : Kept) (path : Path) :
    ((∀ content, files.entryAt? path ≠ some (.file content)) ∧
        reader.read files kept path = ⟨.ok none, kept⟩) ∨
      reader.read files kept path = ⟨.error (.unreadable path), kept⟩ ∨
      ∃ text, files.entryAt? path = some (.file (.text text)) ∧
        reader.Makes files kept path text (reader.read files kept path) := by
  unfold read
  split
  · exact .inr (.inl rfl)
  next there => exact .inl ⟨fun content file => by simp [there] at file, rfl⟩
  · exact .inr (.inl rfl)
  next text there => exact .inr (.inr ⟨text, there, makes_readText ..⟩)

end PageReader

/-- A page is read of a file with a text. What it knows of itself comes from the path, from the front matter, which
is taken off the text, and from the rest of the text. The front matter goes before the name of the file. -/
theorem exists_text_of_read {reader : PageReader} (read : (reader.read files kept path).page = .ok (some page)) :
    ∃ text body, files.entryAt? path = some (.file (.text text)) ∧
      FrontMatter.extract ((Page.unwrapComment? (.ofPath path) text).getD text) = .ok (page.frontMatter, body) ∧
      page.source = path ∧ page.outputPath = reader.outputPath path ∧
      page.title = (Page.resolveTitle page.frontMatter (.ofPath path) body page.outputPath).title ∧
      reader.resolveDocs files path page.frontMatter.docs = .ok page.docs ∧
      page.order = page.frontMatter.order?.or (PageReader.nameOrder? path) := by
  rcases reader.read_cases files kept path with ⟨-, same⟩ | same | ⟨text, there, makes⟩
  · rw [same] at read
    cases read
  · rw [same] at read
    cases read
  · generalize reader.read files kept path = reading at read makes
    cases makes with
    | page extracted _ asked source own title order =>
      cases read
      exact ⟨text, _, there, extracted, source, own, own ▸ title, asked, order⟩
    | _ => cases read

/-- A page that is read knows its source, and its output path is that of its source. -/
theorem page_of_read {reader : PageReader}
    (read : (reader.read files kept path).page = .ok (some page)) :
    page.source = path ∧ page.outputPath = reader.outputPath path := by
  obtain ⟨_, _, -, -, source, own, -⟩ := exists_text_of_read read
  exact ⟨source, own⟩

/-- A page that comes out of a reading, errors and nothing set aside, is what is read. -/
theorem reading_of_join {ε : Type} {reading : Except ε (Option Record)} (read : reading.toOption.join = some page) :
    reading = .ok (some page) := by
  cases reading with
  | error e => cases read
  | ok found => exact congrArg _ read

/-- What is read of sources one after the other is what is read of each with some layouts kept. -/
theorem mem_readAll {reader : PageReader} {paths : List Path}
    {result : Except PageError (Option Record)}
    (member : result ∈ (readAll files reader kept paths).1) :
    ∃ path ∈ paths, ∃ kept, result = (reader.read files kept path).page := by
  induction paths generalizing kept with
  | nil => cases member
  | cons path rest ih =>
    rcases List.mem_cons.mp member with rfl | later
    · exact ⟨path, List.mem_cons_self .., kept, rfl⟩
    · obtain ⟨path', member', kept', same⟩ := ih later
      exact ⟨path', List.mem_cons_of_mem _ member', kept', same⟩

/-! ## Tools -/

/-- A site as it was before any page was read. -/
def bare (site : Site) : Site := { site with pages := .empty, kept := [] }

theorem bare_build (files : FileTree) (paths : List Path) (site : Site) :
    (site.build files paths).1.bare = site.bare := rfl

/-- Reading a source again changes what is kept of layouts, and puts in the page that was read unless there is none
or it is only looked at. -/
theorem parse_cases (files : FileTree) (path : Path) (mode : ParseMode) (site : Site) :
    (site.parse files path mode).1 = { site with kept := (site.reader.read files site.kept path).kept } ∨
    ∃ page upsert, (site.reader.read files site.kept path).page = .ok (some page) ∧
      (site.parse files path mode).1 = { site with
        pages := (site.pages.upsert page upsert).1
        kept := (site.reader.read files site.kept path).kept } := by
  cases read : (site.reader.read files site.kept path).page with
  | error e => exact .inl (by simp only [parse, read])
  | ok found =>
    cases found with
    | none => exact .inl (by simp only [parse, read])
    | some page =>
      cases mode with
      | dry => exact .inl (by simp only [parse, read])
      | full => exact .inr ⟨page, .full, rfl, by simp only [parse, read]⟩
      | incremental => exact .inr ⟨page, .incremental, rfl, by simp only [parse, read]⟩

theorem bare_parse (files : FileTree) (path : Path) (mode : ParseMode) (site : Site) :
    (site.parse files path mode).1.bare = site.bare := by
  rcases parse_cases files path mode site with same | ⟨page, upsert, -, same⟩
  · rw [same]
    rfl
  · rw [same]
    rfl

/-! ## Pages under the output paths of their sources -/

/-- Whether the pages of a site are indexed, and each stands under the output path of its source. -/
structure Sourced (site : Site) : Prop where
  indexed : site.pages.Indexed
  outputPath : ∀ page ∈ site.pages.records, page.outputPath = site.outputPath page.source

theorem Sourced.upsert (sourced : site.Sourced) (mode : UpsertMode)
    (own : page.outputPath = site.outputPath page.source) :
    Sourced { site with pages := (site.pages.upsert page mode).1 } := by
  have indexed := Tree.indexed_upsert sourced.indexed page mode
  refine ⟨indexed, fun other member => ?_⟩
  have found := indexed.get_eq_some.mpr ⟨member, rfl⟩
  rw [sourced.indexed.get_upsert] at found
  split at found
  · cases found
    exact own
  · exact sourced.outputPath other (sourced.indexed.get_eq_some.mp found).1

theorem Sourced.remove (sourced : site.Sourced) (path : Path) : (site.remove path).1.Sourced := by
  refine ⟨Tree.indexed_remove sourced.indexed _, fun page member => ?_⟩
  have before : page ∈ (site.pages.remove (site.outputPath path)).1.records := member
  rw [sourced.indexed.records_without] at before
  exact sourced.outputPath page (List.mem_of_mem_filter before)

theorem Sourced.parse (sourced : site.Sourced) (files : FileTree) (path : Path) (mode : ParseMode) :
    (site.parse files path mode).1.Sourced := by
  have kept : Sourced { site with kept := (site.reader.read files site.kept path).kept } :=
    ⟨sourced.indexed, sourced.outputPath⟩
  rcases parse_cases files path mode site with same | ⟨page, upsert, read, same⟩
  · rw [same]
    exact kept
  · obtain ⟨source, own⟩ := page_of_read read
    rw [same]
    exact kept.upsert upsert (by rw [own, source]; rfl)

/-- Taking in what was read of sources keeps pages under the output paths of their sources. -/
theorem Sourced.takeIn_foldl (results : List (Except PageError (Option Record)))
    (own : ∀ page, .ok (some page) ∈ results → page.outputPath = site.outputPath page.source)
    {tree : Tree} (sourced : Sourced { site with pages := tree }) (failures : List PageError) :
    Sourced { site with pages := (results.foldl
      (fun (tree, failures) result => takeIn tree failures result) (tree, failures)).1 } := by
  induction results generalizing tree failures with
  | nil => exact sourced
  | cons result rest ih =>
    have later : ∀ page, .ok (some page) ∈ rest → page.outputPath = site.outputPath page.source :=
      fun page member => own page (List.mem_cons_of_mem _ member)
    rw [List.foldl_cons]
    cases result with
    | error e => exact ih later sourced _
    | ok found =>
      cases found with
      | none => exact ih later sourced _
      | some page => exact ih later (sourced.upsert .full (own page (List.mem_cons_self ..))) _

theorem sourced_build (files : FileTree) (paths : List Path) (site : Site) :
    (site.build files paths).1.Sourced := by
  have none : Sourced { site with pages := site.pages.clear } :=
    ⟨Tree.indexed_empty, fun page member => by cases member⟩
  have own : ∀ page, .ok (some page) ∈ (readAll files site.reader site.kept paths).1 →
      page.outputPath = site.outputPath page.source := by
    intro page member
    obtain ⟨path, -, kept, read⟩ := mem_readAll member
    obtain ⟨source, own⟩ := page_of_read read.symm
    rw [own, source]
    rfl
  have built := none.takeIn_foldl _ own []
  exact ⟨built.indexed, built.outputPath⟩

/-! ## Reachable sites -/

/-- Sites that come of what can be done to a site without pages. -/
inductive Reachable : Site → Prop
  | create (settings : Settings) (registry : Doclet.Registry) (engine : Engine)
      (markdown : MarkdownRenderer) : Reachable (.create settings registry engine markdown)
  | build {site : Site} (files : FileTree) (paths : List Path) :
      Reachable site → Reachable (site.build files paths).1
  | parse {site : Site} (files : FileTree) (path : Path) (mode : ParseMode) :
      Reachable site → Reachable (site.parse files path mode).1
  | remove {site : Site} (path : Path) : Reachable site → Reachable (site.remove path).1
  | renderPage {site : Site} (files : FileTree) (outputPath : Text) :
      Reachable site → Reachable (site.renderPage files outputPath).1
  | renderAll {site : Site} (files : FileTree) :
      Reachable site → Reachable (site.renderAll files).1

/-- The pages of a site that can be reached stand under the output paths of their sources. -/
theorem Reachable.sourced (reachable : site.Reachable) : site.Sourced := by
  induction reachable with
  | create => exact ⟨Tree.indexed_empty, fun page member => by cases member⟩
  | build files paths => exact sourced_build files paths _
  | parse files path mode _ ih => exact ih.parse files path mode
  | remove path _ ih => exact ih.remove path
  | renderPage files outputPath _ ih =>
    unfold Site.renderPage
    split <;> exact ⟨ih.indexed, ih.outputPath⟩
  | renderAll files _ ih => exact ⟨ih.indexed, ih.outputPath⟩

/-! ## Removing a source -/

/-- If all pages at the output path of a source are made of it, its pages are known by this output
path. -/
theorem Sourced.own_page (sourced : site.Sourced)
    (alone : ∀ page ∈ site.pages.records, page.outputPath = site.outputPath path →
      page.source.parts = path.parts) (member : page ∈ site.pages.records) :
    page.outputPath = site.outputPath path ↔ page.source.parts = path.parts :=
  ⟨alone page member, fun same => (sourced.outputPath page member).trans (outputPath_congr same)⟩

/-- Removing a source drops the page of this source, if there is one, and no other page, unless the
source of another page has the same output path. -/
theorem Sourced.remove_source (sourced : site.Sourced)
    (alone : ∀ page ∈ site.pages.records, page.outputPath = site.outputPath path →
      page.source.parts = path.parts) :
    (site.remove path).2 =
        site.pages.records.find? (fun page => page.source.parts = path.parts) ∧
      (site.remove path).1.pages.records =
        site.pages.records.filter fun page => page.source.parts ≠ path.parts := by
  have own : ∀ page ∈ site.pages.records,
      page.outputPath = site.outputPath path ↔ page.source.parts = path.parts :=
    fun page member => sourced.own_page alone member
  constructor
  · have answer : (site.remove path).2 = site.pages.get? (site.outputPath path) :=
      Tree.removed_page _ _
    rw [answer, sourced.indexed.get_eq_find]
    exact List.find?_congr fun page member => by simp [own page member]
  · have rest : (site.remove path).1.pages.records = site.pages.records.filter fun page =>
        page.outputPath ≠ site.outputPath path := sourced.indexed.records_without _
    rw [rest]
    exact List.filter_congr fun page member => by simp [own page member]

end DocSite.Site
