/-
# DocSite.Site.Project -- a site and its pages

A site has settings and the pages that have been read. A build reads all sources below the page root
anew; single sources can be read again or removed. The pages are rendered into a directory, beside
an index for searching.
-/
import DocSite.Json.Printer
import DocSite.Site.Reading

set_option autoImplicit false

namespace DocSite

open Text
open Page (Record)
open Doclet (Registry)

namespace Site

/-- The settings of a site. -/
structure Settings where
  root : Path
  extension : Text
  sources : List Text
  concurrency : Nat
  defaultLayout : Text
  keepFrontMatter : Bool
  data : Json.Fields

/-- The extensions of page sources, unless a site has others. -/
def standardSources : List Text :=
  ["md".toList, "markdown".toList, "html".toList, "htm".toList, "jinja".toList, "j2".toList]

/-- The settings of a site that chooses none. -/
def Settings.standard : Settings where
  root := ⟨"docs".toList⟩
  extension := "html".toList
  sources := standardSources
  concurrency := 16
  defaultLayout := "default".toList
  keepFrontMatter := false
  data := []

/-- Why a build stops. -/
inductive BuildError where
  | missingRoot (root : Path)
  | unwritten (path : Path) (fault : FileTree.Fault)
deriving DecidableEq, Repr

/-- The text of an error. -/
def BuildError.message : BuildError → Text
  | missingRoot root => "Page root not found: ".toList ++ root.text
  | unwritten path fault =>
    "Failed to write ".toList ++ path.text ++ ": ".toList ++ fault.message

/-- What came of a build: the number of pages, and the sources that failed. -/
structure BuildReport where
  pages : Nat
  failures : List PageError

/-- What came of writing: the number of pages written, and those that failed. -/
structure OutputReport where
  written : Nat
  failures : List RenderError

/-- What is to become of a page that is read alone. -/
inductive ParseMode where
  | full
  | incremental
  | dry
deriving DecidableEq, Repr

/-- What became of a source that was read alone. -/
inductive ParseOutcome where
  | skipped
  | parsed (page : Record)
  | stored (outputPath : Text) (upserted : Upserted)

/-- What can be searched for on a page. -/
structure SearchEntry where
  title : Text
  path : Text
  group : Option Text
  doclets : List Text
deriving DecidableEq, Repr

end Site

/-- A site: its settings, what it works with, its pages, and the layouts it keeps. -/
structure Site where
  settings : Site.Settings
  registry : Doclet.Registry
  engine : Site.Engine
  markdown : Site.MarkdownRenderer
  pages : Site.Tree
  kept : Site.Kept

namespace Site

/-- A site without pages. -/
def create (settings : Settings) (registry : Registry) (engine : Engine)
    (markdown : MarkdownRenderer) : Site :=
  ⟨settings, registry, engine, markdown, .empty, []⟩

/-- What makes pages of the sources of a site. -/
def reader (site : Site) : PageReader :=
  ⟨site.settings.root, site.settings.extension, site.registry, site.markdown, site.engine⟩

/-- What renders the pages of a site. -/
def renderer (site : Site) : Renderer :=
  ⟨site.engine, site.markdown, site.registry.names, site.settings.defaultLayout,
    site.settings.keepFrontMatter, site.settings.data⟩

/-- The output path of a source. -/
def outputPath (site : Site) (path : Path) : Text := site.reader.outputPath path

/-! ## Sources -/

/-- Whether a name is hidden. -/
def isHidden (name : Text) : Bool := name.head? == some '.'

/-- Whether a path is that of a page source, by its last name alone. -/
def isPageSource (site : Site) (path : Path) : Bool :=
  match path.extension? with
  | none => false
  | some extension =>
    site.settings.sources.any (Doclet.sameLetters extension) && !(path.name?.any isHidden)

/-- The page sources below the page root, in the order of their paths. What is hidden or lies in a
hidden directory does not count. -/
def discover (files : FileTree) (site : Site) : Except BuildError (List Path) :=
  let root := site.settings.root
  match files.isDirectory root, files.locate? root with
  | true, some place =>
    .ok ((files.below place).filterMap fun (names, entry) =>
      let path := root.join ⟨join ['/'] names⟩
      match entry with
      | .file _ => if !names.any isHidden && site.isPageSource path then some path else none
      | .directory => none)
  | _, _ => .error (.missingRoot root)

/-! ## Reading -/

/-- Reads one source, and does what is to become of the page. -/
def parse (files : FileTree) (path : Path) (mode : ParseMode) (site : Site) :
    Site × Except PageError ParseOutcome :=
  let reading := site.reader.read files site.kept path
  let site := { site with kept := reading.kept }
  match reading.page with
  | .error e => (site, .error e)
  | .ok none => (site, .ok .skipped)
  | .ok (some page) =>
    let store (mode : UpsertMode) : Site × Except PageError ParseOutcome :=
      let (pages, upserted) := site.pages.upsert page mode
      ({ site with pages := pages }, .ok (.stored page.outputPath upserted))
    match mode with
    | .dry => (site, .ok (.parsed page))
    | .full => store .full
    | .incremental => store .incremental

/-- Takes in what reading a source gave. -/
def takeIn (tree : Tree) (failures : List PageError) :
    Except PageError (Option Record) → Tree × List PageError
  | .ok (some page) => ((tree.upsert page .full).1, failures)
  | .ok none => (tree, failures)
  | .error e => (tree, failures ++ [e])

/-- Reads sources one after the other. -/
def readAll (files : FileTree) (reader : PageReader) (kept : Kept) :
    List Path → List (Except PageError (Option Record)) × Kept
  | [] => ([], kept)
  | path :: rest =>
    let reading := reader.read files kept path
    let (more, kept) := readAll files reader reading.kept rest
    (reading.page :: more, kept)

/-- Takes all pages out and reads sources in the order given. -/
def build (files : FileTree) (paths : List Path) (site : Site) : Site × BuildReport :=
  let (results, kept) := readAll files site.reader site.kept paths
  let (tree, failures) := results.foldl
    (fun (tree, failures) result => takeIn tree failures result) (site.pages.clear, [])
  ({ site with pages := tree, kept := kept }, ⟨tree.size, failures⟩)

/-- Drops the page of a source. -/
def remove (path : Path) (site : Site) : Site × Option Record :=
  let (pages, removed) := site.pages.remove (site.outputPath path)
  ({ site with pages := pages }, removed)

/-! ## Rendering -/

/-- Renders the page of an output path. -/
def renderPage (files : FileTree) (outputPath : Text) (site : Site) :
    Site × Except RenderError Text :=
  match site.pages.get? outputPath with
  | none => (site, .error (.pageNotFound outputPath))
  | some page =>
    let rendered := site.renderer.render files site.kept page site.pages
    ({ site with kept := rendered.kept }, rendered.text)

/-- Renders pages one after the other, given what layouts see of the site. -/
def renderEach (files : FileTree) (renderer : Renderer) (site : Template.Value) (kept : Kept) :
    List Record → List (Text × Except RenderError Text) × Kept
  | [] => ([], kept)
  | page :: rest =>
    let rendered := renderer.renderWith files kept page site
    let (more, kept) := renderEach files renderer site rendered.kept rest
    ((page.outputPath, rendered.text) :: more, kept)

/-- Renders all pages in the order of navigation. -/
def renderAll (files : FileTree) (site : Site) :
    Site × List (Text × Except RenderError Text) :=
  let (rendered, kept) := renderEach files site.renderer (site.renderer.siteValue site.pages)
    site.kept site.pages.list
  ({ site with kept := kept }, rendered)

/-! ## Searching -/

/-- The name of what a doclet documents. -/
def symbolName? (doclet : Json.Value) : Option Text :=
  (match doclet.get? "name".toList with
    | some name => some name
    | none => (doclet.get? "context".toList).bind (Json.Value.get? "name".toList)).bind
    Json.Value.string?

/-- What can be searched for, in the order of navigation. -/
def searchIndex (site : Site) : List SearchEntry :=
  site.pages.list.map fun page =>
    ⟨page.title, page.outputPath, page.group, page.doclets.filterMap symbolName?⟩

/-- An entry of the index as it is written. -/
def SearchEntry.json (entry : SearchEntry) : Json.Value :=
  .object [("title".toList, .string entry.title), ("path".toList, .string entry.path),
    ("group".toList, .ofText? entry.group), ("doclets".toList, .array (entry.doclets.map .string))]

/-- The text of the index. -/
def searchText (site : Site) : Text :=
  Json.pretty 0 (.array (site.searchIndex.map SearchEntry.json))

/-! ## Output -/

/-- The name of the file that holds the index. -/
def searchFile : Text := "search.json".toList

/-- Writes a file and makes the directories it lies in; these stay if the file cannot be
written. -/
def writeFile (path : Path) (text : Text) (files : FileTree) : FileTree × Except BuildError Unit :=
  match files.makeParents path with
  | .error fault => (files, .error (.unwritten path fault))
  | .ok files =>
    match files.writeText path text with
    | .error fault => (files, .error (.unwritten path fault))
    | .ok files => (files, .ok ())

/-- Writes rendered pages, as long as files can be written; pages that failed are reported. -/
def writeEach (directory : Path) (files : FileTree) (report : OutputReport) :
    List (Text × Except RenderError Text) → FileTree × Except BuildError OutputReport
  | [] => (files, .ok report)
  | (outputPath, result) :: rest =>
    match result with
    | .error e => writeEach directory files { report with failures := report.failures ++ [e] } rest
    | .ok text =>
      match writeFile (directory.join ⟨outputPath⟩) text files with
      | (files, .ok ()) => writeEach directory files { report with written := report.written + 1 } rest
      | (files, .error e) => (files, .error e)

/-- Writes rendered pages and an index below a directory. -/
def writePages (directory : Path) (rendered : List (Text × Except RenderError Text))
    (index : Text) (files : FileTree) : FileTree × Except BuildError OutputReport :=
  match files.makePath directory with
  | .error fault => (files, .error (.unwritten directory fault))
  | .ok files =>
    match writeEach directory files ⟨0, []⟩ rendered with
    | (files, .error e) => (files, .error e)
    | (files, .ok report) =>
      match writeFile (directory.join ⟨searchFile⟩) index files with
      | (files, .ok ()) => (files, .ok report)
      | (files, .error e) => (files, .error e)

/-- Renders all pages and writes them below a directory. -/
def writeOutput (directory : Path) (files : FileTree) (site : Site) :
    Site × FileTree × Except BuildError OutputReport :=
  let (site, rendered) := site.renderAll files
  let (files, report) := writePages directory rendered site.searchText files
  (site, files, report)

end Site

end DocSite
