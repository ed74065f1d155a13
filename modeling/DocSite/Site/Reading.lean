/-
# DocSite.Site.Reading -- pages from their sources

The source of a page may have its front matter in a comment. The text that follows is Markdown, a
template, or output as it stands. Every adapter that the front matter names and the site has reads
the documentation that the page asks for; the first of them that fails makes the page fail.
-/
import DocSite.Doclet.Registry
import DocSite.Markdown.Retarget
import DocSite.Page.Comment
import DocSite.Page.Location
import DocSite.Page.Title
import DocSite.Site.Rendering

set_option autoImplicit false

namespace DocSite.Site

open Text
open Page (Record Docs FrontMatter Kind)
open Doclet (AdapterError Registry)

/-- Why a source does not become a page. -/
inductive PageError where
  | unreadable (path : Path)
  | frontMatter (path : Path) (error : FrontMatter.Error)
  | adapter (path : Path) (name : Text) (error : AdapterError)
  | unrendered (path : Path) (reason : Option Text)
deriving DecidableEq, Repr

/-- The source that an error belongs to. -/
def PageError.path : PageError → Path
  | unreadable path => path
  | frontMatter path _ => path
  | adapter path _ _ => path
  | unrendered path _ => path

/-- The text of an error within a source, as far as it does not depend on what renders it. -/
def PageError.message? : PageError → Option Text
  | unrendered path reason =>
    reason.map fun reason => "Failed to render ".toList ++ path.text ++ [':', ' '] ++ reason
  | _ => none

/-- What makes pages of sources. -/
structure PageReader where
  root : Path
  extension : Text
  registry : Registry
  markdown : MarkdownRenderer
  engine : Engine

/-- A page, or why there is none, and the layouts that are kept. Directories give no page. -/
structure Reading where
  page : Except PageError (Option Record)
  kept : Kept

namespace PageReader

/-- The output path of a source. -/
def outputPath (reader : PageReader) (path : Path) : Text :=
  Page.outputPath path reader.root reader.extension

/-- The order that the name of a source gives it. -/
def nameOrder? (path : Path) : Option Int :=
  (path.name?.bind Page.splitOrder?).map fun (order, _) => order

/-- The documentation that is asked for, as far as there are adapters for it. -/
def resolveDocs (reader : PageReader) (files : FileTree) (path : Path)
    (declared : List (Text × Yaml.Value)) : Except PageError (List (Text × Docs)) := do
  let resolved ← declared.mapM fun (name, reference) =>
    match reader.registry.run files name reference with
    | .ok (some resolution) => .ok (name, Docs.resolved resolution.doclets)
    | .ok none => .ok (name, Docs.unresolved reference)
    | .error e => .error (PageError.adapter path name e)
  return resolved.foldl (fun docs (name, entry) => Docs.insert name entry docs) []

/-- What the text of a page becomes. -/
def renderBody (reader : PageReader) (files : FileTree) (kept : Kept) (kind : Kind) (body : Text) :
    Except (Option Text) Text × Kept :=
  match kind with
  | .verbatim => (.ok body, kept)
  | .markdown =>
    (match reader.markdown.render (Markdown.retargetLinks body reader.extension) with
      | .ok html => .ok html
      | .error reason => .error (some reason), kept)
  | .template =>
    let outcome := reader.engine.renderText files kept body .empty
    (match outcome.text with
      | .ok text => .ok text
      | .error e => .error (match e with
        | .failed reason => reason
        | .missing _ => e.message?), outcome.kept)

/-- Makes a page of the text of a source. -/
def readText (reader : PageReader) (files : FileTree) (kept : Kept) (path : Path) (text : Text) :
    Reading :=
  let kind := Kind.ofPath path
  let source := (Page.unwrapComment? kind text).getD text
  match FrontMatter.extract source with
  | .error e => ⟨.error (.frontMatter path e), kept⟩
  | .ok (frontMatter, body) =>
    let outputPath := reader.outputPath path
    let titled := Page.resolveTitle frontMatter kind body outputPath
    match reader.renderBody files kept kind titled.body with
    | (.error reason, kept) => ⟨.error (.unrendered path reason), kept⟩
    | (.ok html, kept) =>
      { page := (reader.resolveDocs files path frontMatter.docs).map fun docs => some
          { source := path
            outputPath := outputPath
            frontMatter := frontMatter
            body := html
            title := titled.title
            group := frontMatter.group?
            layout := frontMatter.layout?
            docs := docs
            order := match frontMatter.order? with
              | some order => some order
              | none => nameOrder? path }
        kept := kept }

/-- Makes a page of the source at a path. -/
def read (reader : PageReader) (files : FileTree) (kept : Kept) (path : Path) : Reading :=
  match files.entryAt? path with
  | none => ⟨.error (.unreadable path), kept⟩
  | some .directory => ⟨.ok none, kept⟩
  | some (.file (.bytes _)) => ⟨.error (.unreadable path), kept⟩
  | some (.file (.text text)) => reader.readText files kept path text

end PageReader

end DocSite.Site
