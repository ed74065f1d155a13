/-
# DocSite.Site.Rendering -- pages in their layouts

A layout sees three things: `page`, which is the page itself, `site`, which holds the data of the
site and its pages in the order of navigation, and `helpers`, which finds doclets, makes anchors
and renders Markdown.
-/
import DocSite.Site.Engine
import DocSite.Site.Match
import DocSite.Site.Tree
import DocSite.Text.Visible
import DocSite.Text.Slug

set_option autoImplicit false

namespace DocSite.Site

open Text
open Page (Record Docs)
open Template (Helpers Result)

/-- Why a page is not rendered. -/
inductive RenderError where
  | missingLayout (layout page : Text)
  | template (page : Text) (reason : Option Text)
  | pageNotFound (page : Text)
  | unwritableFrontMatter
deriving DecidableEq, Repr

/-- The text of an error, as far as it does not depend on the engine. -/
def RenderError.message? : RenderError → Option Text
  | missingLayout layout page =>
    some ("No layout called '".toList ++ layout ++ "' exists (set by ".toList ++ page ++ [')'])
  | template page reason =>
    reason.map fun reason => "Template error in ".toList ++ page ++ [':', ' '] ++ reason
  | pageNotFound page => some ("Page not found: ".toList ++ page)
  | unwritableFrontMatter => none

/-- What pages are rendered with. `adapters` are the names of the adapters of the site. -/
structure Renderer where
  engine : Engine
  markdown : MarkdownRenderer
  adapters : List Text
  defaultLayout : Text
  keepFrontMatter : Bool
  data : Json.Fields

namespace Renderer

/-! ## Helpers -/

/-- The doclets of an adapter on a page that match a predicate. -/
def find (docs : List (Text × Docs)) (adapter : Text) (predicate : Json.Value) :
    List Json.Value :=
  match docs.lookup adapter with
  | some docs => docs.doclets.filter fun doclet => matchesPredicate doclet predicate
  | none => []

/-- The only argument of a helper, as text. -/
def onlyText (a : Template.Arguments) : Result Text := do
  let text ← a.text 0
  a.upTo 1
  return text

/-- Calls a helper by name. A predicate may be given as arguments with names. -/
def callHelper (renderer : Renderer) (docs : List (Text × Docs)) (name : Text)
    (a : Template.Arguments) : Result Template.Value :=
  match String.ofList name with
  | "find" => do
    let adapter ← a.text 0
    a.upTo 2
    match ((a.value? 1).getD .none).toJson? with
    | some predicate => return .list ((find docs adapter predicate).map .ofJson)
    | none => .error .invalidOperation
  | "slugify" => (onlyText a).map fun text => .plain (slug text)
  | "markdown" => do
    match renderer.markdown.render (← onlyText a) with
    | .ok html => .ok (.text html true)
    | .error _ => .error .invalidOperation
  | _ => .error .unknownMethod

/-- The helpers of a page. -/
def helpers (renderer : Renderer) (docs : List (Text × Docs)) : Helpers where
  part? := fun name =>
    if name = "adapters".toList then some (.list (renderer.adapters.map .plain)) else none
  call := renderer.callHelper docs

/-- The helpers of a page as they are written where a template writes them. -/
def helpersText (renderer : Renderer) (docs : List (Text × Docs)) : Text :=
  let names (list : List Text) : Text := '[' :: join [',', ' '] (list.map quoted) ++ [']']
  "Helpers \x7b docs: ".toList ++ names (docs.map Prod.fst) ++ ", adapters: ".toList ++
    names renderer.adapters ++ " \x7d".toList

/-! ## Pages -/

/-- The value of a group of pages. -/
def groupValue (group : Group) : Template.Value :=
  .record [("name", (group.name.map .plain).getD .none), ("pages", .list (group.pages.map Record.value))]

/-- What layouts see of the site. Its pages stand above data of the same names. -/
def siteValue (renderer : Renderer) (tree : Tree) : Template.Value :=
  .ofNames (renderer.data.map (fun (name, value) => (name, .ofJson value)) ++
    [("pages".toList, .list (tree.list.map Record.value)),
      ("groups".toList, .list (tree.groups.map groupValue))])

/-- What the layout of a page is rendered with. -/
def contextOf (renderer : Renderer) (page : Record) (site : Template.Value) : Context where
  value := .record [("page", page.value), ("site", site),
    ("helpers", .helpers (renderer.helpersText page.docs))]
  helpers := renderer.helpers page.docs

/-- A rendered page, or why there is none, and the layouts that are kept. -/
structure Rendered where
  text : Except RenderError Text
  kept : Kept

/-- Renders a page, given what layouts see of the site. -/
def renderWith (renderer : Renderer) (files : FileTree) (kept : Kept) (page : Record)
    (site : Template.Value) : Rendered :=
  let layout := page.layout.getD renderer.defaultLayout
  let outcome := renderer.engine.render files kept layout (renderer.contextOf page site)
  { text := match outcome.text with
      | .ok text =>
        if renderer.keepFrontMatter then
          match page.frontMatter.toBlock? with
          | some block => .ok (block ++ '\n' :: text)
          | none => .error .unwritableFrontMatter
        else .ok text
      | .error (.missing layout) => .error (.missingLayout layout page.outputPath)
      | .error (.failed reason) => .error (.template page.outputPath reason)
    kept := outcome.kept }

/-- Renders a page of a tree. -/
def render (renderer : Renderer) (files : FileTree) (kept : Kept) (page : Record) (tree : Tree) :
    Rendered :=
  renderer.renderWith files kept page (renderer.siteValue tree)

end Renderer

end DocSite.Site
