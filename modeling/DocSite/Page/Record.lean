/-
# DocSite.Page.Record -- pages

A page that has been read knows where it comes from, where it goes, and what it shows. The
documentation it asks for is either resolved to doclets or kept as it was declared.
-/
import DocSite.Doclet.Adapter
import DocSite.Json.Printer
import DocSite.Page.FrontMatter
import DocSite.Template.Value

set_option autoImplicit false

namespace DocSite.Page

open Text
open Doclet (Categories)

/-- The documentation that a page asks for under the name of an adapter. -/
inductive Docs where
  | unresolved (reference : Yaml.Value)
  | resolved (doclets : Categories)
deriving Repr

/-- A page. Its output path identifies it within a site. -/
structure Record where
  source : Path
  outputPath : Text
  frontMatter : FrontMatter
  body : Text
  title : Text
  group : Option Text
  layout : Option Text
  docs : List (Text × Docs)
  order : Option Int
deriving Repr

namespace Docs

/-- Whether an adapter has been found for the documentation. -/
def isResolved : Docs → Bool
  | unresolved _ => false
  | resolved _ => true

/-- The doclets, kind by kind. -/
def doclets : Docs → List Json.Value
  | unresolved _ => []
  | resolved categories => categories.flatMap Prod.snd

/-- Gives a name its documentation, in the order of names. -/
def insert (name : Text) (docs : Docs) : List (Text × Docs) → List (Text × Docs)
  | [] => [(name, docs)]
  | (n, old) :: rest =>
    match Text.compare name n with
    | .lt => (name, docs) :: (n, old) :: rest
    | .eq => (name, docs) :: rest
    | .gt => (n, old) :: insert name docs rest

end Docs

/-! ## Pages as data -/

/-- The name that a key becomes in an object. -/
def fieldName? : Yaml.Value → Option Text
  | .string text => some text
  | .int n => some (NumberLayout.ofInt n)
  | .bool value => some (if value then "true".toList else "false".toList)
  | .float number => if number.isFinite then some (Json.numberText number) else none
  | _ => none

mutual
/-- The JSON value of a YAML value; a tag becomes the only field of an object. There is none for a
mapping with a key that is no name. -/
def jsonOf? : Yaml.Value → Option Json.Value
  | .null => some .null
  | .bool value => some (.bool value)
  | .int n => some (.int n)
  | .float number => some (if number.isFinite then .float number else .null)
  | .string text => some (.string text)
  | .sequence items => (jsonItems? items).map .array
  | .mapping entries => (jsonFields? entries).map .ofPairs
  | .tagged tag value => (jsonOf? value).map fun value => .object [(tag, value)]

/-- The JSON values of YAML values. -/
def jsonItems? : List Yaml.Value → Option (List Json.Value)
  | [] => some []
  | item :: items =>
    match jsonOf? item, jsonItems? items with
    | some item, some items => some (item :: items)
    | _, _ => none

/-- The fields of a YAML mapping. -/
def jsonFields? : List (Yaml.Value × Yaml.Value) → Option (List (Text × Json.Value))
  | [] => some []
  | (key, value) :: entries =>
    match fieldName? key, jsonOf? value, jsonFields? entries with
    | some name, some value, some entries => some ((name, value) :: entries)
    | _, _, _ => none
end

/-- The JSON value of documentation. -/
def Docs.json? : Docs → Option Json.Value
  | .unresolved reference => jsonOf? reference
  | .resolved categories =>
    some (.ofPairs (categories.map fun (kind, doclets) => (kind, .array doclets)))

/-- The value of documentation in templates. -/
def Docs.value : Docs → Template.Value
  | .unresolved reference => .ofYaml reference
  | .resolved categories =>
    .ofNames (categories.map fun (kind, doclets) => (kind, .list (doclets.map .ofJson)))

namespace Record

/-- The doclets of a page: by adapter, kind and order of their sources. -/
def doclets (page : Record) : List Json.Value := page.docs.flatMap fun (_, docs) => docs.doclets

/-- A page as a JSON value. There is none if its front matter has keys that cannot be names. -/
def json? (page : Record) : Option Json.Value := do
  let entries ← jsonOf? (.mapping page.frontMatter.entries)
  let docs ← page.docs.mapM fun (name, docs) => docs.json?.map (name, ·)
  return .record [
    ("original_path", .string page.source.text),
    ("output_path", .string page.outputPath),
    ("meta", entries),
    ("body", .string page.body),
    ("title", .string page.title),
    ("group", .ofText? page.group),
    ("layout", .ofText? page.layout),
    ("docs", .ofPairs docs),
    ("order", (page.order.map .int).getD .null)]

/-- A page as templates see it. -/
def value (page : Record) : Template.Value :=
  let textOr (text : Option Text) : Template.Value := (text.map .plain).getD .none
  .record [
    ("original_path", .plain page.source.text),
    ("output_path", .plain page.outputPath),
    ("meta", .ofYaml (.mapping page.frontMatter.entries)),
    ("body", .plain page.body),
    ("title", .plain page.title),
    ("group", textOr page.group),
    ("layout", textOr page.layout),
    ("docs", .ofNames (page.docs.map fun (name, docs) => (name, docs.value))),
    ("order", (page.order.map .int).getD .none)]

end Record

end DocSite.Page
