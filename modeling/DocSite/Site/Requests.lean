/-
# DocSite.Site.Requests -- documentation that is asked for all at once

A page asks for all its documentation at once, and the adapters are done in any order. When all of them are,
what they have read is gathered in the order in which the page declares it, up to the first failure. Which adapter
is done next is not the page's to say: it comes as a list of positions.
-/
import DocSite.Site.Reading

set_option autoImplicit false

namespace DocSite.Site

open Page (Docs)
open Doclet (AdapterError Registry Resolution)

/-- Documentation that a page asks for, and what came of it once that is done. -/
structure Request where
  name : Text
  reference : Yaml.Value
  result : Option (Except AdapterError (Option Resolution))

namespace Request

/-- Asks for all documentation that is declared. -/
def ask (declared : List (Text × Yaml.Value)) : List Request :=
  declared.map fun (name, reference) => ⟨name, reference, none⟩

/-- The request at a position is done, unless it has been before. -/
def finish? (registry : Registry) (files : FileTree) (requests : List Request) (index : Nat) :
    Option (List Request) :=
  match requests[index]? with
  | some ⟨name, reference, none⟩ =>
    some (requests.set index ⟨name, reference, some (registry.run files name reference)⟩)
  | _ => none

/-- Requests are done one after the other. -/
def run? (registry : Registry) (files : FileTree) (requests : List Request) (order : List Nat) :
    Option (List Request) :=
  order.foldlM (finish? registry files) requests

/-- What came of all documentation that is declared, once all of it is done. -/
def results? (registry : Registry) (files : FileTree) (declared : List (Text × Yaml.Value)) (order : List Nat) :
    Option (List (Except AdapterError (Option Resolution))) :=
  (run? registry files (ask declared) order).bind fun requests => requests.mapM result

end Request

namespace PageReader

/-- Gathers what came of requests, up to the first failure. -/
def gather (path : Path) (docs : List (Text × Docs)) :
    List ((Text × Yaml.Value) × Except AdapterError (Option Resolution)) →
      Except PageError (List (Text × Docs))
  | [] => .ok docs
  | ((name, _), .ok (some resolution)) :: rest =>
    gather path (Docs.insert name (.resolved resolution.doclets) docs) rest
  | ((name, reference), .ok none) :: rest =>
    gather path (Docs.insert name (.unresolved reference) docs) rest
  | ((name, _), .error e) :: _ => .error (.adapter path name e)

/-- The documentation that is asked for, with the adapters done in some order. It takes an order in which all of
them are done. -/
def resolveDocsTogether (reader : PageReader) (files : FileTree) (path : Path)
    (declared : List (Text × Yaml.Value)) (order : List Nat) :
    Option (Except PageError (List (Text × Docs))) :=
  (Request.results? reader.registry files declared order).map fun results =>
    gather path [] (declared.zip results)

end PageReader

end DocSite.Site
