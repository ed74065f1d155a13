/-
# DocSite.Doclet.Adapter -- readers of documentation

An adapter reads the sources that a page asks for, and sorts the doclets it finds there by kind.
Two adapters are part of the library, one for Sass and one for scripts.
-/
import DocSite.Doclet.Sass
import DocSite.Doclet.Script
import DocSite.Doclet.Source
import DocSite.Yaml.Described

set_option autoImplicit false

namespace DocSite.Doclet

open Text

/-- What keeps an adapter from reading documentation. -/
inductive AdapterError where
  | invalidReference (reason : Text)
  | pattern (pattern : Text)
  | unreadable (path : Path)
  | malformed (path : Path) (line : Nat) (reason : Text)
deriving DecidableEq, Repr

/-- The text of an error, as far as it does not depend on the system. -/
def AdapterError.message? : AdapterError → Option Text
  | invalidReference reason => some ("Invalid documentation reference: ".toList ++ reason)
  | malformed path line reason =>
    some ("Parse error in ".toList ++ path.text ++ " at line ".toList ++ NumberLayout.ofNat line ++
      [':', ' '] ++ reason)
  | pattern _ => none
  | unreadable _ => none

/-! ## References -/

/-- The pattern that an item of a list of patterns is. -/
def patternOf (item : Yaml.Value) : Except AdapterError Text :=
  match item.string? with
  | some text => .ok text
  | none => .error (.invalidReference ("expected a list of strings, found ".toList ++
      Yaml.described item))

/-- The patterns that a reference stands for: a text, or a list of texts. -/
def patterns (reference : Yaml.Value) : Except AdapterError (List Text) :=
  match reference with
  | .string text => .ok [text]
  | .sequence items => items.mapM patternOf
  | other => .error (.invalidReference ("expected a string or list of strings, found ".toList ++
      Yaml.described other))

/-! ## Kinds -/

/-- Doclets by their kinds, which are in order. -/
abbrev Categories := List (Text × List Json.Value)

/-- Adds a doclet to those of a kind. -/
def Categories.add (kind : Text) (doclet : Json.Value) : Categories → Categories
  | [] => [(kind, [doclet])]
  | (k, doclets) :: rest =>
    match Text.compare kind k with
    | .lt => (kind, [doclet]) :: (k, doclets) :: rest
    | .eq => (k, doclets ++ [doclet]) :: rest
    | .gt => (k, doclets) :: add kind doclet rest

/-- Sorts doclets by kind; those of a kind keep their order. -/
def categorizeBy (kindOf : Json.Value → Text) (start : Categories) (doclets : List Json.Value) :
    Categories :=
  doclets.foldl (fun categories doclet => categories.add (kindOf doclet) doclet) start

/-- The kind of a doclet of a Sass source. -/
def Sass.kindOf (doclet : Json.Value) : Text :=
  (((doclet.get? "context".toList).bind (Json.Value.get? "type".toList)).bind
    Json.Value.string?).getD "unknown".toList

/-- The doclets of Sass sources by kind. Three kinds are always there. -/
def Sass.categorize (doclets : List Json.Value) : Categories :=
  categorizeBy Sass.kindOf
    [("function".toList, []), ("mixin".toList, []), ("variable".toList, [])] doclets

/-- The kind of a doclet of a script. -/
def Script.kindOf (doclet : Json.Value) : Text :=
  ((doclet.get? "kind".toList).bind Json.Value.string?).getD "member".toList

/-- The doclets of scripts by kind. -/
def Script.categorize (doclets : List Json.Value) : Categories :=
  categorizeBy Script.kindOf [] doclets

/-! ## Adapters -/

/-- A reader of documentation. -/
structure Adapter where
  language : Text
  parse : FileTree → Yaml.Value → Except AdapterError (List Json.Value)
  categorize : List Json.Value → Categories

/-- Reads the doclets of the files that a reference names. `extract` reads one source; its second
argument is the path that doclets show. -/
def parseFiles (base : Path) (extensions : List Text)
    (extract : Text → Text → Except Script.Unterminated (List Json.Value)) (tree : FileTree)
    (reference : Yaml.Value) : Except AdapterError (List Json.Value) := do
  let wanted ← patterns reference
  match collect tree base extensions wanted with
  | .error pattern => .error (.pattern pattern)
  | .ok files =>
    let found ← files.mapM fun file =>
      match tree.readText? file with
      | none => .error (AdapterError.unreadable file)
      | some source =>
        match extract source (displayPath file base) with
        | .ok doclets => .ok doclets
        | .error e => .error (.malformed file e.line Script.Unterminated.message)
    .ok found.flatten

/-- The extensions of Sass sources. -/
def Sass.extensions : List Text := ["scss".toList, "sass".toList]

/-- The extensions of scripts. -/
def Script.extensions : List Text :=
  ["js".toList, "mjs".toList, "cjs".toList, "jsx".toList, "ts".toList, "tsx".toList]

/-- The adapter for Sass sources below a directory. -/
def Adapter.sass (base : Path) : Adapter where
  language := "sass".toList
  parse := parseFiles base Sass.extensions fun source file => .ok (Sass.doclets source file)
  categorize := Sass.categorize

/-- The adapter for scripts below a directory. -/
def Adapter.script (base : Path) : Adapter where
  language := "js".toList
  parse := parseFiles base Script.extensions Script.doclets
  categorize := Script.categorize

end DocSite.Doclet
