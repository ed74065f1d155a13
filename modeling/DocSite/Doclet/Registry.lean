/-
# DocSite.Doclet.Registry -- adapters by name

A registry holds adapters under the names that pages use for them, in the order of the names.
-/
import DocSite.Doclet.Adapter
import DocSite.Text.Visible

set_option autoImplicit false

namespace DocSite.Doclet

open Text

/-- Adapters by name. -/
structure Registry where
  adapters : List (Text × Adapter)

/-- What an adapter found for a reference. -/
structure Resolution where
  adapter : Text
  doclets : Categories

namespace Registry

/-- The registry without adapters. -/
def empty : Registry := ⟨[]⟩

/-- Puts an adapter into a list in the order of names. -/
def insertAdapter (name : Text) (adapter : Adapter) :
    List (Text × Adapter) → List (Text × Adapter)
  | [] => [(name, adapter)]
  | (n, old) :: rest =>
    match Text.compare name n with
    | .lt => (name, adapter) :: (n, old) :: rest
    | .eq => (name, adapter) :: rest
    | .gt => (n, old) :: insertAdapter name adapter rest

/-- Registers an adapter under a name, in place of the one that is there. -/
def register (name : Text) (adapter : Adapter) (registry : Registry) : Registry :=
  ⟨insertAdapter name adapter registry.adapters⟩

/-- The adapter of a name. -/
def resolve? (name : Text) (registry : Registry) : Option Adapter :=
  List.lookup name registry.adapters

/-- The names of the adapters, in order. -/
def names (registry : Registry) : List Text := registry.adapters.map Prod.fst

/-- The adapters of the library, with references relative to a directory. -/
def bundled (base : Path) : Registry :=
  (empty.register "sass".toList (.sass base)).register "js".toList (.script base)

/-- Reads and sorts the documentation that a reference names; nothing if there is no adapter of
that name. -/
def run (tree : FileTree) (name : Text) (reference : Yaml.Value) (registry : Registry) :
    Except AdapterError (Option Resolution) :=
  match registry.resolve? name with
  | none => .ok none
  | some adapter =>
    (adapter.parse tree reference).map fun doclets => some ⟨name, adapter.categorize doclets⟩

/-- A registry as messages show it. -/
def described (registry : Registry) : Text :=
  "AdapterRegistry \x7b adapters: [".toList ++ join [',', ' '] (registry.names.map quoted) ++
    "] \x7d".toList

end Registry

end DocSite.Doclet
