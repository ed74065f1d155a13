/-
# DocSite.Toml.Table -- tables that documents build up

The entries of a table may be spread over a document, and which of them may be added depends on how
the table came to be: by a header of its own, by the header of a table within it, or by a dotted
name. A table is defined once; only what a longer header implied can be defined later, and dotted
names reach only into tables that are not defined by a header.
-/
import DocSite.Toml.Value

set_option autoImplicit false

namespace DocSite.Toml

open Text

/-- How a table came to be. -/
inductive Origin where
  | header
  | implied
  | dotted
deriving DecidableEq, Repr

/-- What a name stands for while a document is read: a value, a table, or a list of tables each of
which has a header. -/
inductive Node where
  | value (value : Value)
  | table (origin : Origin) (nodes : List (Text × Node))
  | tables (elements : List (List (Text × Node)))

/-- The named nodes of a table. -/
abbrev Nodes := List (Text × Node)

/-- A path of names, and the value that is to be found there. -/
abbrev Assignment := List Text × Value

namespace Nodes

/-- The table with another node under a name that it has. -/
def replace (name : Text) (node : Node) (nodes : Nodes) : Nodes :=
  nodes.map fun (n, old) => if n = name then (n, node) else (n, old)

/-- Changes the table that a path leads to. Tables that are missing on the way come to be, and of a
list of tables the last one is entered. A dotted path enters no table that has a header. -/
def reach? (dotted : Bool) (change : Origin → Nodes → Option Nodes) :
    (path : List Text) → Origin → Nodes → Option Nodes
  | [], origin, nodes => change origin nodes
  | name :: path, _, nodes =>
    match nodes.lookup name with
    | none =>
      let origin : Origin := if dotted then .dotted else .implied
      (reach? dotted change path origin []).map fun inner => nodes ++ [(name, .table origin inner)]
    | some (.value _) => none
    | some (.table origin inner) =>
      if dotted && origin = .header then none
      else (reach? dotted change path origin inner).map fun inner =>
        replace name (.table origin inner) nodes
    | some (.tables elements) =>
      match elements.getLast? with
      | none => none
      | some last => (reach? dotted change path .header last).map fun inner =>
        replace name (.tables (elements.dropLast ++ [inner])) nodes

/-- Gives a name of a table its value. What a dotted name leads to must be a table that dotted names
made. -/
def assign? (assignment : Assignment) (nodes : Nodes) : Option Nodes :=
  let (path, value) := assignment
  match path.getLast? with
  | none => none
  | some name =>
    let way := path.dropLast
    reach? true
      (fun origin inner =>
        if !way.isEmpty && origin ≠ .dotted then none
        else if (inner.lookup name).isSome then none
        else some (inner ++ [(name, .value value)]))
      way .header nodes

/-- Gives names of a table their values, one after the other. -/
def assignAll? (assignments : List Assignment) (nodes : Nodes) : Option Nodes :=
  assignments.foldlM (fun nodes assignment => assign? assignment nodes) nodes

/-- Defines the table at a path. It comes last in the table around it, even if it was implied there
before. -/
def defineTable? (path : List Text) (assignments : List Assignment) (nodes : Nodes) :
    Option Nodes :=
  path.getLast?.bind fun name =>
    reach? false
      (fun _ parent =>
        match parent.lookup name with
        | none => (assignAll? assignments []).map fun inner =>
          parent ++ [(name, .table .header inner)]
        | some (.table .implied inner) => (assignAll? assignments inner).map fun inner =>
          parent.filter (·.1 ≠ name) ++ [(name, .table .header inner)]
        | some _ => none)
      path.dropLast .header nodes

/-- Adds a table to the list at a path. -/
def addTable? (path : List Text) (assignments : List Assignment) (nodes : Nodes) : Option Nodes :=
  path.getLast?.bind fun name =>
    reach? false
      (fun _ parent =>
        (assignAll? assignments []).bind fun inner =>
          match parent.lookup name with
          | none => some (parent ++ [(name, .tables [inner])])
          | some (.tables elements) => some (replace name (.tables (elements ++ [inner])) parent)
          | some _ => none)
      path.dropLast .header nodes

end Nodes

namespace Node

mutual
/-- The value of a node. -/
def toValue : Node → Value
  | .value v => v
  | .table _ nodes => .table (toEntries nodes)
  | .tables elements => .array (toTables elements)

/-- The entries of a table. -/
def toEntries : List (Text × Node) → Entries
  | [] => []
  | (name, node) :: rest => (name, node.toValue) :: toEntries rest

/-- The tables of a list. -/
def toTables : List (List (Text × Node)) → List Value
  | [] => []
  | nodes :: rest => .table (toEntries nodes) :: toTables rest
end

end Node

/-- The table that assignments alone make up. -/
def tableOf? (assignments : List Assignment) : Option Value :=
  (Nodes.assignAll? assignments []).map fun nodes => .table (Node.toEntries nodes)

end DocSite.Toml
