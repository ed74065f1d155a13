/-
# DocSite.Site.Tree -- the pages of a site

A tree holds pages in slots, in the order in which they came, and an index from output paths to
slots, so that every output path has one page. `list` puts the pages into the order of navigation,
and `groups` divides them.
-/
import DocSite.Page.Record

set_option autoImplicit false

namespace DocSite.Site

open Page (Record)

/-- How a page is meant to be put into a tree: with all others, or alone. -/
inductive UpsertMode where
  | full
  | incremental
deriving DecidableEq, Repr

/-- The slot that a page was put into, and whether it was new. -/
inductive Upserted where
  | appended (slot : Nat)
  | replaced (slot : Nat)
deriving DecidableEq, Repr

/-- Pages of one group. -/
structure Group where
  name : Option Text
  pages : List Record

/-- Pages in slots with an index of their output paths. -/
structure Tree where
  records : List Record
  index : List (Text × Nat)

namespace Tree

/-- The tree without pages. -/
def empty : Tree := ⟨[], []⟩

/-- Takes all pages out. -/
def clear (_tree : Tree) : Tree := ⟨[], []⟩

/-- The number of pages. -/
def size (tree : Tree) : Nat := tree.records.length

/-- Whether there are no pages. -/
def isEmpty (tree : Tree) : Bool := tree.records.isEmpty

/-- The slot of an output path. -/
def slot? (outputPath : Text) (tree : Tree) : Option Nat := tree.index.lookup outputPath

/-- The page of an output path. -/
def get? (outputPath : Text) (tree : Tree) : Option Record :=
  (tree.slot? outputPath).bind fun slot => tree.records[slot]?

/-- Whether there is a page of an output path. -/
def contains (outputPath : Text) (tree : Tree) : Bool := (tree.slot? outputPath).isSome

/-- Puts a page into the slot of its output path, or into a new one. Both modes do the same. -/
def upsert (page : Record) (_mode : UpsertMode) (tree : Tree) : Tree × Upserted :=
  match tree.slot? page.outputPath with
  | some slot => (⟨tree.records.set slot page, tree.index⟩, .replaced slot)
  | none =>
    let slot := tree.records.length
    (⟨tree.records ++ [page], tree.index ++ [(page.outputPath, slot)]⟩, .appended slot)

/-- Moves the slots of some output paths down by one. -/
def shift (outputPaths : List Text) (index : List (Text × Nat)) : List (Text × Nat) :=
  outputPaths.foldl
    (fun index path => index.map fun (p, slot) => if p = path then (p, slot - 1) else (p, slot))
    index

/-- Takes the page of an output path out; the pages behind it move down by one slot. -/
def remove (outputPath : Text) (tree : Tree) : Tree × Option Record :=
  match tree.slot? outputPath with
  | none => (tree, none)
  | some slot =>
    let records := tree.records.eraseIdx slot
    let index := tree.index.filter fun (p, _) => p != outputPath
    (⟨records, shift ((records.drop slot).map (·.outputPath)) index⟩, tree.records[slot]?)

/-- Whether one place in navigation comes before another one; pages without a place come last. -/
def comesBefore : Option Int → Option Int → Bool
  | some a, some b => a < b
  | some _, none => true
  | none, _ => false

/-- The pages in the order of navigation; pages of the same place keep the order of their
slots. -/
def list (tree : Tree) : List Record :=
  Text.sortBy (fun a b => comesBefore a.order b.order) tree.records

/-- Adds a page to its group. -/
def addToGroup (page : Record) : List Group → List Group
  | [] => [⟨page.group, [page]⟩]
  | group :: rest =>
    if group.name = page.group then { group with pages := group.pages ++ [page] } :: rest
    else group :: addToGroup page rest

/-- The pages in the order of navigation, divided into groups; a group stands where its first page
does. -/
def groups (tree : Tree) : List Group :=
  tree.list.foldl (fun groups page => addToGroup page groups) []

end Tree

end DocSite.Site
