/-
# DocSite.Proofs.Site.Search -- the index and the items that pages document

For the documentation that the adapters of the library have read for a page, the index has one name per
doclet, in the order in which the page has them, unless a comment hides the name of its item
(`Reachable.search_names`). Only a Sass source can hide one, by an annotation `name`, and an item that is
hidden so is missing from the index (`hidden_item_is_not_found`).
-/
import DocSite.Proofs.Doclet.Naming
import DocSite.Proofs.Page.Docs
import DocSite.Proofs.Site.Building

set_option autoImplicit false

namespace DocSite.Site

open Text
open Page (Record Docs)
open Doclet (Adapter Comment Language Registry)

variable {site : Site} {files : FileTree} {path : Path} {kept : Kept} {page : Record}

/-! ## Pages and what was read for them -/

theorem Tree.mem_of_mem_fill {pages : List Record} (member : page ∈ (fill pages).records) :
    page ∈ pages := by
  have found := (indexed_fill pages).get_eq_some.mpr ⟨member, rfl⟩
  rw [get_fill] at found
  exact List.mem_reverse.mp (List.mem_of_find?_eq_some found)

/-- Whether all pages of a site were read by its reader. -/
def AllRead (site : Site) : Prop :=
  ∀ page ∈ site.pages.records,
    ∃ files kept path, (site.reader.read files kept path).page = .ok (some page)

theorem allRead_build (files : FileTree) (paths : List Path) (site : Site) :
    (site.build files paths).1.AllRead := by
  intro page member
  rw [pages_build] at member
  obtain ⟨result, inside, same⟩ := List.mem_filterMap.mp (Tree.mem_of_mem_fill member)
  obtain ⟨path, -, kept, rfl⟩ := mem_readAll inside
  refine ⟨files, kept, path, ?_⟩
  cases read : (site.reader.read files kept path).page with
  | error e =>
    rw [read] at same
    cases same
  | ok found =>
    rw [read, pageOf?] at same
    exact read.trans (congrArg _ same)

theorem AllRead.parse (read : site.AllRead) (indexed : site.pages.Indexed) (files : FileTree) (path : Path)
    (mode : ParseMode) : (site.parse files path mode).1.AllRead := by
  rcases parse_cases files path mode site with same | ⟨other, upsert, now, same⟩
  · rw [same]
    exact read
  · rw [same]
    intro page member
    rcases (indexed.mem_upsert upsert).mp member with rfl | ⟨before, -⟩
    · exact ⟨files, site.kept, path, now⟩
    · exact read page before

/-- The pages of a site that can be reached were read by the reader of the site. -/
theorem Reachable.allRead (reachable : site.Reachable) : site.AllRead := by
  induction reachable with
  | create => exact fun page member => by cases member
  | build files paths => exact allRead_build files paths _
  | parse files path mode reachable ih => exact ih.parse reachable.sourced.indexed files path mode
  | remove path reachable ih =>
    exact fun page member => ih page (reachable.sourced.indexed.mem_remove.mp member).1
  | renderPage files outputPath _ ih =>
    unfold Site.renderPage
    split <;> exact ih
  | renderAll files _ ih => exact ih

theorem registry_build (files : FileTree) (paths : List Path) (site : Site) :
    (site.build files paths).1.registry = site.registry := rfl

/-! ## Documentation that was read -/

namespace PageReader

/-- What a page shows under a name is the answer to documentation that it asks for under this name. -/
theorem answered_of_mem {reader : PageReader} {declared : List (Text × Yaml.Value)}
    {resolved : List (Text × Docs)} (done : reader.resolveDocs files path declared = .ok resolved)
    {name : Text} {docs : Docs} (member : (name, docs) ∈ resolved) :
    ∃ reference, (name, reference) ∈ declared ∧
      reader.answer files path (name, reference) = .ok (name, docs) := by
  obtain ⟨pairs, answers, rfl⟩ := resolveDocs_ok_iff.mp done
  have inside : (name, docs) ∈ pairs := (Docs.mem_foldl_insert member).resolve_right List.not_mem_nil
  obtain ⟨⟨own, reference⟩, asked, same⟩ := (Mapping.mem_mapM answers).mp inside
  have kept : own = name := by
    unfold answer at same
    split at same <;> cases same <;> rfl
  exact ⟨reference, kept ▸ asked, kept ▸ same⟩

end PageReader

/-- The documentation of a page that has an adapter is what the adapter has read and sorted. -/
theorem docs_of_resolveDocs {reader : PageReader} {declared : List (Text × Yaml.Value)}
    {resolved : List (Text × Docs)} (done : reader.resolveDocs files path declared = .ok resolved)
    {name : Text} {docs : Docs} (member : (name, docs) ∈ resolved) {adapter : Adapter}
    (registered : reader.registry.resolve? name = some adapter) :
    ∃ reference parsed, adapter.parse files reference = .ok parsed ∧
      docs = .resolved (adapter.categorize parsed) := by
  obtain ⟨reference, -, answered⟩ := PageReader.answered_of_mem done member
  unfold PageReader.answer at answered
  split at answered <;> cases answered
  next resolution found =>
    obtain ⟨parsed, read, whole⟩ := Registry.run_eq_ok registered found
    cases whole
    exact ⟨reference, parsed, read, rfl⟩
  next missing =>
    obtain ⟨parsed, -, whole⟩ := Registry.run_eq_ok registered missing
    cases whole

theorem exists_resolveDocs {reader : PageReader}
    (read : (reader.read files kept path).page = .ok (some page)) :
    ∃ declared, reader.resolveDocs files path declared = .ok page.docs := by
  obtain ⟨_, _, -, -, -, -, -, docs, -⟩ := exists_text_of_read read
  exact ⟨_, docs⟩

/-! ## Names in the index -/

/-- The index has the name of the item that a doclet documents, unless the comment hides it. -/
theorem symbolName_of_documents {language : Language} {comment : Comment} {name : Text} {doclet : Json.Value}
    (documents : language.Documents comment name doclet) :
    symbolName? doclet = if language.hides comment then none else some name := by
  cases documents with
  | @sass code item declares comment line file =>
    unfold symbolName?
    cases named : comment.first? "name".toList with
    | none =>
      rw [Doclet.Sass.name_of_unnamed named, Language.hides, named]
      exact (Language.Documents.sass declares comment line file).subject
    | some given =>
      have some : (comment.first? "name".toList).isSome = true := by rw [named]; rfl
      obtain ⟨items, list⟩ := Doclet.Sass.name_of_named some item line file
      rw [list, Language.hides, some]
      rfl
  | script named made =>
    obtain ⟨found, same, field⟩ := Doclet.Script.name_of_doclet made
    rw [named] at same
    cases same
    rw [symbolName?, field]
    rfl

/-- What the index makes of doclets of a language: each of them documents an item, has its name where the
language keeps it, and gives this name to the index unless its comment hides it. -/
structure Named (language : Language) (doclets : List Json.Value) (items : List (Comment × Text)) :
    Prop where
  documents : List.Forall₂ (fun doclet item => language.Documents item.1 item.2 doclet) doclets items
  subjects : doclets.map language.subject? = items.map fun (_, name) => some name
  symbols : doclets.map symbolName? = items.map fun (comment, name) =>
    if language.hides comment then none else some name

variable {language : Language} {doclets : List Json.Value} {items : List (Comment × Text)}

theorem exists_named
    (documented : ∀ doclet ∈ doclets, ∃ comment name, language.Documents comment name doclet) :
    ∃ items, Named language doclets items := by
  induction doclets with
  | nil => exact ⟨[], .nil, rfl, rfl⟩
  | cons doclet doclets ih =>
    obtain ⟨comment, name, documents⟩ := documented doclet (List.mem_cons_self ..)
    obtain ⟨items, others⟩ := ih fun other member => documented other (List.mem_cons_of_mem _ member)
    refine ⟨(comment, name) :: items, .cons documents others.documents, ?_, ?_⟩
    · rw [List.map_cons, documents.subject, others.subjects]
      rfl
    · rw [List.map_cons, symbolName_of_documents documents, others.symbols]
      rfl

/-- The names in the index are those of the items whose comments do not hide them. -/
theorem Named.filterMap_symbolName (named : Named language doclets items) :
    doclets.filterMap symbolName? =
      (items.filter fun (comment, _) => !language.hides comment).map Prod.snd := by
  have symbols := congrArg (List.filterMap id) named.symbols
  rw [List.filterMap_map, List.filterMap_map] at symbols
  rw [← List.filterMap_eq_map, List.filterMap_filter]
  refine symbols.trans (List.filterMap_congr fun item _ => ?_)
  cases hidden : language.hides item.1 <;> simp [hidden]

/-- The index has one name per doclet, in their order, just if no comment hides a name. -/
theorem Named.complete_iff (named : Named language doclets items) :
    (doclets.filterMap symbolName?).map some = doclets.map language.subject? ↔
      ∀ item ∈ items, language.hides item.1 = false := by
  rw [named.filterMap_symbolName, named.subjects, List.map_map]
  constructor
  · intro same
    have lengths := congrArg List.length same
    rw [List.length_map, List.length_map, List.length_filter_eq_length_iff] at lengths
    simpa using lengths
  · intro shown
    rw [List.filter_eq_self.mpr fun item member => by simp [shown item member]]
    rfl

/-! ## The index -/

/-- What an entry of the index has of its page: the names in the documentation of the page, in order, and
where an adapter of the library has read it, a name for each item that no comment hides. -/
structure SearchEntry.Lists (site : Site) (page : Record) (entry : SearchEntry) : Prop where
  path : entry.path = page.outputPath
  doclets : entry.doclets = page.docs.flatMap fun (_, docs) => docs.doclets.filterMap symbolName?
  resolved : ∀ name docs, (name, docs) ∈ page.docs → ∀ (language : Language) (base : Path),
    site.registry.resolve? name = some (language.adapter base) →
      ∃ files reference parsed items, (language.adapter base).parse files reference = .ok parsed ∧
        docs.doclets.Perm parsed ∧ Named language docs.doclets items ∧
        ((docs.doclets.filterMap symbolName?).map some = docs.doclets.map language.subject? ↔
          ∀ item ∈ items, language.hides item.1 = false)

theorem lists_entry (reachable : site.Reachable) (member : page ∈ site.pages.records) :
    SearchEntry.Lists site page
      ⟨page.title, page.outputPath, page.group, page.doclets.filterMap symbolName?⟩ where
  path := rfl
  doclets := List.filterMap_flatMap ..
  resolved := by
    intro name docs inside language base registered
    obtain ⟨files, kept, path, read⟩ := reachable.allRead page member
    obtain ⟨declared, resolved⟩ := exists_resolveDocs read
    obtain ⟨reference, parsed, done, rfl⟩ := docs_of_resolveDocs resolved inside registered
    have kinds : (language.kinds).flatMap Prod.snd = [] := by cases language <;> rfl
    have perm := Doclet.perm_categorizeBy language.kindOf language.kinds parsed
    rw [kinds, List.nil_append, ← language.categorize_adapter base] at perm
    have documented : ∀ doclet ∈ Docs.doclets (.resolved ((language.adapter base).categorize parsed)),
        ∃ comment name, language.Documents comment name doclet := by
      intro doclet inside
      rw [language.parse_adapter] at done
      obtain ⟨source, file, found, extracted, own⟩ := Doclet.mem_parseFiles done (perm.mem_iff.mp inside)
      exact Language.documents_of_extract extracted own
    obtain ⟨items, named⟩ := exists_named documented
    exact ⟨files, reference, parsed, items, done, perm, named, named.complete_iff⟩

/-- Each doclet of a source documents an item, whose name is in the index unless its comment hides it, and for
each page the index lists the names of what it documents. -/
theorem Reachable.search_names (reachable : site.Reachable) :
    (∀ (language : Language) (source file : Text) (doclets : List Json.Value),
      language.extract source file = .ok doclets → ∃ items, Named language doclets items) ∧
    List.Forall₂ (SearchEntry.Lists site) site.pages.list site.searchIndex := by
  constructor
  · intro language source file doclets extracted
    exact exists_named fun doclet member => Language.documents_of_extract extracted member
  · rw [searchIndex, List.forall₂_map_right_iff, List.forall₂_same]
    exact fun page member => lists_entry reachable ((sortBy_perm _).mem_iff.mp member)

/-- The files of a page that documents a script and a Sass source. -/
def paletteFiles : FileTree where
  entries := [
    (["docs".toList], .directory),
    (["docs".toList, "a.html".toList], .file (.text "---\ndocs:\n  js: a.js\n  sass: a.scss\n---\n".toList)),
    (["a.js".toList], .file (.text "/** One. */\nlet one = 1;\n".toList)),
    (["a.scss".toList], .file (.text
      "/// Two.\n$two: 2;\n/// @name hidden\n@mixin three;\n/// Four.\n%four\n".toList))]
  home := []

/-- The site with this page. -/
def palette : Site :=
  ((Site.create Settings.standard (.bundled ⟨[]⟩) (Layouts.engine ⟨[], none⟩) .standard).build
    paletteFiles [⟨"docs/a.html".toList⟩]).1

/-- One item of the page is hidden. The others are in the index, by adapter and kind. -/
theorem palette_is_listed :
    palette.Reachable ∧ palette.registry.resolve? "sass".toList = some (Language.sass.adapter ⟨[]⟩) ∧
      List.Forall₂ (SearchEntry.Lists palette) palette.pages.list palette.searchIndex ∧
      palette.searchIndex.map (·.doclets) = [["one".toList, "four".toList, "two".toList]] := by
  have reachable : palette.Reachable := .build _ _ (.create ..)
  refine ⟨reachable, ?_, reachable.search_names.2, by decide +kernel⟩
  rw [palette, registry_build]
  rfl

/-- A source with an annotation that hides the name of the item. -/
def hiddenSource : Text := "/// Text.\n/// @name foo\n$x: 1;\n".toList

theorem hidden_item_is_not_found :
    ¬∀ (language : Language) (source file : Text) (doclets : List Json.Value),
      language.extract source file = .ok doclets →
        ∀ doclet ∈ doclets, symbolName? doclet = language.subject? doclet := by
  intro always
  have same := List.map_congr_left (always .sass hiddenSource "x.scss".toList _ rfl)
  have subjects : (Doclet.Sass.doclets hiddenSource "x.scss".toList).map (Language.subject? .sass) =
      [some "x".toList] := by decide +kernel
  have symbols : (Doclet.Sass.doclets hiddenSource "x.scss".toList).map symbolName? = [none] := by
    decide +kernel
  rw [subjects, symbols] at same
  cases same

end DocSite.Site
