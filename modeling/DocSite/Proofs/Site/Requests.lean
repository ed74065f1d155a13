/-
# DocSite.Proofs.Site.Requests -- the order in which adapters are done makes no difference

All documentation of a page is asked for at once. After some requests have been done, just these are
(`Request.run_state`), so all can be done in every order (`Request.results_eq_some`), and what is gathered is the
same for each (`PageReader.resolveDocsTogether_eq_some`). It is known from the front matter and from what has been
registered: each name has one entry (`Resolves`), or the first adapter that fails makes the page fail
(`FailsFirst`).
-/
import DocSite.Proofs.Doclet.Registered
import DocSite.Proofs.Mapping
import DocSite.Proofs.Page.Asked
import DocSite.Proofs.Site.Doclets
import DocSite.Site.Requests

set_option autoImplicit false

namespace DocSite.Site

open Page (Docs FrontMatter Record)
open Doclet (Adapter AdapterError Registry Resolution)

variable {reader : PageReader} {registry : Registry} {files : FileTree} {path : Path}
  {declared : List (Text × Yaml.Value)} {order finished : List Nat} {requests : List Request}
  {results : List (Except AdapterError (Option Resolution))} {registrations : List (Text × Adapter)} {name : Text}
  {reference : Yaml.Value}

namespace Request

/-! ## Requests that are done -/

/-- The requests for documentation of which those at some positions are done. -/
def state (registry : Registry) (files : FileTree) (declared : List (Text × Yaml.Value)) (finished : List Nat) :
    List Request :=
  declared.mapIdx fun index asked =>
    ⟨asked.1, asked.2, if index ∈ finished then some (registry.run files asked.1 asked.2) else none⟩

theorem state_nil : state registry files declared [] = ask declared := by
  refine List.ext_getElem? fun index => ?_
  rw [state, ask, List.getElem?_mapIdx, List.getElem?_map]
  simp only [List.not_mem_nil, if_false]

theorem getElem_state (index : Nat) : (state registry files declared finished)[index]? =
    declared[index]?.map fun asked =>
      ⟨asked.1, asked.2, if index ∈ finished then some (registry.run files asked.1 asked.2) else none⟩ :=
  List.getElem?_mapIdx

/-- A request is done just once, and no other request changes. -/
theorem finish_state (index : Nat) : finish? registry files (state registry files declared finished) index =
    if index < declared.length ∧ index ∉ finished then some (state registry files declared (index :: finished))
    else none := by
  rw [finish?, getElem_state]
  by_cases inside : index < declared.length
  · rw [List.getElem?_eq_getElem inside]
    by_cases done : index ∈ finished
    · simp [done]
    · simp only [done, if_false, Option.map_some, inside, not_false_eq_true, and_self, if_true]
      refine congrArg some (List.ext_getElem? fun other => ?_)
      rw [List.getElem?_set, getElem_state, getElem_state]
      by_cases same : index = other
      · subst same
        simp [state, inside]
      · simp [same, Ne.symm same]
  · simp [inside]

/-- Requests can be done in an order if each of them is there and is done once; just these are done then. -/
theorem run_state : run? registry files (state registry files declared finished) order = some requests ↔
    (order.Nodup ∧ ∀ index ∈ order, index < declared.length ∧ index ∉ finished) ∧
      requests = state registry files declared (order.reverse ++ finished) := by
  induction order generalizing finished with
  | nil => simp [run?, eq_comm]
  | cons index order ih =>
    have split : run? registry files (state registry files declared finished) (index :: order) =
        (finish? registry files (state registry files declared finished) index).bind fun requests =>
          run? registry files requests order := List.foldlM_cons
    rw [split, finish_state]
    by_cases ready : index < declared.length ∧ index ∉ finished
    · rw [if_pos ready, Option.bind_some, ih, List.reverse_cons, List.append_assoc, List.singleton_append]
      refine and_congr_left' ?_
      rw [List.nodup_cons, List.forall_mem_cons]
      constructor
      · rintro ⟨once, each⟩
        have apart : ∀ other ∈ order, other ≠ index ∧ other ∉ finished := fun other member =>
          not_or.mp fun inside => (each other member).2 (List.mem_cons.mpr inside)
        exact ⟨⟨fun member => (apart index member).1 rfl, once⟩, ready,
          fun other member => ⟨(each other member).1, (apart other member).2⟩⟩
      · rintro ⟨⟨new, once⟩, -, each⟩
        refine ⟨once, fun other member => ⟨(each other member).1, fun inside => ?_⟩⟩
        rcases List.mem_cons.mp inside with rfl | before
        · exact new member
        · exact (each other member).2 before
    · rw [if_neg ready]
      refine iff_of_false nofun fun ⟨⟨_, each⟩, _⟩ => ready (each index List.mem_cons_self)

/-- When all positions are among those that are done, all requests are done. -/
theorem state_all (all : ∀ index < declared.length, index ∈ finished) :
    state registry files declared finished =
      declared.map fun asked => ⟨asked.1, asked.2, some (registry.run files asked.1 asked.2)⟩ := by
  refine List.ext_getElem? fun index => ?_
  rw [getElem_state, List.getElem?_map]
  cases there : declared[index]? with
  | none => rfl
  | some asked =>
    obtain ⟨inside, -⟩ := List.getElem?_eq_some_iff.mp there
    rw [Option.map_some, Option.map_some, if_pos (all index inside)]

theorem results_state : (state registry files declared finished).mapM Request.result = some results ↔
    (∀ index < declared.length, index ∈ finished) ∧
      results = declared.map fun asked => registry.run files asked.1 asked.2 := by
  rw [Mapping.mapM_eq_some_iff_map]
  constructor
  · intro same
    have all : ∀ index < declared.length, index ∈ finished := by
      intro index inside
      by_contra absent
      have open? : (state registry files declared finished)[index]?.map Request.result = some none := by
        rw [getElem_state, List.getElem?_eq_getElem inside, Option.map_some, Option.map_some, if_neg absent]
      rw [← List.getElem?_map, same, List.getElem?_map, Option.map_eq_some_iff] at open?
      obtain ⟨_, -, closed⟩ := open?
      cases closed
    rw [state_all all, List.map_map] at same
    refine ⟨all, List.map_injective_iff.mpr (Option.some_injective _) ?_⟩
    rw [← same, List.map_map]
    rfl
  · rintro ⟨all, rfl⟩
    rw [state_all all, List.map_map, List.map_map]
    rfl

theorem perm_range_iff {count : Nat} : order.Perm (List.range count) ↔
    order.Nodup ∧ (∀ index ∈ order, index < count) ∧ ∀ index < count, index ∈ order := by
  constructor
  · intro perm
    exact ⟨perm.nodup_iff.mpr List.nodup_range, fun index member => List.mem_range.mp (perm.mem_iff.mp member),
      fun index inside => perm.mem_iff.mpr (List.mem_range.mpr inside)⟩
  · rintro ⟨once, each, all⟩
    refine (List.perm_ext_iff_of_nodup once List.nodup_range).mpr fun index => ?_
    exact ⟨fun member => List.mem_range.mpr (each index member), fun inside => all index (List.mem_range.mp inside)⟩

/-- The orders in which all requests are done are those of their positions. -/
theorem results_eq_some : results? registry files declared order = some results ↔
    order.Perm (List.range declared.length) ∧
      results = declared.map fun asked => registry.run files asked.1 asked.2 := by
  rw [results?, ← state_nil, Option.bind_eq_some_iff, perm_range_iff]
  constructor
  · rintro ⟨requests, done, gathered⟩
    obtain ⟨⟨once, each⟩, rfl⟩ := run_state.mp done
    obtain ⟨all, rfl⟩ := results_state.mp gathered
    simp only [List.append_nil, List.mem_reverse] at all
    exact ⟨⟨once, fun index member => (each index member).1, all⟩, rfl⟩
  · rintro ⟨⟨once, each, all⟩, rfl⟩
    refine ⟨_, run_state.mpr ⟨⟨once, fun index member => ⟨each index member, List.not_mem_nil⟩⟩, rfl⟩,
      results_state.mpr ⟨?_, rfl⟩⟩
    simpa only [List.append_nil, List.mem_reverse] using all

end Request

/-! ## What documentation comes to -/

/-- What a page shows for a reference: what the adapter that was registered last under the name has read and sorted,
or the reference as it was declared if there is none. -/
inductive Shows (registrations : List (Text × Adapter)) (files : FileTree) (name : Text) (reference : Yaml.Value) :
    Docs → Prop
  | resolved {adapter : Adapter} {doclets : List Json.Value} (last : Registry.Last registrations name adapter)
      (read : adapter.parse files reference = .ok doclets) :
      Shows registrations files name reference (.resolved (adapter.categorize doclets))
  | unresolved (unknown : Registry.Unknown registrations name) :
      Shows registrations files name reference (.unresolved reference)

/-- Whether the adapter that was registered last under a name cannot read a reference. -/
def Fails (registrations : List (Text × Adapter)) (files : FileTree) (name : Text) (reference : Yaml.Value)
    (error : AdapterError) : Prop :=
  ∃ adapter, Registry.Last registrations name adapter ∧ adapter.parse files reference = .error error

/-! ## What is gathered -/

namespace PageReader

theorem gather_eq (reader : PageReader) (files : FileTree) (path : Path) (docs : List (Text × Docs))
    (declared : List (Text × Yaml.Value)) :
    gather path docs (declared.zip (declared.map fun asked => reader.registry.run files asked.1 asked.2)) =
      (declared.mapM (reader.answer files path)).map fun pairs =>
        pairs.foldl (fun docs (name, entry) => Docs.insert name entry docs) docs := by
  induction declared generalizing docs with
  | nil => rfl
  | cons asked declared ih =>
    obtain ⟨name, reference⟩ := asked
    rw [List.map_cons, List.zip_cons_cons, List.mapM_cons, answer]
    cases reader.registry.run files name reference with
    | error e => rfl
    | ok found =>
      cases found <;>
      · rw [gather, ih]
        cases declared.mapM (reader.answer files path) <;> rfl

/-- Whatever the order in which the adapters are done, the outcome is the same. -/
theorem resolveDocsTogether_eq_some {outcome : Except PageError (List (Text × Docs))} :
    reader.resolveDocsTogether files path declared order = some outcome ↔
      order.Perm (List.range declared.length) ∧ outcome = reader.resolveDocs files path declared := by
  rw [resolveDocsTogether, Option.map_eq_some_iff]
  constructor
  · rintro ⟨results, done, rfl⟩
    obtain ⟨perm, rfl⟩ := Request.results_eq_some.mp done
    exact ⟨perm, (gather_eq reader files path [] declared).trans (resolveDocs_eq ..).symm⟩
  · rintro ⟨perm, rfl⟩
    exact ⟨_, Request.results_eq_some.mpr ⟨perm, rfl⟩,
      (gather_eq reader files path [] declared).trans (resolveDocs_eq ..).symm⟩

section Filled

variable (filled : reader.registry = .filled registrations)
include filled

theorem answer_unknown (unknown : Registry.Unknown registrations name) :
    reader.answer files path (name, reference) = .ok (name, .unresolved reference) := by
  rw [answer, filled, Registry.run_unknown unknown]

theorem answer_last {adapter : Adapter} (last : Registry.Last registrations name adapter) :
    reader.answer files path (name, reference) =
      match adapter.parse files reference with
      | .ok doclets => .ok (name, .resolved (adapter.categorize doclets))
      | .error e => .error (.adapter path name e) := by
  rw [answer, filled, Registry.run_last last]
  cases adapter.parse files reference <;> rfl

theorem answer_eq_ok {answer : Text × Docs} : reader.answer files path (name, reference) = .ok answer ↔
    answer.1 = name ∧ Shows registrations files name reference answer.2 := by
  constructor
  · intro done
    rcases Registry.unknown_or_last registrations name with unknown | ⟨adapter, last⟩
    · rw [answer_unknown filled unknown] at done
      cases done
      exact ⟨rfl, .unresolved unknown⟩
    · rw [answer_last filled last] at done
      split at done <;> cases done
      next doclets read => exact ⟨rfl, .resolved last read⟩
  · obtain ⟨own, docs⟩ := answer
    rintro ⟨rfl, shows⟩
    cases shows with
    | resolved last read => rw [answer_last filled last, read]
    | unresolved unknown => exact answer_unknown filled unknown

theorem answer_eq_error {e : PageError} : reader.answer files path (name, reference) = .error e ↔
    ∃ error, Fails registrations files name reference error ∧ e = .adapter path name error := by
  constructor
  · intro failed
    rcases Registry.unknown_or_last registrations name with unknown | ⟨adapter, last⟩
    · rw [answer_unknown filled unknown] at failed
      cases failed
    · rw [answer_last filled last] at failed
      split at failed <;> cases failed
      next error read => exact ⟨error, ⟨adapter, last, read⟩, rfl⟩
  · rintro ⟨error, ⟨adapter, last, read⟩, rfl⟩
    rw [answer_last filled last, read]

/-- Without failures, each name that is asked for has what it shows. -/
theorem mem_of_resolveDocs (distinct : (declared.map Prod.fst).Nodup) {docs : List (Text × Docs)}
    (done : reader.resolveDocs files path declared = .ok docs) :
    (docs.map Prod.fst).Perm (declared.map Prod.fst) ∧
      ∀ name shown, (name, shown) ∈ docs ↔
        ∃ reference, (name, reference) ∈ declared ∧ Shows registrations files name reference shown := by
  obtain ⟨pairs, answered, rfl⟩ := resolveDocs_ok_iff.mp done
  have names : pairs.map Prod.fst = declared.map Prod.fst := by
    refine (List.forall₂_eq_eq_eq ▸ ?_ : declared.map Prod.fst = pairs.map Prod.fst).symm
    rw [List.forall₂_map_left_iff, List.forall₂_map_right_iff]
    exact (Mapping.mapM_eq_ok.mp answered).imp fun asked answer same => ((answer_eq_ok filled).mp same).1.symm
  have perm := Docs.inOrder_perm (names ▸ distinct)
  refine ⟨names ▸ perm.map Prod.fst, fun name shown => ?_⟩
  rw [perm.mem_iff, Mapping.mem_mapM answered]
  constructor
  · rintro ⟨⟨own, reference⟩, member, same⟩
    obtain ⟨rfl, shows⟩ := (answer_eq_ok filled).mp same
    exact ⟨reference, member, shows⟩
  · rintro ⟨reference, member, shows⟩
    exact ⟨(name, reference), member, (answer_eq_ok filled).mpr ⟨rfl, shows⟩⟩

/-- There is an answer just if nothing fails. -/
theorem exists_answer (asked : Text × Yaml.Value) : (∃ answer, reader.answer files path asked = .ok answer) ↔
    ∀ error, ¬Fails registrations files asked.1 asked.2 error := by
  obtain ⟨name, reference⟩ := asked
  cases answered : reader.answer files path (name, reference) with
  | ok answer =>
    refine iff_of_true ⟨answer, rfl⟩ fun error fails => ?_
    cases answered.symm.trans ((answer_eq_error filled).mpr ⟨error, fails, rfl⟩)
  | error e =>
    obtain ⟨error, fails, -⟩ := (answer_eq_error filled).mp answered
    exact iff_of_false nofun fun none => none error fails

/-- What fails is the first reference that cannot be read. -/
theorem resolveDocs_eq_error {e : PageError} : reader.resolveDocs files path declared = .error e ↔
    ∃ name reference error, e = .adapter path name error ∧ Fails registrations files name reference error ∧
      ∃ before after, declared = before ++ (name, reference) :: after ∧
        ∀ earlier ∈ before, ∀ error, ¬Fails registrations files earlier.1 earlier.2 error := by
  rw [resolveDocs_error_iff, Mapping.mapM_eq_error]
  constructor
  · rintro ⟨before, ⟨name, reference⟩, after, split, failed, sound⟩
    obtain ⟨error, fails, rfl⟩ := (answer_eq_error filled).mp failed
    exact ⟨name, reference, error, rfl, fails, before, after, split,
      fun earlier member => (exists_answer filled earlier).mp (sound earlier member)⟩
  · rintro ⟨name, reference, error, rfl, fails, before, after, split, sound⟩
    exact ⟨before, (name, reference), after, split, (answer_eq_error filled).mpr ⟨error, fails, rfl⟩,
      fun earlier member => (exists_answer filled earlier).mpr (sound earlier member)⟩

theorem exists_error {error : AdapterError} (asked : (name, reference) ∈ declared)
    (fails : Fails registrations files name reference error) :
    ∃ e, reader.resolveDocs files path declared = .error e := by
  cases answered : declared.mapM (reader.answer files path) with
  | error e => exact ⟨e, resolveDocs_error_iff.mpr answered⟩
  | ok pairs =>
    have answer := Mapping.exists_of_mapM_ok answered asked
    exact absurd fails ((exists_answer filled _).mp answer error)

end Filled

end PageReader

/-- What documentation a page has if nothing fails: the names are in order, each once; they are those of the entries
of strings; and each of them shows what came of its reference. -/
structure Resolves (registrations : List (Text × Adapter)) (files : FileTree) (entries : Yaml.Entries)
    (docs : List (Text × Docs)) : Prop where
  ordered : Docs.Ordered docs
  names : ∀ name, name ∈ docs.map Prod.fst ↔ ∃ reference, (Yaml.Value.string name, reference) ∈ entries
  shown : ∀ name reference, (Yaml.Value.string name, reference) ∈ entries → ∀ shown,
    (name, shown) ∈ docs ↔ Shows registrations files name reference shown

/-- Whether an error is that of the first reference, in the order of the entries, that cannot be read. -/
def FailsFirst (registrations : List (Text × Adapter)) (files : FileTree) (path : Path) (entries : Yaml.Entries)
    (e : PageError) : Prop :=
  ∃ name reference error, e = .adapter path name error ∧
    Fails registrations files name reference error ∧
    ∃ before after, entries = before ++ (Yaml.Value.string name, reference) :: after ∧
      ∀ name reference, (Yaml.Value.string name, reference) ∈ before →
        ∀ error, ¬Fails registrations files name reference error

section Asked

variable {frontMatter : FrontMatter} (filled : reader.registry = .filled registrations)
  (untagged : frontMatter.Untagged)
include filled untagged

theorem resolves_of_ok (wellformed : frontMatter.Wellformed) {docs : List (Text × Docs)}
    (done : reader.resolveDocs files path frontMatter.docs = .ok docs) :
    Resolves registrations files frontMatter.docsEntries docs := by
  have distinct := FrontMatter.nodup_docs wellformed untagged
  obtain ⟨names, each⟩ := PageReader.mem_of_resolveDocs filled distinct done
  refine ⟨ordered_of_resolveDocs done, fun name => ?_, fun name reference asked shown => ?_⟩
  · rw [names.mem_iff, List.mem_map]
    constructor
    · rintro ⟨⟨own, reference⟩, member, rfl⟩
      exact ⟨reference, (FrontMatter.mem_docs untagged).mp member⟩
    · rintro ⟨reference, member⟩
      exact ⟨(name, reference), (FrontMatter.mem_docs untagged).mpr member, rfl⟩
  · have own := (FrontMatter.mem_docs untagged).mpr asked
    refine (each name shown).trans ⟨?_, fun shows => ⟨reference, own, shows⟩⟩
    rintro ⟨reference', member, shows⟩
    have found := (Association.lookup_eq_some distinct).mpr own
    cases found.symm.trans ((Association.lookup_eq_some distinct).mpr member)
    exact shows

theorem resolveDocs_eq_error_iff {e : PageError} :
    reader.resolveDocs files path frontMatter.docs = .error e ↔
      FailsFirst registrations files path frontMatter.docsEntries e := by
  rw [PageReader.resolveDocs_eq_error filled]
  refine exists_congr fun name => exists_congr fun reference => exists_congr fun error => ?_
  exact and_congr_right fun _ => and_congr_right fun _ =>
    FrontMatter.exists_first untagged fun name reference => ∀ error, ¬Fails registrations files name reference error

theorem exists_error_iff : (∃ e, reader.resolveDocs files path frontMatter.docs = .error e) ↔
    ∃ name reference error, (Yaml.Value.string name, reference) ∈ frontMatter.docsEntries ∧
      Fails registrations files name reference error := by
  constructor
  · rintro ⟨e, failed⟩
    obtain ⟨name, reference, error, -, fails, before, after, split, -⟩ :=
      (resolveDocs_eq_error_iff filled untagged).mp failed
    exact ⟨name, reference, error, by simp [split], fails⟩
  · rintro ⟨name, reference, error, member, fails⟩
    exact PageReader.exists_error filled ((FrontMatter.mem_docs untagged).mpr member) fails

end Asked

/-- A page cannot be rendered, or it is what its documentation lets it be. -/
theorem page_of_extract {text source body : Text} {kept : Kept} {frontMatter : FrontMatter}
    (whole : source = (Page.unwrapComment? (.ofPath path) text).getD text)
    (extracted : FrontMatter.extract source = .ok (frontMatter, body)) :
    (∃ reason, (reader.readText files kept path text).page = .error (.unrendered path reason)) ∨
      (∃ e, reader.resolveDocs files path frontMatter.docs = .error e ∧
        (reader.readText files kept path text).page = .error e) ∨
      ∃ page, reader.resolveDocs files path frontMatter.docs = .ok page.docs ∧
        (reader.readText files kept path text).page = .ok (some page) := by
  subst whole
  have makes := reader.makes_readText files kept path text
  generalize reader.readText files kept path text = reading at makes
  cases makes with
  | unextracted failed => cases extracted.symm.trans failed
  | unrendered => exact .inl ⟨_, rfl⟩
  | undocumented taken _ asked =>
    cases extracted.symm.trans taken
    exact .inr (.inl ⟨_, asked, rfl⟩)
  | page taken _ asked =>
    cases extracted.symm.trans taken
    exact .inr (.inr ⟨_, asked, rfl⟩)

/-- The outcome of all requests of a page does not depend on the order in which the adapters are done. Either each
name that is asked for has one entry, which shows what came of its reference; or some adapter cannot read its
reference, and the error names the first of them. A page that is read has the documentation that its requests come
to, and there is none if they fail. -/
theorem docs_in_any_order (filled : reader.registry = .filled registrations) (files : FileTree) (path : Path) :
    (∀ frontMatter : FrontMatter, frontMatter.Wellformed → frontMatter.Untagged →
      (∀ order outcome, reader.resolveDocsTogether files path frontMatter.docs order = some outcome ↔
        order.Perm (List.range frontMatter.docs.length) ∧
          outcome = reader.resolveDocs files path frontMatter.docs) ∧
      (∀ docs, reader.resolveDocs files path frontMatter.docs = .ok docs →
        Resolves registrations files frontMatter.docsEntries docs) ∧
      (∀ e, reader.resolveDocs files path frontMatter.docs = .error e ↔
        FailsFirst registrations files path frontMatter.docsEntries e) ∧
      ((∃ e, reader.resolveDocs files path frontMatter.docs = .error e) ↔
        ∃ name reference error, (Yaml.Value.string name, reference) ∈ frontMatter.docsEntries ∧
          Fails registrations files name reference error)) ∧
    ∀ kept text frontMatter body,
      FrontMatter.extract ((Page.unwrapComment? (.ofPath path) text).getD text) = .ok (frontMatter, body) →
      frontMatter.Wellformed ∧
      ((∃ reason, (reader.readText files kept path text).page = .error (.unrendered path reason)) ∨
        (∃ e, reader.resolveDocs files path frontMatter.docs = .error e ∧
          (reader.readText files kept path text).page = .error e) ∨
        ∃ page, reader.resolveDocs files path frontMatter.docs = .ok page.docs ∧
          (reader.readText files kept path text).page = .ok (some page)) := by
  constructor
  · intro frontMatter wellformed untagged
    exact ⟨fun order outcome => PageReader.resolveDocsTogether_eq_some,
      fun docs => resolves_of_ok filled untagged wellformed, fun e => resolveDocs_eq_error_iff filled untagged,
      exists_error_iff filled untagged⟩
  · intro kept text frontMatter body extracted
    exact ⟨FrontMatter.wellformed_extract extracted, page_of_extract rfl extracted⟩

/-- An adapter that has one doclet for a text, and no other reference can be read by. -/
def echo (language : String) : Adapter where
  language := language.toList
  parse := fun _ reference =>
    match reference.string? with
    | some text => .ok [.string text]
    | none => .error (.invalidReference language.toList)
  categorize := fun doclets => [(language.toList, doclets)]

/-- Two adapters of one name, and another one between them. -/
def echoes : List (Text × Adapter) :=
  [("sass".toList, echo "old"), ("js".toList, echo "script"), ("sass".toList, echo "new")]

def echoSite : Site := .create .standard (.filled echoes) Layouts.builtin.engine .standard

/-- Front matter that asks two adapters and a third one that is not there. -/
def asking (sass script : Yaml.Value) : FrontMatter :=
  ⟨[(.string "docs".toList, .mapping [(.string "sass".toList, sass), (.string "other".toList, .sequence []),
    (.int 1, .null), (.string "js".toList, script)])]⟩

theorem wellformed_asking {sass script : Yaml.Value} (first : sass.Wellformed) (last : script.Wellformed) :
    (asking sass script).Wellformed := by
  refine .mapping (List.pairwise_singleton ..) (List.forall_mem_singleton.mpr (.string _))
    (List.forall_mem_singleton.mpr (.mapping ?_ ?_ ?_))
  · simp [Yaml.Entries.Distinct, Yaml.Value.same]
  · simp only [List.forall_mem_cons]
    exact ⟨.string _, .string _, .int 1, .string _, List.forall_mem_nil _⟩
  · simp only [List.forall_mem_cons]
    exact ⟨first, .sequence (List.forall_mem_nil _), .null, last, List.forall_mem_nil _⟩

theorem untagged_asking (sass script : Yaml.Value) : (asking sass script).Untagged := by
  have entries : (asking sass script).docsEntries = [(.string "sass".toList, sass),
    (.string "other".toList, .sequence []), (.int 1, .null), (.string "js".toList, script)] := rfl
  rw [FrontMatter.Untagged, entries]
  simp

/-- A page that asks for documentation. -/
def echoText : Text := "---\ndocs: \x7bsass: a\x7d\n---\nb\n".toList

/-- The adapter that was registered last is the one that is asked, and of two failures the one that was declared
first is reported, also if its adapter is done last. -/
theorem echoes_in_any_order :
    echoSite.reader.registry = .filled echoes ∧
      (asking (.string ['a']) (.string ['b'])).Wellformed ∧ (asking (.string ['a']) (.string ['b'])).Untagged ∧
      echoSite.reader.resolveDocsTogether (.empty []) ⟨['p']⟩ (asking (.string ['a']) (.string ['b'])).docs
          [2, 0, 1] =
        some (.ok [("js".toList, .resolved [("script".toList, [.string ['b']])]),
          ("other".toList, .unresolved (.sequence [])),
          ("sass".toList, .resolved [("new".toList, [.string ['a']])])]) ∧
      (asking .null .null).Wellformed ∧ (asking .null .null).Untagged ∧
      echoSite.reader.resolveDocsTogether (.empty []) ⟨['p']⟩ (asking .null .null).docs [2, 1, 0] =
        some (.error (.adapter ⟨['p']⟩ "sass".toList (.invalidReference "new".toList))) ∧
      FailsFirst echoes (.empty []) ⟨['p']⟩ (asking .null .null).docsEntries
        (.adapter ⟨['p']⟩ "sass".toList (.invalidReference "new".toList)) ∧
      ∃ frontMatter body,
        FrontMatter.extract ((Page.unwrapComment? (.ofPath ⟨['p']⟩) echoText).getD echoText) =
          .ok (frontMatter, body) ∧ frontMatter.Wellformed := by
  have filled : echoSite.reader.registry = .filled echoes := rfl
  have strings := wellformed_asking (.string ['a']) (.string ['b'])
  have nulls := wellformed_asking .null .null
  obtain ⟨asked, read⟩ := docs_in_any_order filled (.empty []) ⟨['p']⟩
  obtain ⟨together, -⟩ := asked _ strings (untagged_asking _ _)
  obtain ⟨together', -, fails, -⟩ := asked _ nulls (untagged_asking _ _)
  have failed : echoSite.reader.resolveDocs (.empty []) ⟨['p']⟩ (asking .null .null).docs =
      .error (.adapter ⟨['p']⟩ "sass".toList (.invalidReference "new".toList)) := rfl
  have extracts : (FrontMatter.extract ((Page.unwrapComment? (.ofPath ⟨['p']⟩) echoText).getD echoText)).isOk =
      true := by decide +kernel
  refine ⟨filled, strings, untagged_asking _ _, (together _ _).mpr ⟨by decide, rfl⟩, nulls, untagged_asking _ _,
    (together' _ _).mpr ⟨by decide, failed.symm⟩, (fails _).mp failed, ?_⟩
  cases extracted : FrontMatter.extract ((Page.unwrapComment? (.ofPath ⟨['p']⟩) echoText).getD echoText) with
  | error e =>
    rw [extracted] at extracts
    cases extracts
  | ok result => exact ⟨result.1, result.2, rfl, (read echoSite.kept _ _ _ extracted).1⟩

end DocSite.Site
