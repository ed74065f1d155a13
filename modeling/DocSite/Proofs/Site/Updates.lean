/-
# DocSite.Proofs.Site.Updates -- changes of different pages

A change of a single page puts it in or takes it out (`Update`). What changes of different pages make of a
tree can be said at once: each page that was there before is exchanged or dropped where it stands, and the
pages that are new come after all others (`Indexed.records_updated`). Only these are in the order of the
changes, so that another order of the changes makes another order of them and no other difference
(`Indexed.sameButNew`, `Indexed.updated_eq`).
-/
import DocSite.Proofs.Site.Building

set_option autoImplicit false

namespace DocSite.Site

open Page (Record)

/-! ## Trees and changes -/

/-- The tree that operations make of the empty one. -/
def treeOf (operations : List Operation) : Tree := (Operation.run Operation.onTree .empty operations).1

/-- A change of a single page: it is put in, or taken out. -/
inductive Update where
  | upsert (page : Record) (mode : UpsertMode)
  | remove (path : Text)

namespace Update

/-- The output path of the page that is changed. -/
def path : Update → Text
  | upsert page _ => page.outputPath
  | remove path => path

/-- The page that there is afterwards. -/
def page? : Update → Option Record
  | upsert page _ => some page
  | remove _ => none

/-- A change as an operation. -/
def operation : Update → Operation
  | upsert page mode => .upsert page mode
  | remove path => .remove path

variable {update : Update} {page : Record}

theorem path_of_page (stored : update.page? = some page) : page.outputPath = update.path := by
  cases update with
  | upsert page' mode =>
    cases stored
    rfl
  | remove path => cases stored

end Update

/-- A tree after some changes, one after the other. -/
def Tree.updated (updates : List Update) (tree : Tree) : Tree :=
  (Operation.run Operation.onTree tree (updates.map Update.operation)).1

variable {tree : Tree} {path : Text} {page : Record} {update : Update} {updates reordered : List Update}

theorem run_append {State : Type} (act : Operation → State → State × Answer) (state : State)
    (first second : List Operation) :
    (Operation.run act state (first ++ second)).1 =
      (Operation.run act (Operation.run act state first).1 second).1 := by
  induction first generalizing state with
  | nil => rfl
  | cons operation first ih => exact ih (act operation state).1

theorem treeOf_append (operations more : List Operation) :
    treeOf (operations ++ more) = (Operation.run Operation.onTree (treeOf operations) more).1 :=
  run_append _ _ operations more

theorem indexed_treeOf (operations : List Operation) : (treeOf operations).Indexed :=
  (Operation.run_of_indexed operations Tree.indexed_empty).1

namespace Tree

@[simp]
theorem updated_cons :
    tree.updated (update :: updates) = (update.operation.onTree tree).1.updated updates := rfl

theorem updated_append (tree : Tree) (first second : List Update) :
    tree.updated (first ++ second) = (tree.updated first).updated second := by
  rw [updated, List.map_append, run_append]
  rfl

end Tree

/-- Filling a tree is putting its pages into the empty one. -/
theorem treeOf_fill (pages : List Record) :
    treeOf (.clear :: pages.map fun page => .upsert page .full) = Tree.fill pages := by
  induction pages using List.reverseRecOn with
  | nil => rfl
  | append_singleton pages page ih =>
    rw [List.map_append, List.map_singleton, ← List.cons_append, treeOf_append, ih, Tree.fill_snoc]
    rfl

/-- The tree of every site that can be reached is made by operations. -/
theorem Reachable.exists_operations {site : Site} (reachable : site.Reachable) :
    ∃ operations, site.pages = treeOf operations := by
  induction reachable with
  | create => exact ⟨[], rfl⟩
  | @build site files paths _ _ =>
    rw [pages_build, ← treeOf_fill]
    exact ⟨_, rfl⟩
  | @parse site files path mode _ ih =>
    obtain ⟨operations, before⟩ := ih
    rcases parse_cases files path mode site with same | ⟨page, upsert, -, same⟩
    · exact ⟨operations, by rw [same, before]⟩
    · refine ⟨operations ++ [.upsert page upsert], ?_⟩
      rw [same, treeOf_append, ← before]
      rfl
  | @remove site path _ ih =>
    obtain ⟨operations, before⟩ := ih
    refine ⟨operations ++ [.remove (site.outputPath path)], ?_⟩
    rw [treeOf_append, ← before]
    rfl
  | renderPage files outputPath _ ih =>
    unfold Site.renderPage
    split <;> exact ih
  | renderAll files _ ih => exact ih

namespace Tree

/-! ## One change -/

/-- The output paths of the pages of a tree, in the order of their slots. -/
def outputPaths (tree : Tree) : List Text := tree.records.map (·.outputPath)

/-- What changes of different pages make of a page that is there. -/
def edited (updates : List Update) (page : Record) : Option Record :=
  match updates.find? fun update => update.path = page.outputPath with
  | some update => update.page?
  | none => some page

/-- The pages that changes of different pages put in behind all others. -/
def added (updates : List Update) (tree : Tree) : List Record :=
  (updates.filterMap Update.page?).filter fun page => page.outputPath ∉ tree.outputPaths

theorem mem_outputPaths : path ∈ tree.outputPaths ↔ ∃ page ∈ tree.records, page.outputPath = path :=
  List.mem_map

theorem Indexed.mem_outputPaths_iff (indexed : tree.Indexed) :
    path ∈ tree.outputPaths ↔ tree.contains path = true := by
  rw [mem_outputPaths, indexed.contains_eq_any]
  simp

theorem Indexed.contains_eq_get (indexed : tree.Indexed) : tree.contains path = (tree.get? path).isSome := by
  rw [indexed.contains_eq_any, indexed.get_eq_find, Bool.eq_iff_iff, List.find?_isSome, List.any_eq_true]

/-- Where no two pages have one output path, setting a page in its slot is exchanging it there. -/
theorem set_eq_map {pages : List Record} {slot : Nat} {old : Record}
    (distinct : (pages.map (·.outputPath)).Nodup) (taken : pages[slot]? = some old)
    (same : old.outputPath = page.outputPath) :
    pages.set slot page =
      pages.map fun other => if other.outputPath = page.outputPath then page else other := by
  induction pages generalizing slot with
  | nil => rfl
  | cons first rest ih =>
    obtain ⟨new, later⟩ := List.nodup_cons.mp distinct
    cases slot with
    | zero =>
      obtain rfl : first = old := by simpa using taken
      have others : ∀ other ∈ rest, (if other.outputPath = page.outputPath then page else other) = other := by
        intro other member
        have differ : other.outputPath ≠ page.outputPath := by
          intro equal
          exact new (List.mem_map.mpr ⟨other, member, equal.trans same.symm⟩)
        rw [if_neg differ]
      rw [List.set_cons_zero, List.map_cons, if_pos same, List.map_congr_left others, List.map_id']
    | succ slot =>
      have inside : rest[slot]? = some old := by simpa using taken
      have differ : first.outputPath ≠ page.outputPath := by
        intro equal
        exact new (List.mem_map.mpr ⟨old, List.mem_of_getElem? inside, same.trans equal.symm⟩)
      rw [List.set_cons_succ, List.map_cons, if_neg differ, ih later inside]

theorem Indexed.records_upsert (indexed : tree.Indexed) (page : Record) (mode : UpsertMode) :
    (tree.upsert page mode).1.records =
      (tree.records.map fun other => if other.outputPath = page.outputPath then page else other) ++
        [page].filter fun page => page.outputPath ∉ tree.outputPaths := by
  have mentioned : page.outputPath ∈ tree.outputPaths ↔ tree.contains page.outputPath = true :=
    indexed.mem_outputPaths_iff
  rw [contains] at mentioned
  unfold upsert
  split
  next slot found =>
    obtain ⟨old, taken, same⟩ := indexed.page_of_slot found
    have there : page.outputPath ∈ tree.outputPaths := by simp [mentioned, found]
    show tree.records.set slot page = _
    rw [set_eq_map indexed.distinct taken same]
    simp [there]
  next free =>
    have absent : page.outputPath ∉ tree.outputPaths := by simp [mentioned, free]
    have others : ∀ other ∈ tree.records,
        (if other.outputPath = page.outputPath then page else other) = other := by
      intro other member
      have differ : other.outputPath ≠ page.outputPath := by
        intro equal
        exact absent (mem_outputPaths.mpr ⟨other, member, equal⟩)
      rw [if_neg differ]
    show tree.records ++ [page] = _
    rw [List.map_congr_left others, List.map_id']
    simp [absent]

/-- A change exchanges or drops the page of its output path, and puts in a page behind all others only
where there was none. -/
theorem Indexed.records_update (indexed : tree.Indexed) (update : Update) :
    (update.operation.onTree tree).1.records =
      tree.records.filterMap (edited [update]) ++ added [update] tree := by
  cases update with
  | upsert page mode =>
    have exchanged : edited [.upsert page mode] =
        some ∘ fun other : Record => if other.outputPath = page.outputPath then page else other := by
      funext other
      by_cases here : page.outputPath = other.outputPath
      · simp [edited, Update.path, Update.page?, here]
      · simp [edited, Update.path, here, Ne.symm here]
    rw [exchanged, List.filterMap_eq_map]
    exact indexed.records_upsert page mode
  | remove gone =>
    have dropped : edited [.remove gone] = Option.guard fun page : Record => page.outputPath ≠ gone := by
      funext page
      by_cases here : gone = page.outputPath
      · simp [edited, Update.path, Update.page?, Option.guard, here]
      · simp [edited, Update.path, Option.guard, here, Ne.symm here]
    have nothing : added [.remove gone] tree = [] := rfl
    rw [dropped, List.filterMap_eq_filter, nothing, List.append_nil]
    exact indexed.records_without gone

theorem Indexed.get_update (indexed : tree.Indexed) (update : Update) (path : Text) :
    (update.operation.onTree tree).1.get? path = if path = update.path then update.page? else tree.get? path := by
  cases update with
  | upsert page mode => exact indexed.get_upsert page mode
  | remove gone =>
    show (tree.remove gone).1.get? path = if path = gone then none else tree.get? path
    ext page
    rw [(indexed_remove indexed gone).get_eq_some, indexed.mem_remove]
    by_cases here : path = gone
    · subst here
      simp
    · rw [if_neg here, indexed.get_eq_some]
      constructor
      · rintro ⟨⟨member, -⟩, same⟩
        exact ⟨member, same⟩
      · rintro ⟨member, rfl⟩
        exact ⟨⟨member, here⟩, rfl⟩

theorem Indexed.outputPaths_update (indexed : tree.Indexed) (other : path ≠ update.path) :
    path ∈ (update.operation.onTree tree).1.outputPaths ↔ path ∈ tree.outputPaths := by
  have indexed' := Operation.indexed_onTree indexed update.operation
  rw [indexed'.mem_outputPaths_iff, indexed.mem_outputPaths_iff, indexed'.contains_eq_get,
    indexed.contains_eq_get, indexed.get_update, if_neg other]

/-! ## Changes of different pages -/

theorem indexed_updated (indexed : tree.Indexed) (updates : List Update) : (tree.updated updates).Indexed :=
  (Operation.run_of_indexed _ indexed).1

/-- A change is the only one of its page. -/
theorem find_of_apart (apart : (updates.map Update.path).Nodup) :
    (updates.find? fun update => update.path = path) = some update ↔ update ∈ updates ∧ update.path = path := by
  constructor
  · intro found
    exact ⟨List.mem_of_find?_eq_some found, by simpa using List.find?_some found⟩
  · rintro ⟨member, rfl⟩
    cases found : updates.find? fun other => other.path = update.path with
    | none => simpa using List.find?_eq_none.mp found update member
    | some other =>
      have same : other.path = update.path := by simpa using List.find?_some found
      rw [List.inj_on_of_nodup_map apart (List.mem_of_find?_eq_some found) member same]

theorem find_of_perm (apart : (updates.map Update.path).Nodup) (order : updates.Perm reordered) (path : Text) :
    (updates.find? fun update => update.path = path) = reordered.find? fun update => update.path = path := by
  have apart' : (reordered.map Update.path).Nodup := (order.map Update.path).nodup_iff.mp apart
  ext update
  rw [find_of_apart apart, find_of_apart apart', order.mem_iff]

theorem edited_of_perm (apart : (updates.map Update.path).Nodup) (order : updates.Perm reordered) :
    edited reordered = edited updates := by
  funext page
  rw [edited, edited, find_of_perm apart order]

theorem find_of_new (new : path ∉ updates.map Update.path) :
    (updates.find? fun update => update.path = path) = none := by
  rw [List.find?_eq_none]
  intro update member same
  exact new (List.mem_map.mpr ⟨update, member, by simpa using same⟩)

/-- The page of a change that has been made is what it left, and all other pages are as before. -/
theorem Indexed.get_updated (indexed : tree.Indexed) (apart : (updates.map Update.path).Nodup) (path : Text) :
    (tree.updated updates).get? path =
      match updates.find? fun update => update.path = path with
      | some update => update.page?
      | none => tree.get? path := by
  induction updates generalizing tree with
  | nil => rfl
  | cons update updates ih =>
    obtain ⟨new, later⟩ := List.nodup_cons.mp apart
    rw [updated_cons, ih (Operation.indexed_onTree indexed update.operation) later, indexed.get_update]
    by_cases here : update.path = path
    · subst here
      simp [find_of_new new]
    · simp [here, Ne.symm here]

theorem edited_of_new (new : page.outputPath ∉ updates.map Update.path) : edited updates page = some page := by
  rw [edited, find_of_new new]

theorem edited_cons (new : update.path ∉ updates.map Update.path) (page : Record) :
    (edited [update] page).bind (edited updates) = edited (update :: updates) page := by
  by_cases here : update.path = page.outputPath
  · have own : edited [update] page = update.page? := by simp [edited, here]
    have whole : edited (update :: updates) page = update.page? := by simp [edited, here]
    rw [own, whole]
    cases stored : update.page? with
    | none => rfl
    | some stored' =>
      rw [← Update.path_of_page stored] at new
      exact edited_of_new new
  · simp [edited, here]

/-- A page that a change put in behind all others is not what later changes are about. -/
theorem edited_added (new : update.path ∉ updates.map Update.path) :
    (added [update] tree).filterMap (edited updates) = added [update] tree := by
  have untouched : ∀ page ∈ added [update] tree, edited updates page = some page := by
    intro page member
    have stored : update.page? = some page := by simpa [added] using (List.mem_filter.mp member).1
    rw [← Update.path_of_page stored] at new
    exact edited_of_new new
  rw [List.filterMap_congr untouched, List.filterMap_some]

theorem Indexed.added_after (indexed : tree.Indexed) (new : update.path ∉ updates.map Update.path) :
    added updates (update.operation.onTree tree).1 = added updates tree := by
  refine List.filter_congr fun page member => ?_
  obtain ⟨other, inside, stored⟩ := List.mem_filterMap.mp member
  have differ : page.outputPath ≠ update.path := by
    intro same
    rw [Update.path_of_page stored] at same
    exact new (List.mem_map.mpr ⟨other, inside, same⟩)
  rw [decide_eq_decide, indexed.outputPaths_update differ]

/-- Changes of different pages exchange and drop pages where they stand, and the pages that are new come
after all others, in the order of their changes. -/
theorem Indexed.records_updated (indexed : tree.Indexed) (apart : (updates.map Update.path).Nodup) :
    (tree.updated updates).records = tree.records.filterMap (edited updates) ++ added updates tree := by
  induction updates generalizing tree with
  | nil =>
    have untouched : edited [] = some := rfl
    rw [untouched, List.filterMap_some]
    exact (List.append_nil _).symm
  | cons update updates ih =>
    obtain ⟨new, later⟩ := List.nodup_cons.mp apart
    have own : added (update :: updates) tree = added [update] tree ++ added updates tree := by
      rw [added, added, added, ← List.filter_append, ← List.filterMap_append, List.singleton_append]
    rw [updated_cons, ih (Operation.indexed_onTree indexed update.operation) later, indexed.records_update,
      List.filterMap_append, edited_added new, indexed.added_after new, List.filterMap_filterMap, own,
      List.append_assoc]
    congr 1
    exact List.filterMap_congr fun page _ => edited_cons new page

end Tree

/-! ## Any order -/

/-- Whether two trees that come of one tree are the same but for the order of the pages that are new: each
output path has the same page, there are as many pages, those that were there before stand in the same
slots, and the new ones come after them. -/
structure SameButNew (before first second : Tree) : Prop where
  get : ∀ path, first.get? path = second.get? path
  size : first.size = second.size
  slots : ∃ kept new new', first.records = kept ++ new ∧ second.records = kept ++ new' ∧ new.Perm new' ∧
    (∀ page ∈ kept, before.contains page.outputPath = true) ∧
    ∀ page ∈ new, before.contains page.outputPath = false

namespace Tree

theorem Indexed.kept_contained (indexed : tree.Indexed) :
    ∀ page ∈ tree.records.filterMap (edited updates), tree.contains page.outputPath = true := by
  intro page member
  obtain ⟨old, inside, made⟩ := List.mem_filterMap.mp member
  have same : page.outputPath = old.outputPath := by
    unfold edited at made
    split at made
    next update found =>
      rw [Update.path_of_page made]
      simpa using List.find?_some found
    · cases made
      rfl
  rw [← indexed.mem_outputPaths_iff, mem_outputPaths]
  exact ⟨old, inside, same.symm⟩

theorem Indexed.new_not_contained (indexed : tree.Indexed) :
    ∀ page ∈ added updates tree, tree.contains page.outputPath = false := by
  intro page member
  have absent : page.outputPath ∉ tree.outputPaths := by simpa using (List.mem_filter.mp member).2
  rw [indexed.mem_outputPaths_iff] at absent
  simpa using absent

theorem Indexed.sameButNew (indexed : tree.Indexed) (apart : (updates.map Update.path).Nodup)
    (order : updates.Perm reordered) :
    SameButNew tree (tree.updated updates) (tree.updated reordered) := by
  have apart' : (reordered.map Update.path).Nodup := (order.map Update.path).nodup_iff.mp apart
  have edits := edited_of_perm apart order
  have additions : (added updates tree).Perm (added reordered tree) := (order.filterMap _).filter _
  have first := indexed.records_updated apart
  have second := indexed.records_updated apart'
  rw [edits] at second
  exact {
    get := by
      intro path
      rw [indexed.get_updated apart, indexed.get_updated apart', find_of_perm apart order]
    size := by
      rw [size, size, first, second, List.length_append, List.length_append, additions.length_eq]
    slots := ⟨_, _, _, first, second, additions, indexed.kept_contained, indexed.new_not_contained⟩ }

/-- Changes that put in no new page make the same slots in any order. -/
theorem Indexed.updated_eq (indexed : tree.Indexed) (apart : (updates.map Update.path).Nodup)
    (order : updates.Perm reordered)
    (present : ∀ update ∈ updates, ∀ page, update.page? = some page → tree.contains page.outputPath = true) :
    (tree.updated updates).records = (tree.updated reordered).records ∧
      ∀ path, (tree.updated updates).slot? path = (tree.updated reordered).slot? path := by
  have apart' : (reordered.map Update.path).Nodup := (order.map Update.path).nodup_iff.mp apart
  have nothing : ∀ {changes : List Update}, changes.Perm updates → added changes tree = [] := by
    intro changes same
    rw [added, List.filter_eq_nil_iff]
    intro page member
    obtain ⟨update, inside, stored⟩ := List.mem_filterMap.mp member
    have there := indexed.mem_outputPaths_iff.mpr (present update (same.mem_iff.mp inside) page stored)
    simp [there]
  have edits := edited_of_perm apart order
  have records : (tree.updated updates).records = (tree.updated reordered).records := by
    rw [indexed.records_updated apart, indexed.records_updated apart', edits, nothing order.symm,
      nothing (List.Perm.refl _)]
  refine ⟨records, ?_⟩
  intro path
  rw [(indexed_updated indexed updates).slot_eq_findIdx, (indexed_updated indexed reordered).slot_eq_findIdx,
    records]

end Tree

end DocSite.Site
