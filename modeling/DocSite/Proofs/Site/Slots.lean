/-
# DocSite.Proofs.Site.Slots -- a tree of pages is a plain list of pages

A tree keeps its pages in slots and, apart from them, an index from output paths to slots. Here it
is compared with a list of pages that has no index and is searched from its beginning.

* `Tree.Indexed` says that the index and the slots are each other's inverse. Every operation keeps
  it (`indexed_upsert`, `indexed_remove`), so it holds of every tree that can be reached.
* `Operation.onTree?` is an operation that gives up where the tree would read a slot behind its last
  page, or would move a slot down below zero. On indexed trees it never does (`onTree?_eq`).
* `run_refines_list`: whatever is done to the empty tree, its pages, its answers and what can be
  looked up in it are those of the plain list.
-/
import DocSite.Proofs.Association
import DocSite.Site.Tree
import Mathlib.Data.List.Find

set_option autoImplicit false

namespace DocSite.Site

open Page (Record)
open Association

namespace Tree

variable {tree : Tree} {path : Text} {slot : Nat}

/-- The index gives the output path of every page the slot of that page, and no other slots. -/
def Indexed (tree : Tree) : Prop :=
  ∀ path slot, tree.slot? path = some slot ↔
    (tree.records[slot]?).map (·.outputPath) = some path

theorem indexed_empty : empty.Indexed := by
  intro path slot
  simp [empty, slot?]

/-! ## What the index says -/

theorem Indexed.page_of_slot (indexed : tree.Indexed) (found : tree.slot? path = some slot) :
    ∃ page, tree.records[slot]? = some page ∧ page.outputPath = path := by
  simpa using (indexed path slot).mp found

theorem Indexed.slot_lt (indexed : tree.Indexed) (found : tree.slot? path = some slot) :
    slot < tree.records.length := by
  obtain ⟨page, taken, -⟩ := indexed.page_of_slot found
  exact (List.getElem?_eq_some_iff.mp taken).1

theorem Indexed.slot_of_page (indexed : tree.Indexed) {page : Record}
    (taken : tree.records[slot]? = some page) : tree.slot? page.outputPath = some slot :=
  (indexed _ _).mpr (by simp [taken])

theorem Indexed.slot_of_mem (indexed : tree.Indexed) {page : Record} (member : page ∈ tree.records) :
    ∃ slot, tree.slot? page.outputPath = some slot ∧ tree.records[slot]? = some page := by
  obtain ⟨slot, taken⟩ := List.mem_iff_getElem?.mp member
  exact ⟨slot, indexed.slot_of_page taken, taken⟩

/-- No two slots hold pages of one output path. -/
theorem Indexed.distinct (indexed : tree.Indexed) : (tree.records.map (·.outputPath)).Nodup := by
  rw [List.nodup_iff_getElem?_ne_getElem?]
  intro i j before inside same
  rw [List.length_map] at inside
  rw [List.getElem?_map, List.getElem?_map, List.getElem?_eq_getElem inside] at same
  have second : tree.slot? (tree.records[j]).outputPath = some j := indexed.slot_of_page (by simp)
  have first : tree.slot? (tree.records[j]).outputPath = some i := (indexed _ _).mpr same
  rw [first] at second
  exact Nat.ne_of_lt before (Option.some.inj second)

/-- The index finds what a scan of the pages finds. -/
theorem Indexed.slot_eq_findIdx (indexed : tree.Indexed) (path : Text) :
    tree.slot? path = tree.records.findIdx? fun page => page.outputPath = path := by
  ext slot
  rw [indexed path slot, List.findIdx?_eq_some_iff_getElem]
  constructor
  · intro taken
    have inside := (indexed.slot_lt ((indexed path slot).mpr taken))
    refine ⟨inside, by simpa [inside] using taken, ?_⟩
    intro j before same
    have earlier : tree.slot? path = some j := by
      rw [indexed path j, List.getElem?_eq_getElem (Nat.lt_trans before inside)]
      simpa using same
    rw [(indexed path slot).mpr taken] at earlier
    exact Nat.ne_of_gt before (Option.some.inj earlier)
  · rintro ⟨inside, same, -⟩
    simpa [inside] using same

theorem Indexed.get_eq_find (indexed : tree.Indexed) (path : Text) :
    tree.get? path = tree.records.find? fun page => page.outputPath = path := by
  rw [get?, indexed.slot_eq_findIdx, List.find?_eq_bind_findIdx?_getElem?]

theorem Indexed.contains_eq_any (indexed : tree.Indexed) (path : Text) :
    tree.contains path = tree.records.any fun page => page.outputPath = path := by
  rw [contains, indexed.slot_eq_findIdx, List.findIdx?_isSome]

theorem Indexed.get_eq_some (indexed : tree.Indexed) {page : Record} :
    tree.get? path = some page ↔ page ∈ tree.records ∧ page.outputPath = path := by
  constructor
  · intro found
    rw [indexed.get_eq_find] at found
    exact ⟨List.mem_of_find?_eq_some found, by simpa using List.find?_some found⟩
  · rintro ⟨member, rfl⟩
    obtain ⟨slot, found, taken⟩ := indexed.slot_of_mem member
    simp [get?, found, taken]

/-! ## Putting pages in -/

/-- A page that takes the place of one with its output path is found where that was. -/
theorem Indexed.set {old : Nat} (indexed : tree.Indexed) (page : Record)
    (found : tree.slot? page.outputPath = some old) :
    Indexed { tree with records := tree.records.set old page } := by
  intro path slot
  have inside := indexed.slot_lt found
  obtain ⟨before, taken, same⟩ := indexed.page_of_slot found
  have keeps := indexed path slot
  by_cases here : slot = old
  · subst here
    rw [taken] at keeps
    simpa [slot?, List.getElem?_set, inside, same] using keeps
  · simpa [slot?, List.getElem?_set, Ne.symm here] using keeps

/-- A page with a new output path is found at the end. -/
theorem Indexed.snoc (indexed : tree.Indexed) (page : Record) (new : tree.slot? page.outputPath = none) :
    Indexed ⟨tree.records ++ [page], tree.index ++ [(page.outputPath, tree.records.length)]⟩ := by
  intro path slot
  have old := indexed path slot
  change tree.index.lookup _ = none at new
  change tree.index.lookup path = some slot ↔ _ at old
  change (tree.index ++ [(page.outputPath, tree.records.length)]).lookup path = some slot ↔ _
  rw [lookup_snoc]
  by_cases inside : slot < tree.records.length
  · rw [List.getElem?_append_left inside, ← old]
    by_cases same : path = page.outputPath
    · subst same
      have notLast : tree.records.length ≠ slot := Nat.ne_of_gt inside
      simp [new, notLast]
    · simp [same]
  · have unused : tree.index.lookup path ≠ some slot := by
      rw [Ne, old, List.getElem?_eq_none (Nat.le_of_not_lt inside)]
      simp
    rw [List.getElem?_append_right (Nat.le_of_not_lt inside), List.getElem?_singleton]
    by_cases same : path = page.outputPath
    · subst same
      by_cases last : slot = tree.records.length
      · simp [new, last]
      · have beyond : slot - tree.records.length ≠ 0 := by omega
        simp [new, beyond, Ne.symm last]
    · have other : ¬page.outputPath = path := Ne.symm same
      rw [if_neg same, Option.or_none]
      split <;> simp [other, unused]

theorem indexed_upsert (indexed : tree.Indexed) (page : Record) (mode : UpsertMode) :
    (tree.upsert page mode).1.Indexed := by
  unfold upsert
  split
  next old found => exact indexed.set page found
  next new => exact indexed.snoc page new

/-! ## Taking pages out -/

/-- Every mention of an output path moves its slot down by one. -/
theorem lookup_shift (paths : List Text) (index : List (Text × Nat)) (path : Text) :
    (shift paths index).lookup path = (index.lookup path).map (· - paths.count path) := by
  induction paths generalizing index with
  | nil => simp [shift]
  | cons moved paths ih =>
    have lower : shift (moved :: paths) index = shift paths
        (index.map fun entry => (entry.1, if entry.1 = moved then entry.2 - 1 else entry.2)) := by
      rw [shift, List.foldl_cons, ← shift]
      congr 2
      funext entry
      by_cases hit : entry.1 = moved <;> simp [hit]
    rw [lower, ih, lookup_map_value (fun p slot => if p = moved then slot - 1 else slot),
      Option.map_map]
    congr 1
    funext slot
    by_cases hit : path = moved
    · subst hit
      simp only [Function.comp_apply, if_true, List.count_cons_self]
      omega
    · simp [hit, Ne.symm hit]

/-- An output path is mentioned once among the pages from a slot on, if its page is there. -/
theorem Indexed.count_from (indexed : tree.Indexed) (found : tree.slot? path = some slot)
    (first : Nat) :
    ((tree.records.drop first).map (·.outputPath)).count path = if first ≤ slot then 1 else 0 := by
  have distinct : ((tree.records.drop first).map (·.outputPath)).Nodup :=
    indexed.distinct.sublist ((List.drop_sublist _ _).map _)
  rw [distinct.count]
  congr 1
  rw [eq_iff_iff]
  constructor
  · intro mentioned
    obtain ⟨i, taken⟩ := List.mem_iff_getElem?.mp mentioned
    rw [List.getElem?_map, List.getElem?_drop] at taken
    have same := (indexed _ _).mpr taken
    rw [found] at same
    have := Option.some.inj same
    omega
  · intro later
    obtain ⟨page, taken, rfl⟩ := indexed.page_of_slot found
    refine List.mem_map_of_mem (List.mem_iff_getElem?.mpr ⟨slot - first, ?_⟩)
    rw [List.getElem?_drop, Nat.add_sub_cancel' later]
    exact taken

/-- The pages behind a slot, as they are after its page has been taken out. -/
theorem drop_eraseIdx (pages : List Record) (gone : Nat) :
    (pages.eraseIdx gone).drop gone = pages.drop (gone + 1) := by
  apply List.ext_getElem?
  intro i
  rw [List.getElem?_drop, List.getElem?_drop, List.getElem?_eraseIdx_of_ge (Nat.le_add_right _ _)]
  congr 1
  omega

/-- The index after a removal: the output path has no slot, and the slots behind it are one less. -/
theorem Indexed.slot_after_remove (indexed : tree.Indexed) (found : tree.slot? path = some slot)
    (other : Text) :
    (tree.remove path).1.slot? other =
      if other = path then none
      else (tree.slot? other).map fun old => if slot < old then old - 1 else old := by
  simp only [remove, found]
  rw [slot?, lookup_shift, lookup_filter_key (fun p => p != path), drop_eraseIdx]
  by_cases same : other = path
  · simp [same]
  · simp only [bne_iff_ne, ne_eq, same, not_false_eq_true, if_true, if_false, slot?]
    cases old : tree.index.lookup other with
    | none => rfl
    | some before =>
      rw [Option.map_some, Option.map_some, indexed.count_from old]
      by_cases later : slot < before
      · simp [later, Nat.succ_le_of_lt later]
      · have : ¬slot + 1 ≤ before := by omega
        simp [later, this]

theorem indexed_remove (indexed : tree.Indexed) (path : Text) : (tree.remove path).1.Indexed := by
  cases found : tree.slot? path with
  | none => simpa [remove, found] using indexed
  | some gone =>
    intro other slot
    rw [indexed.slot_after_remove found]
    have pages : (tree.remove path).1.records = tree.records.eraseIdx gone := by
      simp [remove, found]
    rw [pages, List.getElem?_eraseIdx]
    have unmoved : ∀ old, tree.slot? other = some old → other ≠ path → old ≠ gone := by
      rintro old there different rfl
      obtain ⟨page, taken, rfl⟩ := indexed.page_of_slot there
      obtain ⟨page', taken', rfl⟩ := indexed.page_of_slot found
      rw [taken] at taken'
      exact different (congrArg _ (Option.some.inj taken'))
    -- The slot `slot` of the shorter list is the slot `old` of the longer one.
    let old := if slot < gone then slot else slot + 1
    have place : (if slot < gone then tree.records[slot]? else tree.records[slot + 1]?) =
        tree.records[old]? := by
      simp only [old]; split <;> rfl
    rw [place, ← indexed other old]
    by_cases same : other = path
    · subst same
      have elsewhere : gone ≠ old := by simp only [old]; split <;> omega
      simp [found, elsewhere]
    · rw [if_neg same]
      cases there : tree.slot? other with
      | none => simp
      | some before =>
        have := unmoved before there same
        simp only [Option.map_some, Option.some.injEq, old]
        split <;> split <;> omega

theorem removed_page (tree : Tree) (path : Text) : (tree.remove path).2 = tree.get? path := by
  cases found : tree.slot? path <;> simp [remove, get?, found]

theorem Indexed.records_after_remove (indexed : tree.Indexed) (path : Text) :
    (tree.remove path).1.records = tree.records.eraseP fun page => page.outputPath = path := by
  rw [List.eraseP_eq_eraseIdx, ← indexed.slot_eq_findIdx]
  cases found : tree.slot? path <;> simp [remove, found]

theorem eraseP_eq_filter {pages : List Record} (distinct : (pages.map (·.outputPath)).Nodup)
    (path : Text) : (pages.eraseP fun page => page.outputPath = path) =
      pages.filter fun page => page.outputPath ≠ path := by
  induction pages with
  | nil => rfl
  | cons page rest ih =>
    obtain ⟨new, later⟩ := List.nodup_cons.mp distinct
    by_cases here : page.outputPath = path
    · have others : ∀ other ∈ rest, other.outputPath ≠ path := by
        rintro other member same
        exact new (List.mem_map.mpr ⟨other, member, same.trans here.symm⟩)
      rw [List.eraseP_cons_of_pos (by simpa using here), List.filter_cons_of_neg (by simpa using here),
        List.filter_eq_self.mpr (by simpa using others)]
    · simp [here, ih later]

/-- The pages that stay when an output path is taken out are those of other output paths. -/
theorem Indexed.records_without (indexed : tree.Indexed) (path : Text) :
    (tree.remove path).1.records = tree.records.filter fun page => page.outputPath ≠ path := by
  rw [indexed.records_after_remove, eraseP_eq_filter indexed.distinct]

theorem Indexed.get_upsert (indexed : tree.Indexed) (page : Record) (mode : UpsertMode) :
    (tree.upsert page mode).1.get? path =
      if path = page.outputPath then some page else tree.get? path := by
  unfold upsert
  split
  next old found =>
    have inside := indexed.slot_lt found
    by_cases here : path = page.outputPath
    · simp [get?, slot?] at found ⊢
      simp [here, found, inside]
    · rw [if_neg here]
      simp only [get?, slot?] at found ⊢
      cases there : tree.index.lookup path with
      | none => rfl
      | some slot =>
        have different : old ≠ slot := by
          rintro rfl
          obtain ⟨first, taken, rfl⟩ := indexed.page_of_slot there
          obtain ⟨second, taken', same⟩ := indexed.page_of_slot found
          rw [taken] at taken'
          exact here ((congrArg _ (Option.some.inj taken')).trans same)
        simp [List.getElem?_set, different]
  next free =>
    simp only [get?, slot?, lookup_snoc] at free ⊢
    by_cases here : path = page.outputPath
    · simp [here, free]
    · rw [if_neg here, if_neg here, Option.or_none]
      cases there : tree.index.lookup path with
      | none => rfl
      | some slot => exact List.getElem?_append_left (indexed.slot_lt there)

/-! ## Slots that are never missed

In a vector a slot behind the last page cannot be read, and a slot is a number that cannot be moved
below zero. The following do what the operations of a tree do, but give up in these cases. -/

/-- Moves slots down by one, and gives up at a slot zero. -/
def shift? (outputPaths : List Text) (index : List (Text × Nat)) : Option (List (Text × Nat)) :=
  outputPaths.foldlM
    (fun index path => if index.lookup path = some 0 then none else some (shift [path] index))
    index

/-- Reads the page of an output path, and gives up at a slot without a page. -/
def read? (outputPath : Text) (tree : Tree) : Option (Option Record) :=
  match tree.slot? outputPath with
  | some slot => (tree.records[slot]?).map some
  | none => some none

/-- Puts a page in, and gives up at a slot without a page. -/
def upsert? (page : Record) (mode : UpsertMode) (tree : Tree) : Option (Tree × Upserted) :=
  match tree.slot? page.outputPath with
  | some slot => (tree.records[slot]?).map fun _ => tree.upsert page mode
  | none => some (tree.upsert page mode)

/-- Takes a page out, and gives up at a slot without a page, or where a slot would fall below
zero. -/
def remove? (outputPath : Text) (tree : Tree) : Option (Tree × Option Record) :=
  match tree.slot? outputPath with
  | none => some (tree, none)
  | some slot => do
    let page ← tree.records[slot]?
    let records := tree.records.eraseIdx slot
    let index ← shift? ((records.drop slot).map (·.outputPath))
      (tree.index.filter fun (p, _) => p != outputPath)
    return (⟨records, index⟩, some page)

theorem read?_eq (indexed : tree.Indexed) (path : Text) :
    tree.read? path = some (tree.get? path) := by
  cases found : tree.slot? path with
  | none => simp [read?, get?, found]
  | some slot =>
    obtain ⟨page, taken, -⟩ := indexed.page_of_slot found
    simp [read?, get?, found, taken]

theorem upsert?_eq (indexed : tree.Indexed) (page : Record) (mode : UpsertMode) :
    tree.upsert? page mode = some (tree.upsert page mode) := by
  cases found : tree.slot? page.outputPath with
  | none => simp [upsert?, found]
  | some slot =>
    obtain ⟨before, taken, -⟩ := indexed.page_of_slot found
    simp [upsert?, found, taken]

/-- Slots that are moved at most as often as they are high never fall below zero. -/
theorem shift?_eq (paths : List Text) (index : List (Text × Nat))
    (high : ∀ path slot, index.lookup path = some slot → paths.count path ≤ slot) :
    shift? paths index = some (shift paths index) := by
  induction paths generalizing index with
  | nil => rfl
  | cons path paths ih =>
    have notZero : index.lookup path ≠ some 0 := by
      intro zero
      simpa using high path 0 zero
    have rest : shift? paths (shift [path] index) = some (shift paths (shift [path] index)) := by
      apply ih
      intro other slot found
      rw [lookup_shift, Option.map_eq_some_iff] at found
      obtain ⟨before, there, rfl⟩ := found
      have := high other before there
      rw [← List.singleton_append, List.count_append] at this
      omega
    simpa [shift?, notZero, shift] using rest

theorem remove?_eq (indexed : tree.Indexed) (path : Text) :
    tree.remove? path = some (tree.remove path) := by
  cases found : tree.slot? path with
  | none => simp [remove?, remove, found]
  | some gone =>
    obtain ⟨page, taken, -⟩ := indexed.page_of_slot found
    have high : ∀ other slot, (tree.index.filter fun entry => entry.1 != path).lookup other =
        some slot → ((tree.records.drop (gone + 1)).map (·.outputPath)).count other ≤ slot := by
      intro other slot there
      rw [lookup_filter_key (fun p => p != path)] at there
      split at there
      · rw [indexed.count_from there]
        split <;> omega
      · cases there
    have lower := shift?_eq _ _ high
    rw [List.map_drop] at lower
    simp [remove?, remove, found, taken, drop_eraseIdx, lower]

end Tree

/-! ## Runs -/

/-- What can be done to a tree. -/
inductive Operation where
  | upsert (page : Record) (mode : UpsertMode)
  | remove (outputPath : Text)
  | clear

/-- What an operation answers. -/
inductive Answer where
  | upserted (outcome : Upserted)
  | removed (page : Option Record)
  | cleared

namespace Operation

/-- Does an operation to a tree. -/
def onTree (operation : Operation) (tree : Tree) : Tree × Answer :=
  match operation with
  | upsert page mode => (tree.upsert page mode).map id .upserted
  | remove path => (tree.remove path).map id .removed
  | clear => (tree.clear, .cleared)

/-- Does an operation to a tree, and gives up where a slot would be missed. -/
def onTree? (operation : Operation) (tree : Tree) : Option (Tree × Answer) :=
  match operation with
  | upsert page mode => (tree.upsert? page mode).map (Prod.map id .upserted)
  | remove path => (tree.remove? path).map (Prod.map id .removed)
  | clear => some (tree.clear, .cleared)

/-- Does an operation to a list of pages, which is searched for an output path from its
beginning. -/
def onList (operation : Operation) (pages : List Record) : List Record × Answer :=
  match operation with
  | upsert page _ =>
    match pages.findIdx? fun other => other.outputPath = page.outputPath with
    | some position => (pages.set position page, .upserted (.replaced position))
    | none => (pages ++ [page], .upserted (.appended pages.length))
  | remove path =>
    (pages.eraseP fun page => page.outputPath = path,
      .removed (pages.find? fun page => page.outputPath = path))
  | clear => ([], .cleared)

/-- Does operations one after the other to something, and collects their answers. -/
def run {State : Type} (act : Operation → State → State × Answer) (state : State) :
    List Operation → State × List Answer
  | [] => (state, [])
  | operation :: rest =>
    let (state, answer) := act operation state
    let (state, answers) := run act state rest
    (state, answer :: answers)

/-- Does operations one after the other to something, as long as none gives up. -/
def run? {State : Type} (act? : Operation → State → Option (State × Answer)) (state : State) :
    List Operation → Option (State × List Answer)
  | [] => some (state, [])
  | operation :: rest => do
    let (state, answer) ← act? operation state
    let (state, answers) ← run? act? state rest
    return (state, answer :: answers)

variable {tree : Tree}

theorem indexed_onTree (indexed : tree.Indexed) (operation : Operation) :
    (operation.onTree tree).1.Indexed := by
  cases operation with
  | upsert page mode => exact Tree.indexed_upsert indexed page mode
  | remove path => exact Tree.indexed_remove indexed path
  | clear => exact Tree.indexed_empty

theorem onTree?_eq (indexed : tree.Indexed) (operation : Operation) :
    operation.onTree? tree = some (operation.onTree tree) := by
  cases operation with
  | upsert page mode => simp [onTree?, onTree, Tree.upsert?_eq indexed]
  | remove path => simp [onTree?, onTree, Tree.remove?_eq indexed]
  | clear => rfl

/-- One operation does to the pages of an indexed tree what it does to a plain list. -/
theorem onList_eq (indexed : tree.Indexed) (operation : Operation) :
    operation.onList tree.records =
      ((operation.onTree tree).1.records, (operation.onTree tree).2) := by
  cases operation with
  | upsert page mode =>
    simp only [onList, onTree, ← indexed.slot_eq_findIdx page.outputPath, Tree.upsert]
    cases tree.slot? page.outputPath <;> rfl
  | remove path =>
    simp [onList, onTree, Tree.removed_page, indexed.get_eq_find, indexed.records_after_remove]
  | clear => rfl

/-- A run on an indexed tree never gives up, goes as on a plain list, and leaves the tree
indexed. -/
theorem run_of_indexed (operations : List Operation) (indexed : tree.Indexed) :
    (run onTree tree operations).1.Indexed ∧
      run? onTree? tree operations = some (run onTree tree operations) ∧
      run onList tree.records operations =
        ((run onTree tree operations).1.records, (run onTree tree operations).2) := by
  induction operations generalizing tree with
  | nil => exact ⟨indexed, rfl, rfl⟩
  | cons operation rest ih =>
    obtain ⟨kept, strict, plain⟩ := ih (indexed_onTree indexed operation)
    refine ⟨kept, ?_, ?_⟩
    · simp [run?, run, onTree?_eq indexed, strict]
    · simp [run, onList_eq indexed, plain]

/-- Whatever is done to the empty tree, no slot is missed, the answers and the pages are those of a
plain list with one page for each output path, and looking up in the tree is scanning this list. -/
theorem run_refines_list (operations : List Operation) :
    ∃ (tree : Tree) (pages : List Record) (answers : List Answer),
      run onTree .empty operations = (tree, answers) ∧
      run? onTree? .empty operations = some (tree, answers) ∧
      run onList [] operations = (pages, answers) ∧
      tree.records = pages ∧ tree.size = pages.length ∧
      (pages.map (·.outputPath)).Nodup ∧
      ∀ path, tree.get? path = pages.find? (fun page => page.outputPath = path) ∧
        tree.read? path = some (tree.get? path) ∧
        tree.contains path = pages.any (fun page => page.outputPath = path) := by
  obtain ⟨indexed, strict, plain⟩ := run_of_indexed operations Tree.indexed_empty
  refine ⟨_, _, _, rfl, strict, plain, rfl, rfl, indexed.distinct, fun path => ?_⟩
  exact ⟨indexed.get_eq_find path, Tree.read?_eq indexed path, indexed.contains_eq_any path⟩

end Operation

end DocSite.Site
