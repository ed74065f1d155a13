/-
# DocSite.Proofs.Site.Navigation -- the order of navigation and the groups

The list of a tree has the pages with a place first, in the order of their places, and pages of the same place
as they came (`Navigates`). The groups divide this list: each has the pages of its name as they stand in the
list, and stands where its first page does (`Grouped`). A list in order from which a page is left out is what
the others alone would be put into, so that a change of one page leaves the others as they were to each other,
in the list and in their groups (`Indexed.others_listed`, `navigation_of_operations`).
-/
import DocSite.Proofs.Site.Updates

set_option autoImplicit false

namespace DocSite.Site

open Text
open Page (Record)

variable {tree : Tree} {page : Record} {pages : List Record} {path : Text} {groups : List Group}
  {update : Update}

/-! ## The order in which pages came -/

/-- The output paths that are there, in the order in which they came: a path that is put in again keeps its
place, and one that was gone comes last. -/
def arrive (paths : List Text) : Operation → List Text
  | .upsert page _ => if paths.contains page.outputPath then paths else paths ++ [page.outputPath]
  | .remove gone => paths.filter fun path => path ≠ gone
  | .clear => []

/-- The output paths in the order in which operations brought them. -/
def arrivals (operations : List Operation) : List Text := operations.foldl arrive []

namespace Tree

theorem Indexed.outputPaths_onTree (indexed : tree.Indexed) (operation : Operation) :
    (operation.onTree tree).1.outputPaths = arrive tree.outputPaths operation := by
  cases operation with
  | upsert page mode =>
    simp only [arrive, List.contains_iff_mem]
    exact indexed.outputPaths_upsert mode
  | remove gone =>
    show ((tree.remove gone).1.records.map (·.outputPath)) = _
    rw [indexed.records_without, arrive, outputPaths, List.filter_map]
    rfl
  | clear => rfl

end Tree

theorem outputPaths_treeOf (operations : List Operation) :
    (treeOf operations).outputPaths = arrivals operations := by
  induction operations using List.reverseRecOn with
  | nil => rfl
  | append_singleton operations operation ih =>
    rw [treeOf_append, arrivals, List.foldl_append, ← arrivals, ← ih]
    exact (indexed_treeOf operations).outputPaths_onTree operation

/-! ## The list -/

/-- Whether a list has some pages in the order of navigation: a page behind which there is one with a place has
a place too, which is not behind it, and pages of the same place, or of none, are in the order in which they
came. -/
structure Navigates (records list : List Record) : Prop where
  perm : list.Perm records
  ascending : list.Pairwise fun earlier later =>
    ∀ n, later.order = some n → ∃ m, earlier.order = some m ∧ m ≤ n
  stable : ∀ order : Option Int,
    (list.filter fun page => page.order = order) = records.filter fun page => page.order = order

namespace Tree

/-- A list in order from which pages are left out is the other pages in order. -/
theorem list_filter (keep : Record → Bool) (tree : Tree) :
    tree.list.filter keep =
      sortBy (fun a b => comesBefore a.order b.order) (tree.records.filter keep) := by
  apply sortBy_filter
  · intro a b ahead
    exact comesBefore_asymm ahead
  · intro a b c ahead
    exact comesBefore_splits b.order ahead

theorem not_comesBefore_self (order : Option Int) : comesBefore order order = false := by
  cases order <;> simp [comesBefore]

theorem navigates_list (tree : Tree) : Navigates tree.records tree.list where
  perm := sortBy_perm _
  ascending := by
    have ordered := List.pairwise_map.mp (Reflects.ordered_list tree)
    apply ordered.imp
    intro earlier later notBefore n there
    rw [there] at notBefore
    cases place : earlier.order with
    | none => simp [place, comesBefore] at notBefore
    | some m =>
      refine ⟨m, rfl, ?_⟩
      simpa [place, comesBefore] using notBefore
  stable := by
    intro order
    rw [list_filter]
    apply sortBy_eq_self
    -- Pages of one place are in order whatever they are.
    have equal : ∀ page ∈ tree.records.filter fun page => page.order = order, page.order = order := by
      intro page member
      simpa using (List.mem_filter.mp member).2
    apply List.Pairwise.imp_of_mem _ (List.pairwise_of_forall fun _ _ => trivial)
    intro a b first second _
    rw [equal a first, equal b second]
    exact not_comesBefore_self order

end Tree

/-! ## The groups -/

/-- Whether groups divide a list of pages: no two have the same name, where no name is not an empty one; each
has the pages of its name as they stand in the list; and the groups stand in the order of their first
pages. -/
structure Grouped (list : List Record) (groups : List Group) : Prop where
  names : (groups.map (·.name)).Nodup
  pages : ∀ group ∈ groups, group.pages = list.filter fun page => page.group = group.name
  perm : (groups.flatMap (·.pages)).Perm list
  heads : (groups.map (·.pages.head?)).Sublist (list.map some)

namespace Tree

/-- The pages of a name as a group. -/
def groupOf (pages : List Record) (name : Option Text) : Group :=
  ⟨name, pages.filter fun page => page.group = name⟩

@[simp]
theorem groupOf_name (pages : List Record) (name : Option Text) : (groupOf pages name).name = name := rfl

theorem groupOf_snoc (pages : List Record) (page : Record) (name : Option Text) :
    groupOf (pages ++ [page]) name =
      if page.group = name then ⟨name, (groupOf pages name).pages ++ [page]⟩ else groupOf pages name := by
  split
  next own => simp [groupOf, own]
  next other => simp [groupOf, other]

/-- A page is added to the group of its name, if there is one. -/
theorem addToGroup_of_mem {names : List (Option Text)} (distinct : names.Nodup) (old : page.group ∈ names) :
    addToGroup page (names.map (groupOf pages)) = names.map (groupOf (pages ++ [page])) := by
  induction names with
  | nil => cases old
  | cons name names ih =>
    obtain ⟨new, later⟩ := List.nodup_cons.mp distinct
    rw [List.map_cons, List.map_cons, addToGroup, groupOf_snoc, groupOf_name]
    by_cases own : page.group = name
    · have others : ∀ other ∈ names, groupOf (pages ++ [page]) other = groupOf pages other := by
        intro other member
        have differ : page.group ≠ other := by
          intro same
          rw [← own, same] at new
          exact new member
        rw [groupOf_snoc, if_neg differ]
      rw [if_pos own.symm, if_pos own, List.map_congr_left others]
    · have inside : page.group ∈ names := (List.mem_cons.mp old).resolve_left own
      rw [if_neg (Ne.symm own), if_neg own, ih later inside]

theorem group_ne_of_new (new : page.group ∉ pages.map (·.group)) :
    ∀ other ∈ pages, other.group ≠ page.group := by
  intro other member same
  exact new (List.mem_map.mpr ⟨other, member, same⟩)

/-- A page that is the first of its name makes a group behind all others. -/
theorem addToGroup_of_new (new : page.group ∉ groups.map (·.name)) :
    addToGroup page groups = groups ++ [⟨page.group, [page]⟩] := by
  induction groups with
  | nil => rfl
  | cons group groups ih =>
    obtain ⟨other, others⟩ : page.group ≠ group.name ∧ page.group ∉ groups.map (·.name) := by
      simpa using new
    rw [addToGroup, if_neg (Ne.symm other), ih others, List.cons_append]

theorem name_groupOf (pages : List Record) (names : List (Option Text)) :
    (names.map (groupOf pages)).map (·.name) = names := by
  rw [List.map_map]
  exact List.map_id names

/-- Adding pages one after the other makes a group of each name, in the order in which the names come. -/
theorem foldl_addToGroup (pages : List Record) :
    pages.foldl (fun groups page => addToGroup page groups) [] =
      (pages.map (·.group)).eraseDups.map (groupOf pages) := by
  induction pages using List.reverseRecOn with
  | nil => rfl
  | append_singleton pages page ih =>
    rw [List.foldl_append, ih, List.map_append, List.map_singleton, eraseDups_snoc, List.foldl_cons,
      List.foldl_nil]
    split
    next old => exact addToGroup_of_mem (nodup_eraseDups _) (List.mem_eraseDups.mpr old)
    next new =>
      have others : ∀ name ∈ (pages.map (·.group)).eraseDups,
          groupOf (pages ++ [page]) name = groupOf pages name := by
        intro name member
        have differ : page.group ≠ name := by
          rintro rfl
          exact new (List.mem_eraseDups.mp member)
        rw [groupOf_snoc, if_neg differ]
      have alone : groupOf (pages ++ [page]) page.group = ⟨page.group, [page]⟩ := by
        have none : (pages.filter fun other => other.group = page.group) = [] := by
          rw [List.filter_eq_nil_iff]
          simpa using group_ne_of_new new
        rw [groupOf_snoc, if_pos rfl, groupOf, none, List.nil_append]
      rw [List.map_append, List.map_congr_left others, List.map_singleton, alone]
      apply addToGroup_of_new
      rwa [name_groupOf, List.mem_eraseDups]

/-- A page without a group is not in the group with the empty name. -/
example (page : Record) :
    [{ page with group := some [] }, { page with group := none }].foldl
      (fun groups page => addToGroup page groups) [] =
        [⟨some [], [{ page with group := some [] }]⟩, ⟨none, [{ page with group := none }]⟩] := rfl

theorem groups_eq (tree : Tree) :
    tree.groups = (tree.list.map (·.group)).eraseDups.map (groupOf tree.list) := foldl_addToGroup tree.list

theorem pages_addToGroup_perm (page : Record) (groups : List Group) :
    ((addToGroup page groups).flatMap (·.pages)).Perm (groups.flatMap (·.pages) ++ [page]) := by
  induction groups with
  | nil => exact .refl _
  | cons group groups ih =>
    unfold addToGroup
    split
    · rw [List.flatMap_cons, List.flatMap_cons, List.append_assoc, List.append_assoc]
      exact List.perm_append_comm.append_left _
    · rw [List.flatMap_cons, List.flatMap_cons, List.append_assoc]
      exact ih.append_left _

theorem pages_foldl_perm (pages : List Record) :
    ((pages.foldl (fun groups page => addToGroup page groups) []).flatMap (·.pages)).Perm pages := by
  induction pages using List.reverseRecOn with
  | nil => exact .refl _
  | append_singleton pages page ih =>
    rw [List.foldl_append]
    exact (pages_addToGroup_perm page _).trans (ih.append_right _)

/-- The first pages of the names stand in the order in which the names come. -/
theorem heads_sublist (pages : List Record) :
    ((pages.map (·.group)).eraseDups.map fun name => pages.find? fun page => page.group = name).Sublist
      (pages.map some) := by
  induction pages using List.reverseRecOn with
  | nil => exact .slnil
  | append_singleton pages page ih =>
    have found : ∀ name ∈ (pages.map (·.group)).eraseDups,
        ((pages ++ [page]).find? fun page => page.group = name) =
          pages.find? fun page => page.group = name := by
      intro name member
      obtain ⟨other, inside, own⟩ := List.mem_map.mp (List.mem_eraseDups.mp member)
      have some : (pages.find? fun page => page.group = name).isSome :=
        List.find?_isSome.mpr ⟨other, inside, by simpa using own⟩
      rw [List.find?_append, Option.or_of_isSome some]
    rw [List.map_append, List.map_append, List.map_singleton, List.map_singleton, eraseDups_snoc]
    split
    · rw [List.map_congr_left found]
      exact ih.trans (List.sublist_append_left ..)
    next new =>
      have first : ((pages ++ [page]).find? fun other => other.group = page.group) = some page := by
        have none : (pages.find? fun other => other.group = page.group) = none := by
          rw [List.find?_eq_none]
          simpa using group_ne_of_new new
        rw [List.find?_append, none, Option.none_or]
        simp
      rw [List.map_append, List.map_congr_left found, List.map_singleton, first]
      exact ih.append_right _

theorem grouped_groups (tree : Tree) : Grouped tree.list tree.groups where
  names := by
    rw [groups_eq, name_groupOf]
    exact nodup_eraseDups _
  pages := by
    intro group member
    rw [groups_eq] at member
    obtain ⟨name, -, rfl⟩ := List.mem_map.mp member
    rfl
  perm := pages_foldl_perm tree.list
  heads := by
    rw [groups_eq, List.map_map]
    have heads : (fun group : Group => group.pages.head?) ∘ groupOf tree.list =
        fun name => tree.list.find? fun page => page.group = name := by
      funext name
      exact List.head?_filter ..
    rw [heads]
    exact heads_sublist tree.list

/-- The pages of the group of a name, none if there is no such group. -/
def pagesIn (name : Option Text) (tree : Tree) : List Record :=
  ((tree.groups.find? fun group => group.name = name).map (·.pages)).getD []

theorem pagesIn_eq (name : Option Text) (tree : Tree) :
    tree.pagesIn name = tree.list.filter fun page => page.group = name := by
  unfold pagesIn
  cases found : tree.groups.find? fun group => group.name = name with
  | some group =>
    have same : group.name = name := by simpa using List.find?_some found
    rw [← same]
    exact (grouped_groups tree).pages group (List.mem_of_find?_eq_some found)
  | none =>
    symm
    show _ = []
    rw [List.filter_eq_nil_iff]
    intro page member own
    have inside : page ∈ tree.groups.flatMap (·.pages) := (grouped_groups tree).perm.mem_iff.mpr member
    obtain ⟨group, there, belongs⟩ := List.mem_flatMap.mp inside
    rw [(grouped_groups tree).pages group there] at belongs
    have same : page.group = group.name := by simpa using (List.mem_filter.mp belongs).2
    have missing := List.find?_eq_none.mp found group there
    rw [← same] at missing
    exact missing own

/-! ## A change of one page -/

/-- A change leaves all other pages where they stand. -/
theorem Indexed.others_recorded (indexed : tree.Indexed) (update : Update) :
    ((update.operation.onTree tree).1.records.filter fun page => page.outputPath ≠ update.path) =
      tree.records.filter fun page => page.outputPath ≠ update.path := by
  have nothing : ((added [update] tree).filter fun page => page.outputPath ≠ update.path) = [] := by
    rw [List.filter_eq_nil_iff]
    intro page member
    have stored : update.page? = some page := by simpa [added] using (List.mem_filter.mp member).1
    simp [Update.path_of_page stored]
  rw [indexed.records_update, List.filter_append, nothing, List.append_nil, List.filter_filterMap,
    ← List.filterMap_eq_filter]
  apply List.filterMap_congr
  intro page _
  by_cases own : update.path = page.outputPath
  · cases stored : update.page? with
    | none => simp [edited, own, stored, Option.guard]
    | some page' =>
      have same : page'.outputPath = update.path := Update.path_of_page stored
      rw [own] at same
      simp [edited, own, stored, same, Option.guard]
  · simp [edited, own, Ne.symm own, Option.guard]

/-- The other pages stand in the list as they stood before. -/
theorem Indexed.others_listed (indexed : tree.Indexed) (update : Update) :
    ((update.operation.onTree tree).1.list.filter fun page => page.outputPath ≠ update.path) =
      tree.list.filter fun page => page.outputPath ≠ update.path := by
  rw [list_filter, list_filter, indexed.others_recorded]

/-- The other pages of a group stand in it as they stood before. -/
theorem Indexed.others_grouped (indexed : tree.Indexed) (update : Update) (name : Option Text) :
    (((update.operation.onTree tree).1.pagesIn name).filter fun page => page.outputPath ≠ update.path) =
      (tree.pagesIn name).filter fun page => page.outputPath ≠ update.path := by
  rw [pagesIn_eq, pagesIn_eq, List.filter_comm, indexed.others_listed, List.filter_comm]

end Tree

/-! ## Every tree -/

/-- The pages of every site that can be reached are those that operations make of no pages. Whatever has been
done, the pages are listed in the order of their places and then in the order in which they came, the groups
divide this list, and a change of one page leaves the other pages in the same order, all of them and those of
each group. -/
theorem navigation_of_operations :
    (∀ site : Site, site.Reachable → ∃ operations, site.pages = treeOf operations) ∧
      ∀ operations : List Operation,
        (treeOf operations).outputPaths = arrivals operations ∧
          Navigates (treeOf operations).records (treeOf operations).list ∧
          Grouped (treeOf operations).list (treeOf operations).groups ∧
          ∀ update : Update,
            (((treeOf operations).updated [update]).list.filter fun page => page.outputPath ≠ update.path) =
                ((treeOf operations).list.filter fun page => page.outputPath ≠ update.path) ∧
              ∀ name, ((((treeOf operations).updated [update]).pagesIn name).filter
                  fun page => page.outputPath ≠ update.path) =
                ((treeOf operations).pagesIn name).filter fun page => page.outputPath ≠ update.path := by
  constructor
  · intro site reachable
    exact reachable.exists_operations
  · intro operations
    have indexed := indexed_treeOf operations
    refine ⟨outputPaths_treeOf operations, (treeOf operations).navigates_list,
      (treeOf operations).grouped_groups, ?_⟩
    intro update
    constructor
    · exact indexed.others_listed update
    · intro name
      exact indexed.others_grouped update name

end DocSite.Site
