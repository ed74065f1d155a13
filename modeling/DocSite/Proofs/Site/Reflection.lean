/-
# DocSite.Proofs.Site.Reflection -- pages that reflect their sources

A tree of pages `Reflects` sources if its pages are those that are read of them. Reading a source again
and removing one keep a tree up to date (`Reflects.upsert`, `Reflects.remove`), and a build makes such a
tree (`reflects_build`). Two trees that reflect the same sources have the same page under each output
path, and list the same pages in the same order, but for the order of pages of the same place
(`Reflects.get_eq`, `Reflects.list_perm`, `Reflects.orders_eq`).
-/
import DocSite.Proofs.Site.Kept
import DocSite.Proofs.Text.Order

set_option autoImplicit false

namespace DocSite.Site

open Text
open Page (Record)

/-- What is read of a source. -/
abbrev Results := Path → Except PageError (Option Record)

/-- Whether the pages of a tree are those that are read of some sources. -/
structure Reflects (read : Results) (source : Path → Prop) (tree : Tree) : Prop where
  indexed : tree.Indexed
  page : ∀ page, page ∈ tree.records ↔ ∃ path, source path ∧ read path = .ok (some page)

namespace Tree

variable {tree : Tree} {page other : Record} {outputPath : Text}

theorem Indexed.mem_upsert (indexed : tree.Indexed) (mode : UpsertMode) :
    other ∈ (tree.upsert page mode).1.records ↔
      other = page ∨ (other ∈ tree.records ∧ other.outputPath ≠ page.outputPath) := by
  have member : ∀ {tree : Tree}, tree.Indexed →
      (other ∈ tree.records ↔ tree.get? other.outputPath = some other) :=
    fun indexed => by simp [indexed.get_eq_some]
  rw [member (indexed_upsert indexed page mode), indexed.get_upsert, member indexed]
  by_cases here : other.outputPath = page.outputPath
  · simp [here, eq_comm]
  · have different : other ≠ page := fun same => here (congrArg _ same)
    simp [here, different]

theorem Indexed.mem_remove (indexed : tree.Indexed) :
    page ∈ (tree.remove outputPath).1.records ↔
      page ∈ tree.records ∧ page.outputPath ≠ outputPath := by
  rw [indexed.records_without]
  simp

theorem Indexed.nodup (indexed : tree.Indexed) : tree.records.Nodup := indexed.distinct.of_map _

theorem comesBefore_asymm {a b : Option Int} (ahead : comesBefore a b = true) : comesBefore b a = false := by
  revert ahead
  cases a <;> cases b <;> simp [comesBefore]
  omega

/-- What is between two places is behind the first or ahead of the second. -/
theorem comesBefore_splits {a c : Option Int} (b : Option Int) (ahead : comesBefore a c = true) :
    comesBefore a b = true ∨ comesBefore b c = true := by
  revert ahead
  cases a <;> cases b <;> cases c <;> simp [comesBefore]
  omega

end Tree

namespace Reflects

variable {read read' : Results} {source source' : Path → Prop} {tree other : Tree} {path : Path}
  {page : Record} {outputPath : Path → Text}

/-- A tree is up to date when a source has been read again, whether it is new or has changed. -/
theorem upsert (reflects : Reflects read source tree)
    (own : ∀ path page, read path = .ok (some page) → page.outputPath = outputPath path)
    (now : read' path = .ok (some page)) (named : page.outputPath = outputPath path)
    (same : ∀ other, other ≠ path → source other → read' other = read other)
    (sources : ∀ other, source' other ↔ other = path ∨ source other)
    (apart : ∀ other, source other → outputPath other = outputPath path → other = path)
    (mode : UpsertMode) : Reflects read' source' (tree.upsert page mode).1 where
  indexed := Tree.indexed_upsert reflects.indexed page mode
  page other := by
    rw [reflects.indexed.mem_upsert, reflects.page]
    constructor
    · rintro (rfl | ⟨⟨path', there, found⟩, different⟩)
      · exact ⟨path, (sources path).mpr (Or.inl rfl), now⟩
      · have elsewhere : path' ≠ path := by
          rintro rfl
          exact different ((own _ _ found).trans named.symm)
        exact ⟨path', (sources path').mpr (Or.inr there), (same _ elsewhere there).trans found⟩
    · rintro ⟨path', there, found⟩
      by_cases here : path' = path
      · rw [here, now] at found
        cases found
        exact Or.inl rfl
      · have before := ((sources path').mp there).resolve_left here
        rw [same _ here before] at found
        refine Or.inr ⟨⟨path', before, found⟩, fun equal => here (apart path' before ?_)⟩
        rw [← own _ _ found, equal, named]

/-- A tree is up to date when the page of a source that is gone has been dropped. -/
theorem remove (reflects : Reflects read source tree)
    (own : ∀ path page, read path = .ok (some page) → page.outputPath = outputPath path)
    (same : ∀ other, other ≠ path → source other → read' other = read other)
    (sources : ∀ other, source' other ↔ other ≠ path ∧ source other)
    (apart : ∀ other, source other → outputPath other = outputPath path → other = path) :
    Reflects read' source' (tree.remove (outputPath path)).1 where
  indexed := Tree.indexed_remove reflects.indexed _
  page page := by
    rw [reflects.indexed.mem_remove, reflects.page]
    constructor
    · rintro ⟨⟨path', there, found⟩, different⟩
      have elsewhere : path' ≠ path := by
        rintro rfl
        exact different (own _ _ found)
      exact ⟨path', (sources path').mpr ⟨elsewhere, there⟩, (same _ elsewhere there).trans found⟩
    · rintro ⟨path', there, found⟩
      obtain ⟨elsewhere, before⟩ := (sources path').mp there
      rw [same _ elsewhere before] at found
      refine ⟨⟨path', before, found⟩, fun equal => elsewhere (apart path' before ?_)⟩
      rw [← own _ _ found, equal]

/-- A tree stays up to date as long as its sources stay and are read as before. -/
theorem congr (reflects : Reflects read source tree)
    (same : ∀ path, source path → read' path = read path)
    (sources : ∀ path, source' path ↔ source path) : Reflects read' source' tree where
  indexed := reflects.indexed
  page page := by
    rw [reflects.page]
    constructor
    · rintro ⟨path, there, found⟩
      exact ⟨path, (sources path).mpr there, (same path there).trans found⟩
    · rintro ⟨path, there, found⟩
      have before := (sources path).mp there
      exact ⟨path, before, (same path before).symm.trans found⟩

theorem empty (read : Results) : Reflects read (fun _ => False) .empty where
  indexed := Tree.indexed_empty
  page page := by simp [Tree.empty]

/-- Taking in what is read of sources makes a tree that reflects them, if all of them give pages and no
two of them the same output path. -/
theorem takeIn_foldl {paths : List Path}
    (own : ∀ path page, read path = .ok (some page) → page.outputPath = outputPath path)
    (readable : ∀ path ∈ paths, ∃ page, read path = .ok (some page))
    (apart : ∀ path ∈ paths, ∀ other ∈ paths, outputPath other = outputPath path → other = path) :
    ∃ tree, Reflects read (· ∈ paths) tree ∧ (paths.map read).foldl
      (fun (tree, failures) result => takeIn tree failures result) (.empty, []) = (tree, []) := by
  induction paths using List.reverseRecOn with
  | nil => exact ⟨.empty, (empty read).congr (fun _ _ => rfl) (by simp), rfl⟩
  | append_singleton paths path ih =>
    obtain ⟨tree, reflects, folded⟩ := ih
      (fun path member => readable path (List.mem_append_left _ member))
      fun path member other member' =>
        apart path (List.mem_append_left _ member) other (List.mem_append_left _ member')
    obtain ⟨page, now⟩ := readable path (by simp)
    refine ⟨(tree.upsert page .full).1, ?_, ?_⟩
    · exact reflects.upsert own now (own _ _ now) (fun _ _ _ => rfl) (by simp [or_comm])
        (fun other member => apart path (by simp) other (List.mem_append_left _ member)) .full
    · rw [List.map_append, List.foldl_append, folded]
      simp [now, takeIn]

/-! ## Trees that reflect the same sources -/

variable (first : Reflects read source tree) (second : Reflects read source other)
include first second

theorem mem_iff (page : Record) : page ∈ tree.records ↔ page ∈ other.records := by
  rw [first.page, second.page]

theorem get_eq (outputPath : Text) : tree.get? outputPath = other.get? outputPath := by
  ext page
  rw [first.indexed.get_eq_some, second.indexed.get_eq_some, mem_iff first second]

theorem records_perm : tree.records.Perm other.records :=
  (List.perm_ext_iff_of_nodup first.indexed.nodup second.indexed.nodup).mpr (mem_iff first second)

theorem list_perm : tree.list.Perm other.list :=
  (sortBy_perm _).trans ((records_perm first second).trans (sortBy_perm _).symm)

omit first second in
theorem comesBefore_total {a b : Option Int} (notAfter : Tree.comesBefore a b = false)
    (notBefore : Tree.comesBefore b a = false) : a = b := by
  cases a <;> cases b <;> simp [Tree.comesBefore] at notAfter notBefore ⊢
  omega

omit first second in
theorem ordered_list (tree : Tree) : (tree.list.map (·.order)).Pairwise fun a b =>
    Tree.comesBefore b a = false :=
  List.pairwise_map.mpr (sortBy_ordered (fun _ _ => Tree.comesBefore_asymm)
    (transitive_of_splits (fun _ _ => Tree.comesBefore_asymm) fun _ b _ => Tree.comesBefore_splits b.order)
    tree.records)

/-- Navigation through the two trees goes through the same places in the same order. -/
theorem orders_eq : tree.list.map (·.order) = other.list.map (·.order) :=
  List.Perm.eq_of_pairwise (fun _ _ _ _ before after => comesBefore_total after before)
    (ordered_list tree) (ordered_list other) ((list_perm first second).map _)

end Reflects

/-! ## Builds -/

variable {site : Site} {layouts : Layouts} {t : FileTree} {paths : List Path}

/-- The source of a page is all that its output path depends on. -/
theorem own_outputPath {reader : PageReader} (path : Path) (page : Record)
    (read : (reader.read t [] path).page = .ok (some page)) :
    page.outputPath = reader.outputPath path := (page_of_read read).2

/-- A build makes a tree that reflects the sources it is given, if all of them give pages and no two of
them the same output path. -/
theorem reflects_build (engine : site.engine = layouts.engine)
    (faithful : layouts.Faithful t site.kept)
    (readable : ∀ path ∈ paths, ∃ page, (site.reader.read t [] path).page = .ok (some page))
    (apart : ∀ path ∈ paths, ∀ other ∈ paths,
      site.outputPath other = site.outputPath path → other = path) :
    Reflects (fun path => (site.reader.read t [] path).page) (· ∈ paths)
        (site.build t paths).1.pages ∧
      layouts.Faithful t (site.build t paths).1.kept ∧ (site.build t paths).2.failures = [] := by
  have engine' : site.reader.engine = layouts.engine := engine
  obtain ⟨results, found⟩ := readAll_eq engine' t site.kept paths
  have alone : ∀ path, (site.reader.read t site.kept path).page = (site.reader.read t [] path).page :=
    fun path => read_page engine' faithful (fun _ _ => rfl) rfl
  obtain ⟨tree, reflects, folded⟩ := Reflects.takeIn_foldl own_outputPath readable apart
  have built : (site.build t paths) =
      ({ site with pages := tree, kept := (readAll t site.reader site.kept paths).2 },
        ⟨tree.size, []⟩) := by
    have clear : site.pages.clear = .empty := rfl
    simp only [build, results, alone, clear, folded]
  rw [built]
  exact ⟨reflects, found.trans faithful, rfl⟩

end DocSite.Site
