/-
# DocSite.Proofs.Doclet.Kinds -- doclets by kind

An adapter sorts the doclets it has read by kind. The kinds are in order, each once, and under a kind stand the
doclets of this kind as they follow one another among all doclets (`Categories.Sorts`): a doclet that is added
comes last among those of its kind (`Categories.lookup_add`), and no other kind sees it.
-/
import DocSite.Proofs.Doclet.Naming

set_option autoImplicit false

namespace DocSite.Doclet

open Text

variable {categories start : Categories} {kind : Text} {doclet : Json.Value} {doclets : List Json.Value}
  {kindOf : Json.Value → Text} {always : List Text}

namespace Categories

/-- Whether kinds are in order, each kind once. -/
def Ordered (categories : Categories) : Prop := categories.Pairwise fun a b => Text.compare a.1 b.1 = .lt

/-! ## One doclet more -/

theorem mem_add {category : Text × List Json.Value} (member : category ∈ categories.add kind doclet) :
    category.1 = kind ∨ category ∈ categories := by
  induction categories with
  | nil => exact .inl (congrArg Prod.fst (List.mem_singleton.mp member))
  | cons first rest ih =>
    unfold add at member
    split at member
    · exact (List.mem_cons.mp member).imp_left (congrArg Prod.fst)
    next same =>
      rcases List.mem_cons.mp member with rfl | later
      · exact .inl (Std.LawfulEqCmp.eq_of_compare same).symm
      · exact .inr (.tail _ later)
    · rcases List.mem_cons.mp member with rfl | later
      · exact .inr List.mem_cons_self
      · exact (ih later).imp_right (.tail _)

theorem ordered_add (ordered : categories.Ordered) (kind : Text) (doclet : Json.Value) :
    (categories.add kind doclet).Ordered := by
  induction categories with
  | nil => exact List.pairwise_singleton ..
  | cons first rest ih =>
    obtain ⟨ahead, later⟩ := List.pairwise_cons.mp ordered
    unfold add
    split
    next before =>
      refine List.pairwise_cons.mpr ⟨fun category member => ?_, ordered⟩
      rcases List.mem_cons.mp member with rfl | inside
      · exact before
      · exact Std.TransCmp.lt_trans before (ahead category inside)
    · exact List.pairwise_cons.mpr ⟨ahead, later⟩
    next after =>
      refine List.pairwise_cons.mpr ⟨fun category member => ?_, ih later⟩
      rcases mem_add member with same | inside
      · rw [same]
        exact Std.OrientedCmp.lt_of_gt after
      · exact ahead category inside

/-- A kind that comes before all others is none of them. -/
theorem lookup_eq_none_of_before (before : ∀ category ∈ categories, Text.compare kind category.1 = .lt) :
    categories.lookup kind = none := by
  rw [List.lookup_eq_none_iff]
  intro category member
  have differ : kind ≠ category.1 := by
    intro same
    have less := before category member
    have equal : Text.compare kind kind = .eq := Std.ReflCmp.compare_self
    rw [← same, equal] at less
    cases less
  simpa using differ

/-- A doclet comes last among those of its kind, and the other kinds stay as they are. -/
theorem lookup_add (ordered : categories.Ordered) (kind other : Text) (doclet : Json.Value) :
    (categories.add kind doclet).lookup other =
      if other = kind then some ((categories.lookup kind).getD [] ++ [doclet]) else categories.lookup other := by
  induction categories with
  | nil =>
    by_cases same : other = kind
    · simp [add, same]
    · simp [add, same, Association.lookup_cons_of_ne]
  | cons first rest ih =>
    obtain ⟨own, found⟩ := first
    obtain ⟨ahead, later⟩ := List.pairwise_cons.mp ordered
    unfold add
    split
    next before =>
      have new : ((own, found) :: rest).lookup kind = none := by
        refine lookup_eq_none_of_before fun category member => ?_
        rcases List.mem_cons.mp member with rfl | inside
        · exact before
        · exact Std.TransCmp.lt_trans before (ahead category inside)
      by_cases same : other = kind
      · subst same
        rw [List.lookup_cons_self, if_pos rfl, new]
        rfl
      · rw [Association.lookup_cons_of_ne _ _ same, if_neg same]
    next same =>
      obtain rfl := Std.LawfulEqCmp.eq_of_compare same
      by_cases same : other = kind
      · subst same
        rw [List.lookup_cons_self, if_pos rfl, List.lookup_cons_self]
        rfl
      · rw [Association.lookup_cons_of_ne _ _ same, if_neg same, Association.lookup_cons_of_ne _ _ same]
    next after =>
      have differ : kind ≠ own := by
        rintro rfl
        have equal : Text.compare kind kind = .eq := Std.ReflCmp.compare_self
        rw [equal] at after
        cases after
      rw [Association.lookup_cons_of_ne _ _ differ]
      by_cases same : other = own
      · subst same
        rw [List.lookup_cons_self, List.lookup_cons_self, if_neg differ.symm]
      · rw [Association.lookup_cons_of_ne _ _ same, Association.lookup_cons_of_ne _ _ same, ih later]

/-! ## A list of doclets -/

/-- Whether doclets are sorted by kind: the kinds are in order, each once; they are those that are always there
and those of the doclets, and each of them has its doclets in the order of the list; and no doclet is missing or
there twice. -/
structure Sorts (kindOf : Json.Value → Text) (always : List Text) (doclets : List Json.Value)
    (categories : Categories) : Prop where
  ordered : categories.Ordered
  found : ∀ kind, categories.lookup kind =
    if kind ∈ always ∨ kind ∈ doclets.map kindOf then
      some (doclets.filter fun doclet => kindOf doclet = kind)
    else none
  perm : (categories.flatMap Prod.snd).Perm doclets

theorem Sorts.getD (sorts : Sorts kindOf always doclets categories) (kind : Text) :
    (categories.lookup kind).getD [] = doclets.filter fun doclet => kindOf doclet = kind := by
  rw [sorts.found]
  split
  · rfl
  next other =>
    rw [not_or] at other
    refine (List.filter_eq_nil_iff.mpr fun doclet member => ?_).symm
    simpa using fun same => other.2 (List.mem_map.mpr ⟨doclet, member, same⟩)

/-- The kinds that are always there have no doclets at first. -/
theorem sorts_start (ordered : start.Ordered) (empty : ∀ category ∈ start, category.2 = []) :
    Sorts kindOf (start.map Prod.fst) [] start where
  ordered := ordered
  found := by
    intro kind
    cases found : start.lookup kind with
    | none =>
      have unknown : kind ∉ start.map Prod.fst := by
        rintro member
        obtain ⟨category, inside, rfl⟩ := List.mem_map.mp member
        simpa using List.lookup_eq_none_iff.mp found category inside
      simp only [unknown, List.map_nil, List.not_mem_nil, or_self, if_false]
    | some own =>
      obtain ⟨before, after, same, -⟩ := List.lookup_eq_some_iff.mp found
      have member : (kind, own) ∈ start := by simp [same]
      obtain rfl : own = [] := empty _ member
      rw [if_pos (.inl (List.mem_map_of_mem member))]
      rfl
  perm := by
    rw [List.flatMap_eq_nil_iff.mpr fun category member => empty category member]

theorem Sorts.add (sorts : Sorts kindOf always doclets categories) (doclet : Json.Value) :
    Sorts kindOf always (doclets ++ [doclet]) (categories.add (kindOf doclet) doclet) where
  ordered := ordered_add sorts.ordered _ _
  found := by
    intro kind
    rw [lookup_add sorts.ordered, sorts.getD, sorts.found, List.filter_append, List.map_append]
    by_cases same : kind = kindOf doclet
    · subst same
      simp
    · simp [same, Ne.symm same]
  perm := (perm_add ..).trans (sorts.perm.append_right [doclet])

theorem sorts_categorizeBy (ordered : start.Ordered) (empty : ∀ category ∈ start, category.2 = [])
    (kindOf : Json.Value → Text) (doclets : List Json.Value) :
    Sorts kindOf (start.map Prod.fst) doclets (categorizeBy kindOf start doclets) := by
  induction doclets using List.reverseRecOn with
  | nil => exact sorts_start ordered empty
  | append_singleton doclets doclet ih =>
    have step : categorizeBy kindOf start (doclets ++ [doclet]) =
        (categorizeBy kindOf start doclets).add (kindOf doclet) doclet := by
      simp [categorizeBy]
    rw [step]
    exact ih.add doclet

end Categories

/-- The adapters of the library sort doclets by kind. -/
theorem Language.sorts_categorize (language : Language) (base : Path) (doclets : List Json.Value) :
    Categories.Sorts language.kindOf (language.kinds.map Prod.fst) doclets
      ((language.adapter base).categorize doclets) := by
  rw [language.categorize_adapter base]
  cases language with
  | sass =>
    have ordered : Categories.Ordered Language.sass.kinds := by
      unfold Categories.Ordered
      decide
    exact Categories.sorts_categorizeBy ordered (by simp [Language.kinds]) _ _
  | script => exact Categories.sorts_categorizeBy .nil nofun _ _

end DocSite.Doclet
