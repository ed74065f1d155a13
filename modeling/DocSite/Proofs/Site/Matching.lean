/-
# DocSite.Proofs.Site.Matching -- predicates are a preorder, and finer ones find less

Whether a value matches another one is decided field by field and item by item (`fieldsMatch_iff`,
`itemsMatch_iff`), down to values without parts. So matching goes on through a third value
(`valueMatches_trans`, along the fields and the items of the last one), and every value that JSON has matches
itself (`valueMatches_refl`). Whatever matches a predicate then matches what the predicate matches, so that
a finer predicate finds some of the same doclets, in the same order (`predicates_narrow`).
-/
import DocSite.Proofs.Doclet.Wellformed
import DocSite.Proofs.Site.Doclets

set_option autoImplicit false

/-! ## Numbers -/

namespace DocSite.Binary64

theorem same_self {x : Binary64} (finite : x.isFinite = true) : x.same x = true := by
  cases x with
  | finite negative mantissa exponent => cases mantissa <;> simp [same]
  | infinite negative => cases finite
  | nan => cases finite

/-- Equality as numbers is equality, but for the zeros, which are one number. -/
theorem same_iff {x y : Binary64} : x.same y = true ↔
    x = y ∧ x ≠ nan ∨ ∃ n e n' e', x = finite n 0 e ∧ y = finite n' 0 e' := by
  unfold same
  split
  · simp
  · simp
  · simp
  next missing _ apart =>
    rw [decide_eq_true_iff]
    constructor
    · exact fun same => .inl ⟨same, missing⟩
    · rintro (⟨same, -⟩ | ⟨n, e, n', e', rfl, rfl⟩)
      · exact same
      · exact absurd rfl (apart n e n' e' rfl)

theorem same_trans {x y z : Binary64} (first : x.same y = true) (second : y.same z = true) :
    x.same z = true := by
  rcases same_iff.mp first with ⟨rfl, -⟩ | ⟨n, e, n', e', rfl, rfl⟩
  · exact second
  · rcases same_iff.mp second with ⟨rfl, -⟩ | ⟨-, -, n'', e'', -, rfl⟩
    · exact first
    · exact same_iff.mpr (.inr ⟨n, e, n'', e'', rfl, rfl⟩)

end DocSite.Binary64

namespace DocSite.Site

open Text
open Json (Fields)
open Doclet (Language)
open Page (Record Docs DocletPlace)

variable {a b c : Json.Value} {fields : Fields} {items wanted : List Json.Value}

/-! ## One value -/

theorem fieldsMatch_iff : fieldsMatch a fields = true ↔
    ∀ field ∈ fields, ∃ value, a.get? field.1 = some value ∧ valueMatches value field.2 = true := by
  induction fields with
  | nil => simp [fieldsMatch]
  | cons field fields ih =>
    obtain ⟨name, expected⟩ := field
    rw [fieldsMatch, Bool.and_eq_true, Option.any_eq_true, List.forall_mem_cons, ih]

theorem itemsMatch_iff : itemsMatch items wanted = true ↔
    ∀ expected ∈ wanted, ∃ item ∈ items, valueMatches item expected = true := by
  induction wanted with
  | nil => simp [itemsMatch]
  | cons expected wanted ih =>
    rw [itemsMatch, Bool.and_eq_true, List.any_eq_true, List.forall_mem_cons, ih]

/-- What matches a list is a list. -/
theorem matches_array : valueMatches a (.array wanted) = true ↔
    ∃ items, a = .array items ∧ itemsMatch items wanted = true := by
  cases a with
  | array items => simp [valueMatches]
  | _ => simp [valueMatches]

/-- What matches fields has them, and nothing but an object has fields. -/
theorem exists_field {name : Text} {value : Json.Value} (found : b.get? name = some value) :
    ∃ fields, b = .object fields ∧ (name, value) ∈ fields := by
  cases b with
  | object fields => exact ⟨fields, rfl, Association.mem_of_lookup ((Fields.get_eq_lookup ..).symm.trans found)⟩
  | _ => cases found

/-- Whether a value is text, a whole number, a truth value, or nothing. -/
def isPlain : Json.Value → Bool
  | .null | .bool _ | .int _ | .string _ => true
  | .float _ | .array _ | .object _ => false

theorem eq_of_same (plain : isPlain b = true) (same : a.same b = true) : a = b := by
  cases b with
  | float | array | object => cases plain
  | _ => cases a <;> simp_all [Json.Value.same]

theorem exists_number {number : Binary64} (same : a.same (.float number) = true) :
    ∃ own, a = .float own ∧ own.same number = true := by
  cases a with
  | float own => exact ⟨own, rfl, same⟩
  | _ => cases same

/-! ## Matching is a preorder -/

/-- Every value that JSON has matches itself. -/
theorem valueMatches_refl (wellformed : a.Wellformed) : valueMatches a a = true := by
  induction wellformed with
  | null => rfl
  | bool value => simp [valueMatches, Json.Value.same]
  | int n => simp [valueMatches, Json.Value.same]
  | float finite => exact Binary64.same_self finite
  | string text => simp [valueMatches, Json.Value.same]
  | array each ih => exact itemsMatch_iff.mpr fun item member => ⟨item, member, ih item member⟩
  | object once each ih =>
    exact fieldsMatch_iff.mpr fun field member =>
      ⟨field.2, (Fields.get_eq_some once).mpr member, ih field member⟩

mutual
/-- What matches a value matches all that the value matches. -/
theorem valueMatches_trans (a b : Json.Value) (first : valueMatches a b = true) :
    ∀ c, valueMatches b c = true → valueMatches a c = true
  | .object wanted, second => fieldsMatch_trans a b first wanted second
  | .array wanted, second => by
    obtain ⟨middle, rfl, second⟩ := matches_array.mp second
    obtain ⟨items, rfl, first⟩ := matches_array.mp first
    exact matches_array.mpr ⟨items, rfl, itemsMatch_trans items middle first wanted second⟩
  | .null, second => eq_of_same rfl second ▸ first
  | .bool value, second => eq_of_same rfl second ▸ first
  | .int n, second => eq_of_same rfl second ▸ first
  | .string text, second => eq_of_same rfl second ▸ first
  | .float number, second => by
    obtain ⟨middle, rfl, second⟩ := exists_number second
    obtain ⟨own, rfl, first⟩ := exists_number first
    exact Binary64.same_trans first second

theorem fieldsMatch_trans (a b : Json.Value) (first : valueMatches a b = true) :
    ∀ wanted : List (Text × Json.Value), fieldsMatch b wanted = true → fieldsMatch a wanted = true
  | [], _ => rfl
  | (name, expected) :: rest, second => by
    rw [fieldsMatch, Bool.and_eq_true, Option.any_eq_true] at second ⊢
    obtain ⟨⟨value, found, here⟩, later⟩ := second
    obtain ⟨fields, rfl, member⟩ := exists_field found
    obtain ⟨own, found', matched⟩ := fieldsMatch_iff.mp first _ member
    exact ⟨⟨own, found', valueMatches_trans own value matched expected here⟩,
      fieldsMatch_trans a _ first rest later⟩

theorem itemsMatch_trans (items middle : List Json.Value) (first : itemsMatch items middle = true) :
    ∀ wanted : List Json.Value, itemsMatch middle wanted = true → itemsMatch items wanted = true
  | [], _ => rfl
  | expected :: rest, second => by
    rw [itemsMatch, Bool.and_eq_true, List.any_eq_true] at second ⊢
    obtain ⟨⟨value, member, here⟩, later⟩ := second
    obtain ⟨own, member', matched⟩ := itemsMatch_iff.mp first value member
    exact ⟨⟨own, member', valueMatches_trans own value matched expected here⟩,
      itemsMatch_trans items middle first rest later⟩
end

/-! ## Finding doclets -/

/-- All doclets that an adapter has found for a page, by kind. -/
def docletsOf (docs : List (Text × Docs)) (adapter : Text) : List Json.Value :=
  ((docs.lookup adapter).map Docs.doclets).getD []

variable {docs : List (Text × Docs)} {page : Record} {adapter : Text} {p q : Fields}

theorem find_eq_filter (docs : List (Text × Docs)) (adapter : Text) (predicate : Json.Value) :
    Renderer.find docs adapter predicate =
      (docletsOf docs adapter).filter fun doclet => matchesPredicate doclet predicate := by
  rw [Renderer.find, docletsOf]
  cases docs.lookup adapter <;> rfl

/-- What matches a predicate of some fields matches one that these fields match. -/
theorem matchesPredicate_of_finer (finer : valueMatches (.object q) (.object p) = true) {doclet : Json.Value}
    (matched : matchesPredicate doclet (.object q) = true) : matchesPredicate doclet (.object p) = true :=
  valueMatches_trans doclet (.object q) matched (.object p) finer

theorem find_sublist_find (finer : valueMatches (.object q) (.object p) = true) :
    (Renderer.find docs adapter (.object q)).Sublist (Renderer.find docs adapter (.object p)) := by
  rw [find_eq_filter, find_eq_filter]
  exact List.monotone_filter_right _ fun _ matched => matchesPredicate_of_finer finer matched

/-- The doclets of an adapter stand by kind, and those of a kind as they were found. -/
theorem exists_placed (ordered : page.InOrder) (adapter : Text) :
    ∃ placed : List (DocletPlace × Json.Value),
      docletsOf page.docs adapter = placed.map Prod.snd ∧ (placed.Pairwise fun a b => a.1.Before b.1) ∧
        ∀ place doclet, (place, doclet) ∈ placed ↔ place.adapter = adapter ∧ page.Holds place doclet := by
  have distinct : (page.docs.map Prod.fst).Nodup := Text.nodup_of_ascending ordered.docs
  cases found : page.docs.lookup adapter with
  | none =>
    refine ⟨[], by rw [docletsOf, found]; rfl, .nil, fun place doclet => ⟨nofun, ?_⟩⟩
    rintro ⟨rfl, categories, own, member, -⟩
    rw [(Association.lookup_eq_some distinct).mpr member] at found
    cases found
  | some entry =>
    refine ⟨Record.placedDocs (adapter, entry), ?_, ?_, fun place doclet => ?_⟩
    · rw [Record.map_placedDocs, docletsOf, found]
      rfl
    · refine Record.ascending_placedDocs fun categories same => ordered.kinds adapter categories ?_
      rw [← same]
      exact Association.mem_of_lookup found
    · rw [Record.mem_placedDocs]
      constructor
      · rintro ⟨categories, own, same, inside, here⟩
        cases same
        exact ⟨rfl, categories, own, Association.mem_of_lookup found, inside, here⟩
      · rintro ⟨rfl, categories, own, member, inside, here⟩
        rw [(Association.lookup_eq_some distinct).mpr member] at found
        cases found
        exact ⟨categories, own, rfl, inside, here⟩

/-- Matching is a preorder on the values that JSON has, so that a doclet matches itself as a predicate, also
each one that an adapter of the library finds. A predicate that matches another one finds some of what the other
one finds, in the same order; and what is found are doclets of the adapter as they stand by kind. -/
theorem predicates_narrow :
    (∀ a : Json.Value, a.Wellformed → valueMatches a a = true) ∧
    (∀ a b c : Json.Value, valueMatches a b = true → valueMatches b c = true → valueMatches a c = true) ∧
    (∀ doclet : Fields, (Json.Value.object doclet).Wellformed →
      matchesPredicate (.object doclet) (.object doclet) = true) ∧
    (∀ (language : Language) (base : Path) (files : FileTree) (reference : Yaml.Value)
      (doclets : List Json.Value), (language.adapter base).parse files reference = .ok doclets →
        ∀ doclet ∈ doclets, matchesPredicate doclet doclet = true) ∧
    ∀ (page : Record) (adapter : Text) (p q : Fields), valueMatches (.object q) (.object p) = true →
      (Renderer.find page.docs adapter (.object q)).Sublist (Renderer.find page.docs adapter (.object p)) ∧
      (Renderer.find page.docs adapter (.object p)).Sublist (docletsOf page.docs adapter) ∧
      (page.InOrder → ∃ placed : List (DocletPlace × Json.Value),
        docletsOf page.docs adapter = placed.map Prod.snd ∧ (placed.Pairwise fun a b => a.1.Before b.1) ∧
          ∀ place doclet, (place, doclet) ∈ placed ↔ place.adapter = adapter ∧ page.Holds place doclet) := by
  refine ⟨fun a => valueMatches_refl, fun a b c first => valueMatches_trans a b first c,
    fun doclet => valueMatches_refl, ?_, ?_⟩
  · intro language base files reference doclets parsed doclet member
    obtain ⟨fields, rfl, wellformed⟩ := language.wellformed_parse parsed doclet member
    exact valueMatches_refl wellformed
  · intro page adapter p q finer
    refine ⟨find_sublist_find finer, ?_, fun ordered => exists_placed ordered adapter⟩
    rw [find_eq_filter]
    exact List.filter_sublist

/-- A predicate for variables. -/
def isVariable : Fields := [("context".toList, .object [("type".toList, .string "variable".toList)])]

/-- A predicate for variables called `gap`. -/
def isGap : Fields :=
  [("context".toList, .object [("name".toList, .string "gap".toList), ("type".toList, .string "variable".toList)])]

theorem gap_wellformed : (Json.Value.object isGap).Wellformed := by
  refine .object (by decide) (List.forall_mem_singleton.mpr (.object (by decide) ?_))
  simp only [List.forall_mem_cons]
  exact ⟨.string _, .string _, nofun⟩

/-- Of the two variables on the page, the finer predicate finds one. The three doclets of a source each match
themselves. -/
theorem gap_is_found_among_variables :
    (Json.Value.object isGap).Wellformed ∧ valueMatches (.object isGap) (.object isVariable) = true ∧
      valueMatches (sassDoclet "variable" "gap") (.object isGap) = true ∧ manual.InOrder ∧
      (valueMatches (.object isGap) (.object isGap) = true ∧
        valueMatches (sassDoclet "variable" "gap") (.object isVariable) = true ∧
        matchesPredicate (.object isGap) (.object isGap) = true) ∧
      (∃ doclets, (Language.sass.adapter ⟨[]⟩).parse paletteFiles (.string "a.scss".toList) = .ok doclets ∧
        doclets.length = 3 ∧ ∀ doclet ∈ doclets, matchesPredicate doclet doclet = true) ∧
      (Renderer.find manual.docs "sass".toList (.object isGap)).map (Language.subject? .sass) =
        [some "gap".toList] ∧
      (Renderer.find manual.docs "sass".toList (.object isVariable)).map (Language.subject? .sass) =
        [some "gap".toList, some "edge".toList] ∧
      (Renderer.find manual.docs "sass".toList (.object isGap)).Sublist
        (Renderer.find manual.docs "sass".toList (.object isVariable)) ∧
      (Renderer.find manual.docs "sass".toList (.object isVariable)).Sublist
        (docletsOf manual.docs "sass".toList) ∧
      ∃ placed : List (DocletPlace × Json.Value),
        docletsOf manual.docs "sass".toList = placed.map Prod.snd ∧
          (placed.Pairwise fun a b => a.1.Before b.1) ∧
          ∀ place doclet, (place, doclet) ∈ placed ↔
            place.adapter = "sass".toList ∧ manual.Holds place doclet := by
  have finer : valueMatches (.object isGap) (.object isVariable) = true := by decide +kernel
  have own : valueMatches (sassDoclet "variable" "gap") (.object isGap) = true := by decide +kernel
  have counted : ((Language.sass.adapter ⟨[]⟩).parse paletteFiles (.string "a.scss".toList)).toOption.map
      List.length = some 3 := by decide +kernel
  obtain ⟨reflexive, transitive, itself, adapters, narrows⟩ := predicates_narrow
  obtain ⟨less, all, placed⟩ := narrows manual "sass".toList isVariable isGap finer
  cases parsed : (Language.sass.adapter ⟨[]⟩).parse paletteFiles (.string "a.scss".toList) with
  | error e =>
    rw [parsed] at counted
    cases counted
  | ok doclets =>
    rw [parsed] at counted
    exact ⟨gap_wellformed, finer, own, manual_inOrder,
      ⟨reflexive _ gap_wellformed, transitive _ _ _ own finer, itself isGap gap_wellformed⟩,
      ⟨doclets, rfl, Option.some.inj counted, adapters .sass ⟨[]⟩ _ _ doclets parsed⟩,
      by decide +kernel, by decide +kernel, less, all, placed manual_inOrder⟩

end DocSite.Site
