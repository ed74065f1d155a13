/-
# DocSite.Proofs.Page.Asked -- the documentation that front matter asks for

Front matter asks for documentation by the entries of a mapping. The mapping has each key once, as all mappings that
are read from a source do (`FrontMatter.wellformed_extract`). If no key carries a tag, the names that are asked for
are the strings among the keys, in the same order and each once (`mem_docs`, `nodup_docs`, `exists_first`).
-/
import DocSite.Proofs.Page.Extraction
import DocSite.Proofs.Yaml.Wellformed

set_option autoImplicit false

namespace DocSite.Page.FrontMatter

open Yaml (Value)

variable {fm : FrontMatter} {name source body : Text} {reference : Value}

/-- Whether no mapping in front matter has the same key twice. -/
def Wellformed (fm : FrontMatter) : Prop := (Value.mapping fm.entries).Wellformed

/-- The entries of the mapping that asks for documentation. -/
def docsEntries (fm : FrontMatter) : Yaml.Entries :=
  ((fm.get? "docs".toList).bind Value.mapping?).getD []

/-- Whether no key of that mapping carries a tag. -/
def Untagged (fm : FrontMatter) : Prop := ∀ entry ∈ fm.docsEntries, ∀ tag key, entry.1 ≠ .tagged tag key

theorem wellformed_extract (extracted : extract source = .ok (fm, body)) : fm.Wellformed := by
  have extracts := extracts_extractWith .yaml source
  rw [← extract, extracted] at extracts
  generalize same : (Except.ok (fm, body) : Except Error (FrontMatter × Text)) = result at extracts
  cases extracts with
  | plain =>
    cases same
    exact .empty
  | unclosed => cases same
  | closed _ declares =>
    cases declares with
    | blank | null =>
      cases same
      exact .empty
    | mapping _ read =>
      cases same
      exact Yaml.wellformed_read read
    | other | invalid => cases same

/-- Without tags, what counts as a string is one. -/
theorem string_eq_some {key : Value} (bare : ∀ tag value, key ≠ .tagged tag value) :
    key.string? = some name ↔ key = .string name := by
  cases key with
  | string text => rw [Value.string?, Option.some.injEq, Value.string.injEq]
  | tagged tag value => exact absurd rfl (bare tag value)
  | _ => exact ⟨nofun, nofun⟩

theorem docs_eq (fm : FrontMatter) :
    fm.docs = fm.docsEntries.filterMap fun entry => entry.1.string?.map (·, entry.2) := rfl

theorem asked_eq_some {entry : Value × Value} (bare : ∀ tag key, entry.1 ≠ .tagged tag key) :
    entry.1.string?.map (·, entry.2) = some (name, reference) ↔ entry = (.string name, reference) := by
  rw [Option.map_eq_some_iff]
  constructor
  · rintro ⟨text, string, same⟩
    cases same
    exact Prod.ext ((string_eq_some bare).mp string) rfl
  · rintro rfl
    exact ⟨name, rfl, rfl⟩

theorem mem_docs (untagged : fm.Untagged) :
    (name, reference) ∈ fm.docs ↔ (Value.string name, reference) ∈ fm.docsEntries := by
  rw [docs_eq, List.mem_filterMap]
  constructor
  · rintro ⟨entry, member, asked⟩
    exact (asked_eq_some (untagged entry member)).mp asked ▸ member
  · exact fun member => ⟨_, member, rfl⟩

theorem distinct_docsEntries (wellformed : fm.Wellformed) : fm.docsEntries.Distinct := by
  unfold docsEntries
  cases found : (fm.get? "docs".toList).bind Value.mapping? with
  | none => exact .nil
  | some entries =>
    obtain ⟨value, member, mapping⟩ := Option.bind_eq_some_iff.mp found
    exact (wellformed.of_mapping.2.2 _ (Yaml.Entries.mem_of_get member)).distinct mapping

/-- Each name is asked for once. -/
theorem nodup_docs (wellformed : fm.Wellformed) (untagged : fm.Untagged) : (fm.docs.map Prod.fst).Nodup := by
  rw [List.Nodup, List.pairwise_map, docs_eq]
  refine (List.Pairwise.and_mem.mp (distinct_docsEntries wellformed)).filterMap _ ?_
  rintro entry entry' ⟨member, member', differ⟩ ⟨name, reference⟩ asked ⟨name', reference'⟩ asked'
  obtain rfl := (asked_eq_some (untagged entry member)).mp asked
  obtain rfl := (asked_eq_some (untagged entry' member')).mp asked'
  rw [Value.same, beq_eq_false_iff_ne] at differ
  exact differ.symm

/-- The first name with some property that is asked for stands for the first entry of a string that has it. -/
theorem exists_first (untagged : fm.Untagged) (P : Text → Value → Prop) :
    (∃ before after, fm.docs = before ++ (name, reference) :: after ∧ ∀ earlier ∈ before, P earlier.1 earlier.2) ↔
      ∃ before after, fm.docsEntries = before ++ (.string name, reference) :: after ∧
        ∀ name reference, (Value.string name, reference) ∈ before → P name reference := by
  constructor
  · rintro ⟨before, after, split, each⟩
    rw [docs_eq, List.filterMap_eq_append_iff] at split
    obtain ⟨first, second, whole, asked, more⟩ := split
    obtain ⟨skipped, entry, rest, rfl, none, here, -⟩ := List.filterMap_eq_cons_iff.mp more
    have member : entry ∈ fm.docsEntries := by simp [whole]
    obtain rfl := (asked_eq_some (untagged entry member)).mp here
    refine ⟨first ++ skipped, rest, by rw [whole, List.append_assoc], fun name reference earlier => ?_⟩
    rcases List.mem_append.mp earlier with inside | inside
    · exact each (name, reference) (asked ▸ List.mem_filterMap.mpr ⟨_, inside, rfl⟩)
    · cases none _ inside
  · rintro ⟨before, after, split, each⟩
    refine ⟨before.filterMap fun entry => entry.1.string?.map (·, entry.2),
      after.filterMap fun entry => entry.1.string?.map (·, entry.2), ?_, fun earlier member => ?_⟩
    · rw [docs_eq, split, List.filterMap_append, List.filterMap_cons]
      rfl
    · obtain ⟨entry, inside, asked⟩ := List.mem_filterMap.mp member
      obtain rfl := (asked_eq_some (untagged entry (by simp [split, inside]))).mp asked
      exact each _ _ inside

end DocSite.Page.FrontMatter
