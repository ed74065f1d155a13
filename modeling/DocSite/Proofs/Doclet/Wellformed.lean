/-
# DocSite.Proofs.Doclet.Wellformed -- doclets are values that JSON has

A doclet is an object of pairs: the annotations that it keeps, which are lists of texts
(`Comment.wellformed_fieldsExcept`), and the fields of its own. So every doclet that an adapter of the library
finds is wellformed (`Language.wellformed_parse`).
-/
import DocSite.Proofs.Doclet.Naming

set_option autoImplicit false

namespace DocSite.Doclet

open Json (Fields)

variable {comment : Comment}

theorem Comment.wellformed_fieldsExcept (skipped : List Text) (comment : Comment) :
    ∀ field ∈ comment.fieldsExcept skipped, field.2.Wellformed := by
  rw [fieldsExcept_eq_foldl]
  generalize comment.annotations.filter _ = annotations
  induction annotations using List.reverseRecOn with
  | nil => nofun
  | append_singleton annotations a ih =>
    rw [List.foldl_append]
    intro field member
    rcases Fields.mem_insert member with rfl | before
    · refine .array fun item inside => ?_
      rcases List.mem_append.mp inside with old | new
      · cases found : (Fields.get? a.name (annotations.foldl addField [])).bind Json.Value.items? with
        | none =>
          rw [found] at old
          cases old
        | some items =>
          rw [found] at old
          obtain ⟨value, here, same⟩ := Option.bind_eq_some_iff.mp found
          have wellformed := ih _ (Association.mem_of_lookup ((Fields.get_eq_lookup ..).symm.trans here))
          cases wellformed with
          | array each =>
            cases same
            exact each item old
          | _ => cases same
      · rw [List.mem_singleton.mp new]
        exact .string _
    · exact ih field before

theorem wellformed_presentFields (fields : List (String × Option Text)) :
    (Json.Value.object (presentFields fields)).Wellformed := by
  refine .ofPairs fun pair member => ?_
  obtain ⟨⟨name, value⟩, -, same⟩ := List.mem_filterMap.mp member
  obtain ⟨text, -, rfl⟩ := Option.map_eq_some_iff.mp same
  exact .string text

theorem wellformed_params (values : List Text) : (Json.Value.array (values.map readParam)).Wellformed := by
  refine .array fun param member => ?_
  obtain ⟨value, -, rfl⟩ := List.mem_map.mp member
  exact wellformed_presentFields _

theorem wellformed_typed (value : Text) : (readTyped value).Wellformed := wellformed_presentFields _

theorem Sass.Item.wellformed_context (line : Nat) (item : Sass.Item) : (item.context line).Wellformed := by
  have place : (Json.Value.record [("start", .int line)]).Wellformed :=
    .record (List.forall_mem_singleton.mpr (.int line))
  refine .record ?_
  simp only [List.forall_mem_append, List.forall_mem_cons]
  refine ⟨⟨⟨.string _, .string _, nofun⟩, ?_⟩, place, nofun⟩
  cases item with
  | «variable» name value => exact List.forall_mem_singleton.mpr (.string value)
  | _ => nofun

theorem Sass.wellformed_doclet (comment : Comment) (item : Sass.Item) (line : Nat) (file : Text) :
    (Sass.doclet comment item line file).Wellformed := by
  have source : (Json.Value.record [("path", .string file)]).Wellformed :=
    .record (List.forall_mem_singleton.mpr (.string file))
  refine .ofPairs ?_
  simp only [List.forall_mem_append, List.forall_mem_cons]
  refine ⟨⟨⟨comment.wellformed_fieldsExcept _, .string _, item.wellformed_context line, source, nofun⟩, ?_⟩, ?_⟩
  · split
    · nofun
    · exact List.forall_mem_singleton.mpr (wellformed_params _)
  · split
    · exact List.forall_mem_singleton.mpr (wellformed_typed _)
    · nofun

theorem Script.wellformed_doclet {code : Option (Nat × Text)} {file : Text} {doclet : Json.Value}
    (made : Script.doclet? comment code file = some doclet) :
    ∃ fields, doclet = .object fields ∧ doclet.Wellformed := by
  unfold Script.doclet? at made
  obtain ⟨⟨kind, name, number⟩, -, rfl⟩ := Option.map_eq_some_iff.mp made
  refine ⟨_, rfl, .ofPairs ?_⟩
  simp only [List.forall_mem_append, List.forall_mem_cons]
  refine ⟨⟨⟨comment.wellformed_fieldsExcept _, .string _, .string _, .string _, .record ?_, nofun⟩, ?_⟩, ?_⟩
  · simp only [List.forall_mem_cons]
    refine ⟨.string _, ?_, nofun⟩
    cases number with
    | none => exact .null
    | some line => exact .int line
  · split
    · nofun
    · exact List.forall_mem_singleton.mpr (wellformed_params _)
  · split
    · exact List.forall_mem_singleton.mpr (.array (List.forall_mem_singleton.mpr (wellformed_typed _)))
    · nofun

/-- Each doclet that an adapter of the library finds is an object that JSON has. -/
theorem Language.wellformed_parse {language : Language} {base : Path} {tree : FileTree}
    {reference : Yaml.Value} {doclets : List Json.Value}
    (parsed : (language.adapter base).parse tree reference = .ok doclets) :
    ∀ doclet ∈ doclets, ∃ fields, doclet = .object fields ∧ doclet.Wellformed := by
  intro doclet member
  rw [language.parse_adapter] at parsed
  obtain ⟨source, file, found, extracted, own⟩ := mem_parseFiles parsed member
  obtain ⟨comment, name, documents⟩ := language.documents_of_extract extracted own
  cases documents with
  | sass declares comment line file => exact ⟨_, rfl, Sass.wellformed_doclet comment _ line file⟩
  | script named made => exact Script.wellformed_doclet made

end DocSite.Doclet
