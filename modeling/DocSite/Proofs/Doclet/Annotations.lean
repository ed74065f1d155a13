/-
# DocSite.Proofs.Doclet.Annotations -- what becomes of the annotations of a comment

An annotation of a name that its adapter neither reads itself nor gives a field is kept: the field of the name is
the list of the values that the comment has for it, in order (`Comment.get_kept`). The annotations of parameters
are read one by one, and become a list in the same order. Of the annotations of a result only the first counts;
each language has a name of its own for these, and looks for the other one where there is none of it
(`Language.result?`).
-/
import DocSite.Proofs.Doclet.Naming

set_option autoImplicit false

namespace DocSite.Doclet

open Text
open Json (Fields)

variable {comment : Comment} {name : Text} {skipped : List Text}

/-! ## Fields of annotations -/

theorem lookup_free {fields : Fields} (free : ∀ field ∈ fields, field.1 ≠ name) :
    fields.reverse.lookup name = none := by
  rw [List.lookup_eq_none_iff]
  intro field member
  simpa using (free field (List.mem_reverse.mp member)).symm

/-! ## The subject of a comment in a script -/

namespace Script

/-- The kind, the name and the line of what a comment documents. -/
def found? (comment : Comment) (code : Option (Nat × Text)) : Option (Text × Text × Option Nat) :=
  let detected : Option (Nat × Subject) := code.bind fun (number, line) =>
    (Subject.ofLine? line).map (number, ·)
  let kindOr (kind : String) : Text := (comment.first? "kind".toList).getD kind.toList
  match (comment.first? "name".toList).filter (fun name => !name.isEmpty), detected with
  | some name, _ => some (kindOr "member", name, code.map (·.1))
  | none, some (number, subject) => some (kindOr subject.kind, subject.name, some number)
  | none, none => none

/-- The fields that a doclet has whatever annotations there are. -/
def ownFields (comment : Comment) (file : Text) (found : Text × Text × Option Nat) : Fields :=
  [("kind".toList, .string found.1), ("name".toList, .string found.2.1),
    ("description".toList, .string comment.description),
    ("meta".toList, .record [("path", .string file), ("lineno", found.2.2.elim .null fun n => .int n)])]

end Script

/-! ## Both languages -/

namespace Language

/-- The names of the annotations that become something else than a field of their name. -/
def consumed : Language → List Text
  | .sass => Sass.paramNames ++ Sass.returnNames
  | .script => Script.consumedNames

/-- The other names of fields that doclets have whatever annotations there are. -/
def given : Language → List Text
  | .sass => ["description".toList, "context".toList, "file".toList]
  | .script => ["description".toList, "meta".toList]

/-- The names of the annotations of parameters. -/
def paramNames : Language → List Text
  | .sass => Sass.paramNames
  | .script => Script.paramNames

/-- The field of the parameters. -/
def paramField : Language → Text
  | .sass => "parameter".toList
  | .script => "params".toList

/-- The field of the result, which is also the name of the annotation that counts first. -/
def resultField : Language → Text
  | .sass => "return".toList
  | .script => "returns".toList

/-- The name of the annotation that counts if there is none of the other name. -/
def otherResult : Language → Text
  | .sass => "returns".toList
  | .script => "return".toList

/-- The annotation of a result that counts. -/
def result? (language : Language) (comment : Comment) : Option Text :=
  (comment.first? language.resultField).or (comment.first? language.otherResult)

/-- The field that a result makes. -/
def resultValue : Language → Text → Json.Value
  | .sass, value => readTyped value
  | .script, value => .array [readTyped value]

/-- The field of parameters, if there are any. -/
def paramFields (language : Language) (comment : Comment) : Fields :=
  let params := (comment.all language.paramNames).map readParam
  if params.isEmpty then [] else [(language.paramField, .array params)]

/-- The field of a result, if there is one. -/
def resultFields (language : Language) (comment : Comment) : Fields :=
  (language.result? comment).toList.map fun value => (language.resultField, language.resultValue value)

variable {language : Language} {doclet : Json.Value}

theorem fields_sass (comment : Comment) (item : Sass.Item) (line : Nat) (file : Text) :
    Sass.doclet comment item line file = .object (Fields.ofPairs (comment.fieldsExcept Language.sass.consumed ++
      ([("description".toList, .string comment.description), ("context".toList, item.context line),
        ("file".toList, .record [("path", .string file)])] ++
        (Language.sass.paramFields comment ++ Language.sass.resultFields comment)))) := by
  have result : Language.sass.resultFields comment =
      ((comment.first? "return".toList).or (comment.first? "returns".toList)).toList.map fun value =>
        ("return".toList, readTyped value) := rfl
  rw [result, Sass.doclet, List.append_assoc, List.append_assoc]
  cases comment.first? "return".toList with
  | some value => rfl
  | none => cases comment.first? "returns".toList <;> rfl

theorem fields_script (comment : Comment) (code : Option (Nat × Text)) (file : Text) :
    Script.doclet? comment code file = (Script.found? comment code).map fun found =>
      .object (Fields.ofPairs (comment.fieldsExcept Language.script.consumed ++
        (Script.ownFields comment file found ++
          (Language.script.paramFields comment ++ Language.script.resultFields comment)))) := by
  have result : Language.script.resultFields comment =
      ((comment.first? "returns".toList).or (comment.first? "return".toList)).toList.map fun value =>
        ("returns".toList, .array [readTyped value]) := rfl
  rw [result]
  refine congrArg (Option.map · (Script.found? comment code)) (funext fun ⟨kind, name, number⟩ => ?_)
  dsimp only
  rw [List.append_assoc, List.append_assoc]
  cases comment.first? "returns".toList with
  | some value => cases number <;> rfl
  | none => cases comment.first? "return".toList <;> cases number <;> rfl

/-- What a doclet is made of. -/
theorem Documents.exists_fields (documents : language.Documents comment name doclet) :
    ∃ own : Fields,
      (∀ other ∈ own.map Prod.fst, other ∈ language.consumed ++ language.given ∧ other ≠ language.resultField) ∧
      doclet = .object (Fields.ofPairs (comment.fieldsExcept language.consumed ++
        (own ++ (language.paramFields comment ++ language.resultFields comment)))) := by
  cases documents with
  | sass declares comment line file =>
    have names : ∀ other ∈ ["description".toList, "context".toList, "file".toList],
        other ∈ Language.sass.consumed ++ Language.sass.given ∧ other ≠ Language.sass.resultField := by decide
    refine ⟨_, ?_, fields_sass comment _ line file⟩
    exact names
  | script named made =>
    have names : ∀ other ∈ ["kind".toList, "name".toList, "description".toList, "meta".toList],
        other ∈ Language.script.consumed ++ Language.script.given ∧ other ≠ Language.script.resultField := by
      decide
    rw [fields_script] at made
    obtain ⟨found, -, rfl⟩ := Option.map_eq_some_iff.mp made
    refine ⟨Script.ownFields comment _ found, ?_, rfl⟩
    exact names

theorem resultField_mem (language : Language) : language.resultField ∈ language.consumed := by
  cases language <;> decide

theorem paramField_ne (language : Language) : language.paramField ≠ language.resultField := by
  cases language <;> decide

theorem names_paramFields {field : Text × Json.Value} (member : field ∈ language.paramFields comment) :
    field.1 = language.paramField ∧ comment.all language.paramNames ≠ [] := by
  unfold paramFields at member
  dsimp only at member
  split at member
  · cases member
  next some =>
    cases List.mem_singleton.mp member
    exact ⟨rfl, by simpa using some⟩

theorem names_resultFields {field : Text × Json.Value} (member : field ∈ language.resultFields comment) :
    field.1 = language.resultField := by
  obtain ⟨value, -, rfl⟩ := List.mem_map.mp member
  rfl

theorem lookup_paramFields (some : comment.all language.paramNames ≠ []) :
    (language.paramFields comment).reverse.lookup language.paramField =
      .some (.array ((comment.all language.paramNames).map readParam)) := by
  unfold paramFields
  rw [if_neg (by simpa using some)]
  exact List.lookup_cons_self

theorem lookup_resultFields (language : Language) (comment : Comment) :
    (language.resultFields comment).reverse.lookup language.resultField =
      (language.result? comment).map language.resultValue := by
  unfold resultFields
  cases language.result? comment with
  | none => rfl
  | some value => exact List.lookup_cons_self

/-- Fields that a doclet has whatever annotations there are. -/
theorem get_given {own : Fields} {value : Json.Value} (found : own.reverse.lookup name = some value)
    (other : name ≠ language.paramField) (other' : name ≠ language.resultField) :
    Fields.get? name (Fields.ofPairs (comment.fieldsExcept language.consumed ++
      (own ++ (language.paramFields comment ++ language.resultFields comment)))) = some value := by
  have params : (language.paramFields comment).reverse.lookup name = none :=
    lookup_free fun field member => (names_paramFields member).1 ▸ other.symm
  have result : (language.resultFields comment).reverse.lookup name = none :=
    lookup_free fun field member => names_resultFields member ▸ other'.symm
  refine Comment.get_own ?_
  rw [Association.lookup_reverse_append, Association.lookup_reverse_append, params, result, found]
  rfl

/-! ## What is kept -/

/-- Whether a doclet has what the annotations of a comment say. -/
structure Keeps (language : Language) (comment : Comment) (doclet : Json.Value) : Prop where
  field : ∀ name, name ∉ language.consumed → name ∉ language.given →
    (name = language.paramField → comment.all language.paramNames = []) → (comment.first? name).isSome = true →
    doclet.get? name = some (comment.valuesOf name)
  parameters : comment.all language.paramNames ≠ [] →
    doclet.get? language.paramField = some (.array ((comment.all language.paramNames).map readParam))
  result : doclet.get? language.resultField = (language.result? comment).map language.resultValue

/-- A doclet keeps the annotations of its comment: those of names that are free in fields of their own, all
parameters in order, and of the results the one that counts. -/
theorem keeps_annotations (documents : language.Documents comment name doclet) :
    language.Keeps comment doclet := by
  obtain ⟨own, names, rfl⟩ := documents.exists_fields
  refine ⟨fun name free free' alone named => ?_, fun some => ?_, ?_⟩
  · refine Comment.get_kept (lookup_free ?_) free named
    have free'' : name ∉ language.consumed ++ language.given := by simp [free, free']
    rintro field member rfl
    rcases List.mem_append.mp member with inside | inside
    · exact free'' (names _ (List.mem_map_of_mem inside)).1
    · rcases List.mem_append.mp inside with inside | inside
      · obtain ⟨same, some⟩ := names_paramFields inside
        exact some (alone same)
      · exact free (names_resultFields inside ▸ language.resultField_mem)
  · refine Comment.get_own ?_
    have other : (language.resultFields comment).reverse.lookup language.paramField = none :=
      lookup_free fun field member => names_resultFields member ▸ language.paramField_ne.symm
    rw [Association.lookup_reverse_append, Association.lookup_reverse_append, other, lookup_paramFields some]
    rfl
  · have other : (language.paramFields comment).reverse.lookup language.resultField = none :=
      lookup_free fun field member => (names_paramFields member).1 ▸ language.paramField_ne
    have other' : own.reverse.lookup language.resultField = none :=
      lookup_free fun field member => (names _ (List.mem_map_of_mem member)).2
    have skipped : (comment.fieldsExcept language.consumed).reverse.lookup language.resultField = none := by
      rw [← Option.not_isSome_iff_eq_none, Association.isSome_lookup_reverse, ← Fields.get_eq_lookup,
        Comment.get_fieldsExcept]
      simp [language.resultField_mem]
    rw [Json.Value.get?, Comment.get_withOwn, Association.lookup_reverse_append,
      Association.lookup_reverse_append, lookup_resultFields, other, other', skipped]
    simp

/-- A comment with two values of one name, parameters of two names and results of both. -/
def remarks : Comment :=
  ⟨"Adds.".toList, [⟨"since".toList, "1".toList⟩, ⟨"param".toList, "$a".toList⟩, ⟨"returns".toList, "a".toList⟩,
    ⟨"since".toList, "2".toList⟩, ⟨"arg".toList, "$b".toList⟩, ⟨"return".toList, "b".toList⟩]⟩

/-- What a comment says about a function. -/
def addition (comment : Comment) : Json.Value :=
  Sass.doclet comment (.function "add".toList) 1 "a.scss".toList

theorem documents_addition (comment : Comment) :
    Language.sass.Documents comment "add".toList (addition comment) := by
  have declares : Sass.Item.ofLine? "@function add($a, $b)".toList = some (.function "add".toList) := by
    decide +kernel
  exact .sass declares comment 1 "a.scss".toList

theorem remarks_kept :
    Language.sass.Documents remarks "add".toList (addition remarks) ∧
      Language.sass.Keeps remarks (addition remarks) :=
  ⟨documents_addition remarks, keeps_annotations (documents_addition remarks)⟩

/-- Whether a value is that of a field, or one of a list that is. -/
def Shows (value : Json.Value) (field : Option Json.Value) : Prop :=
  field = some value ∨ ∃ items, field = some (.array items) ∧ value ∈ items

/-- An annotation named like a field that doclets have does not show there, and neither does a second result. -/
theorem not_every_annotation_kept :
    (¬∀ (language : Language) (comment : Comment) (subject : Text) (doclet : Json.Value),
      language.Documents comment subject doclet → ∀ name, name ∉ language.consumed →
        (comment.first? name).isSome = true → doclet.get? name = some (comment.valuesOf name)) ∧
    ¬∀ (language : Language) (comment : Comment) (subject : Text) (doclet : Json.Value),
      language.Documents comment subject doclet → ∀ value ∈ comment.all ["return".toList, "returns".toList],
        Shows (readTyped value) (doclet.get? language.resultField) := by
  constructor
  · intro every
    let described : Comment := ⟨[], [⟨"description".toList, "Adds.".toList⟩]⟩
    have kept := every .sass described _ _ (documents_addition described) "description".toList (by decide)
      (by decide)
    have text : ((addition described).get? "description".toList).bind Json.Value.string? = some [] := by
      decide +kernel
    rw [kept] at text
    cases text
  · intro every
    let twice : Comment := ⟨[], [⟨"return".toList, "a".toList⟩, ⟨"return".toList, "b".toList⟩]⟩
    have first : (((addition twice).get? Language.sass.resultField).bind
        (Json.Value.get? "description".toList)).bind Json.Value.string? = some "a".toList := by decide +kernel
    have second : ((readTyped "b".toList).get? "description".toList).bind Json.Value.string? =
        some "b".toList := by decide +kernel
    rcases every .sass twice _ _ (documents_addition twice) "b".toList (by decide) with shown | ⟨items, shown, -⟩
    · rw [shown, Option.bind_some, second] at first
      exact absurd first (by decide)
    · rw [shown] at first
      cases first

end Language

end DocSite.Doclet
