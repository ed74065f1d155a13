/-
# DocSite.Proofs.Doclet.Naming -- the names of documented items

Each doclet of a source documents an item (`Language.Documents`): of a Sass source, an item that a line of
it declares, under the name it has there; of a script, one that has its name from the comment or from the
code after it. A doclet of a Sass source has the name in its context, and one of a script has it in a field
of its own.

The other annotations of a comment become fields under their own names, but none of them takes a field that
a doclet has itself (`Comment.get_own`): a field has the values of the annotations of its name, in order
(`Comment.get_kept`). A doclet of a Sass source has no field `name` itself: there an
annotation of this name becomes one (`Sass.name_of_named`), and hides the name in the context from whoever
looks for this field first (`Language.hides`).
-/
import DocSite.Doclet.Registry
import DocSite.Proofs.Json.Fields
import DocSite.Proofs.Mapping

set_option autoImplicit false

namespace DocSite.Doclet

open Text
open Json (Fields)

variable {comment : Comment} {name : Text} {skipped : List Text}

/-! ## Annotations as fields -/

namespace Comment

/-- Takes in an annotation among the fields of a doclet. -/
def addField (fields : Fields) (a : Annotation) : Fields :=
  let before := ((Fields.get? a.name fields).bind Json.Value.items?).getD []
  Fields.insert a.name (.array (before ++ [.string a.value])) fields

theorem fieldsExcept_eq_foldl (skipped : List Text) (comment : Comment) :
    comment.fieldsExcept skipped =
      (comment.annotations.filter fun a => !skipped.contains a.name).foldl addField [] := rfl

theorem isSome_first (name : Text) (comment : Comment) :
    (comment.first? name).isSome = comment.annotations.any (·.name == name) := by
  rw [first?, Option.isSome_map, Bool.eq_iff_iff, List.find?_isSome, List.any_eq_true]

/-- The values of the annotations of a name as an array of texts. -/
def valuesOf (name : Text) (comment : Comment) : Json.Value := .array ((comment.all [name]).map .string)

theorem values_foldl_addField (name : Text) (annotations : List Annotation) (fields : Fields) :
    Fields.get? name (annotations.foldl addField fields) =
      if annotations.any (·.name == name) then
        some (.array (((Fields.get? name fields).bind Json.Value.items?).getD [] ++
          (annotations.filter (·.name == name)).map fun a => .string a.value))
      else Fields.get? name fields := by
  induction annotations generalizing fields with
  | nil => rfl
  | cons a annotations ih =>
    rw [List.foldl_cons, ih, addField, Fields.get_insert]
    by_cases same : a.name = name
    · subst same
      simp [Json.Value.items?]
    · simp [same]

theorem get_foldl_addField (name : Text) (annotations : List Annotation) (fields : Fields) :
    (Fields.get? name (annotations.foldl addField fields)).isSome =
      (annotations.any (·.name == name) || (Fields.get? name fields).isSome) := by
  rw [values_foldl_addField]
  cases annotations.any (·.name == name) <;> rfl

/-- There are fields for the annotations that are not left out, and no others. -/
theorem get_fieldsExcept (name : Text) (skipped : List Text) (comment : Comment) :
    (Fields.get? name (comment.fieldsExcept skipped)).isSome =
      (!skipped.contains name && (comment.first? name).isSome) := by
  have kept : (fun a : Annotation => !skipped.contains a.name && a.name == name) =
      fun a => !skipped.contains name && a.name == name := by
    funext a
    by_cases same : a.name = name
    · rw [same]
    · rw [beq_false_of_ne same, Bool.and_false, Bool.and_false]
  rw [fieldsExcept_eq_foldl, get_foldl_addField, isSome_first, List.any_filter, kept,
    List.and_any_distrib_left]
  exact Bool.or_false _

/-- A field is the list of the values that the comment has for its name. -/
theorem get_fieldsExcept_values (kept : name ∉ skipped) (named : (comment.first? name).isSome = true) :
    Fields.get? name (comment.fieldsExcept skipped) = some (comment.valuesOf name) := by
  have found : (comment.annotations.filter fun a => !skipped.contains a.name).any (·.name == name) = true := by
    rw [isSome_first, List.any_eq_true] at named
    obtain ⟨a, member, same⟩ := named
    refine List.any_eq_true.mpr ⟨a, List.mem_filter.mpr ⟨member, ?_⟩, same⟩
    rw [eq_of_beq same]
    simpa using kept
  have own : (comment.annotations.filter fun a => !skipped.contains a.name).filter (·.name == name) =
      comment.annotations.filter fun a => [name].contains a.name := by
    rw [List.filter_filter]
    refine List.filter_congr fun a _ => ?_
    by_cases same : a.name = name
    · subst same
      simpa using kept
    · simp [same]
  rw [fieldsExcept_eq_foldl, values_foldl_addField, if_pos found, own, valuesOf, all, List.map_map]
  rfl

theorem ordered_fieldsExcept (skipped : List Text) (comment : Comment) :
    (comment.fieldsExcept skipped).Ordered := by
  rw [fieldsExcept_eq_foldl]
  generalize comment.annotations.filter _ = annotations
  induction annotations using List.reverseRecOn with
  | nil => exact .nil
  | append_singleton annotations a ih =>
    rw [List.foldl_append]
    exact Fields.insert_ordered ih

/-! ## Fields of doclets -/

section Own

variable {own : List (Text × Json.Value)} {value : Json.Value}

theorem get_withOwn (name : Text) (skipped : List Text) (own : List (Text × Json.Value))
    (comment : Comment) :
    Fields.get? name (Fields.ofPairs (comment.fieldsExcept skipped ++ own)) =
      (own.reverse.lookup name).or ((comment.fieldsExcept skipped).reverse.lookup name) := by
  rw [Fields.get_ofPairs, Association.lookup_reverse_append]

/-- No annotation takes a field that a doclet has itself. -/
theorem get_own (found : own.reverse.lookup name = some value) :
    Fields.get? name (Fields.ofPairs (comment.fieldsExcept skipped ++ own)) = some value := by
  rw [get_withOwn, found, Option.some_or]

theorem get_unnamed (free : own.reverse.lookup name = none) (unnamed : comment.first? name = none) :
    Fields.get? name (Fields.ofPairs (comment.fieldsExcept skipped ++ own)) = none := by
  rw [get_withOwn, free, Option.none_or, ← Option.not_isSome_iff_eq_none,
    Association.isSome_lookup_reverse, ← Fields.get_eq_lookup, get_fieldsExcept, unnamed]
  simp

/-- Any other field has the values of the annotations of its name. -/
theorem get_kept (free : own.reverse.lookup name = none) (kept : name ∉ skipped)
    (named : (comment.first? name).isSome = true) :
    Fields.get? name (Fields.ofPairs (comment.fieldsExcept skipped ++ own)) = some (comment.valuesOf name) := by
  rw [get_withOwn, free, Option.none_or,
    Association.lookup_reverse (ordered_fieldsExcept skipped comment).nodup, ← Fields.get_eq_lookup,
    get_fieldsExcept_values kept named]

end Own

end Comment

/-! ## Sass sources -/

namespace Sass

theorem exists_own (comment : Comment) (item : Item) (line : Nat) (file : Text) :
    ∃ own, doclet comment item line file =
        .object (Fields.ofPairs (comment.fieldsExcept (paramNames ++ returnNames) ++ own)) ∧
      own.reverse.lookup "name".toList = none ∧
      own.reverse.lookup "context".toList = some (item.context line) := by
  refine ⟨_, by rw [doclet, List.append_assoc, List.append_assoc], ?_, ?_⟩
  · rw [Association.lookup_reverse_append, Association.lookup_reverse_append]
    split <;> split <;> rfl
  · rw [Association.lookup_reverse_append, Association.lookup_reverse_append]
    split <;> split <;> rfl

theorem get_context (comment : Comment) (item : Item) (line : Nat) (file : Text) :
    (doclet comment item line file).get? "context".toList = some (item.context line) := by
  obtain ⟨own, same, -, context⟩ := exists_own comment item line file
  rw [same]
  exact Comment.get_own context

theorem Item.context_name (line : Nat) (item : Item) :
    (item.context line).get? "name".toList = some (.string item.name) := by
  cases item <;> rfl

/-- A doclet has no name in a field of its own if no annotation gives it one. -/
theorem name_of_unnamed (unnamed : comment.first? "name".toList = none) (item : Item) (line : Nat)
    (file : Text) :
    (doclet comment item line file).get? "name".toList = none := by
  obtain ⟨own, same, free, -⟩ := exists_own comment item line file
  rw [same]
  exact Comment.get_unnamed free unnamed

/-- What an annotation gives as a name is a list. -/
theorem name_of_named (named : (comment.first? "name".toList).isSome = true) (item : Item) (line : Nat)
    (file : Text) :
    ∃ items, (doclet comment item line file).get? "name".toList = some (.array items) := by
  obtain ⟨own, same, free, -⟩ := exists_own comment item line file
  have kept : "name".toList ∉ paramNames ++ returnNames := by decide
  rw [same]
  exact ⟨_, Comment.get_kept free kept named⟩

/-- Each doclet of a source documents an item that a line of it declares. -/
theorem mem_docletsFrom {file : Text} {number : Nat} {run lines : List Text} {found : Json.Value}
    (member : found ∈ docletsFrom file number run lines) :
    ∃ comment item number, ∃ line ∈ lines, Item.ofLine? (trim line) = some item ∧
      found = doclet comment item number file := by
  induction lines generalizing number run with
  | nil => cases member
  | cons line lines ih =>
    have deeper {number : Nat} {run : List Text} (later : found ∈ docletsFrom file number run lines) :
        ∃ comment item number, ∃ line' ∈ line :: lines, Item.ofLine? (trim line') = some item ∧
          found = doclet comment item number file := by
      obtain ⟨comment, item, number, line', inside, declares, same⟩ := ih later
      exact ⟨comment, item, number, line', List.mem_cons_of_mem _ inside, declares, same⟩
    rw [docletsFrom] at member
    split at member
    · exact deeper member
    · exact deeper member
    · exact deeper member
    · dsimp only at member
      split at member
      · exact deeper member
      · split at member
        next item declares =>
          rcases List.mem_cons.mp member with same | later
          · exact ⟨_, item, number, line, List.mem_cons_self .., declares, same⟩
          · exact deeper later
        · exact deeper member

end Sass

/-! ## Scripts -/

namespace Script

/-- The name of what a comment documents: the one that the comment gives, or else that in the code. -/
def documented? (comment : Comment) (code : Option (Nat × Text)) : Option Text :=
  ((comment.first? "name".toList).filter fun name => !name.isEmpty).or
    (code.bind fun (_, line) => (Subject.ofLine? line).map Subject.name)

theorem name_of_doclet {code : Option (Nat × Text)} {file : Text} {doclet : Json.Value}
    (made : doclet? comment code file = some doclet) :
    ∃ name, documented? comment code = some name ∧ doclet.get? "name".toList = some (.string name) := by
  unfold doclet? at made
  obtain ⟨⟨kind, name, number⟩, found, rfl⟩ := Option.map_eq_some_iff.mp made
  refine ⟨name, ?_, ?_⟩
  · unfold documented?
    cases given : (comment.first? "name".toList).filter fun name => !name.isEmpty with
    | some chosen =>
      rw [given] at found
      cases found
      rfl
    | none =>
      rw [given] at found
      rcases code with - | ⟨line, text⟩
      · cases found
      · cases declares : Subject.ofLine? text with
        | none => simp [declares] at found
        | some subject =>
          simp only [Option.bind_some, declares, Option.map_some] at found ⊢
          cases found
          rfl
  · dsimp only
    rw [List.append_assoc, List.append_assoc]
    refine Comment.get_own ?_
    rw [Association.lookup_reverse_append, Association.lookup_reverse_append]
    clear made found
    split <;> split <;> split <;> rfl

/-- Each doclet of a source comes of a comment and of the code after it. -/
theorem mem_docletsFrom {file : Text} {fuel number : Nat} {lines : List Text} {doclets : List Json.Value}
    (read : docletsFrom file fuel number lines = .ok doclets) {found : Json.Value}
    (member : found ∈ doclets) :
    ∃ comment code, doclet? comment code file = some found := by
  induction fuel generalizing number lines doclets with
  | zero =>
    cases read
    cases member
  | succ fuel ih =>
    cases lines with
    | nil =>
      cases read
      cases member
    | cons line lines =>
      rw [docletsFrom] at read
      split at read
      · exact ih read member
      · split at read
        · cases read
        next inside after split =>
          dsimp only at read
          cases later : docletsFrom file fuel (number + 1 + (lines.length - after.length)) after with
          | error e =>
            rw [later] at read
            cases read
          | ok rest =>
            rw [later] at read
            cases read
            rcases List.mem_append.mp member with own | after
            · exact ⟨_, _, Option.mem_toList.mp own⟩
            · exact ih later after

end Script

/-! ## Both languages -/

/-- The languages that the library has adapters for. -/
inductive Language where
  | sass
  | script
deriving DecidableEq, Repr

namespace Language

/-- The doclets of a source. -/
def extract : Language → Text → Text → Except Script.Unterminated (List Json.Value)
  | .sass, source, file => .ok (Sass.doclets source file)
  | .script, source, file => Script.doclets source file

/-- The extensions of sources. -/
def extensions : Language → List Text
  | .sass => Sass.extensions
  | .script => Script.extensions

/-- The kinds of doclets. -/
def kindOf : Language → Json.Value → Text
  | .sass => Sass.kindOf
  | .script => Script.kindOf

/-- The kinds that are there without a doclet. -/
def kinds : Language → Categories
  | .sass => [("function".toList, []), ("mixin".toList, []), ("variable".toList, [])]
  | .script => []

/-- The adapter of a language. -/
def adapter : Language → Path → Adapter
  | .sass => .sass
  | .script => .script

theorem parse_adapter (language : Language) (base : Path) :
    (language.adapter base).parse = parseFiles base language.extensions language.extract := by
  cases language <;> rfl

theorem categorize_adapter (language : Language) (base : Path) :
    (language.adapter base).categorize = categorizeBy language.kindOf language.kinds := by
  cases language <;> rfl

/-- Where a doclet has the name of the item that it documents. -/
def subject? : Language → Json.Value → Option Text
  | .sass, doclet =>
    ((doclet.get? "context".toList).bind (Json.Value.get? "name".toList)).bind Json.Value.string?
  | .script, doclet => (doclet.get? "name".toList).bind Json.Value.string?

/-- Whether a doclet is what a comment says about an item of a name. -/
inductive Documents : Language → Comment → Text → Json.Value → Prop
  | sass {code : Text} {item : Sass.Item} (declares : Sass.Item.ofLine? code = some item) (comment : Comment)
      (line : Nat) (file : Text) : Documents .sass comment item.name (Sass.doclet comment item line file)
  | script {comment : Comment} {code : Option (Nat × Text)} {file name : Text} {doclet : Json.Value}
      (named : Script.documented? comment code = some name)
      (made : Script.doclet? comment code file = some doclet) : Documents .script comment name doclet

/-- Whether a comment hides the name of the item that it documents. -/
def hides : Language → Comment → Bool
  | .sass, comment => (comment.first? "name".toList).isSome
  | .script, _ => false

variable {language : Language} {doclet : Json.Value}

theorem Documents.subject (documents : language.Documents comment name doclet) :
    language.subject? doclet = some name := by
  cases documents with
  | sass declares comment line file =>
    rw [subject?, Sass.get_context, Option.bind_some, Sass.Item.context_name]
    rfl
  | script named made =>
    obtain ⟨found, same, field⟩ := Script.name_of_doclet made
    rw [named] at same
    cases same
    rw [subject?, field]
    rfl

/-- Each doclet of a source documents an item. -/
theorem documents_of_extract {source file : Text} {doclets : List Json.Value}
    (extracted : language.extract source file = .ok doclets) (member : doclet ∈ doclets) :
    ∃ comment name, language.Documents comment name doclet := by
  cases language with
  | sass =>
    cases extracted
    obtain ⟨comment, item, number, line, -, declares, rfl⟩ := Sass.mem_docletsFrom member
    exact ⟨comment, item.name, .sass declares comment number file⟩
  | script =>
    obtain ⟨comment, code, made⟩ := Script.mem_docletsFrom extracted member
    obtain ⟨name, named, -⟩ := Script.name_of_doclet made
    exact ⟨comment, name, .script named made⟩

end Language

/-! ## Adapters -/

/-- Each doclet that an adapter reads is one of a source that its reference names. -/
theorem mem_parseFiles {base : Path} {extensions : List Text}
    {extract : Text → Text → Except Script.Unterminated (List Json.Value)} {tree : FileTree}
    {reference : Yaml.Value} {doclets : List Json.Value} {doclet : Json.Value}
    (parsed : parseFiles base extensions extract tree reference = .ok doclets) (member : doclet ∈ doclets) :
    ∃ source file found, extract source file = .ok found ∧ doclet ∈ found := by
  unfold parseFiles at parsed
  cases wanted : patterns reference with
  | error e =>
    rw [wanted] at parsed
    cases parsed
  | ok wanted' =>
    rw [wanted] at parsed
    cases named : collect tree base extensions wanted' with
    | error pattern =>
      simp only [bind, Except.bind, named] at parsed
      cases parsed
    | ok files =>
      simp only [bind, Except.bind, named] at parsed
      split at parsed
      · cases parsed
      next each done =>
        cases parsed
        obtain ⟨found, inside, own⟩ := List.mem_flatten.mp member
        obtain ⟨file, -, read⟩ := (Mapping.mem_mapM done).mp inside
        split at read
        · cases read
        next source _ =>
          split at read
          next same =>
            cases read
            exact ⟨source, _, found, same, own⟩
          · cases read

theorem perm_add (kind : Text) (doclet : Json.Value) (categories : Categories) :
    ((categories.add kind doclet).flatMap Prod.snd).Perm (categories.flatMap Prod.snd ++ [doclet]) := by
  induction categories with
  | nil => rfl
  | cons category categories ih =>
    obtain ⟨first, doclets⟩ := category
    rw [Categories.add]
    split
    · exact (List.perm_append_singleton doclet _).symm
    · rw [List.flatMap_cons, List.flatMap_cons, List.append_assoc, List.append_assoc]
      exact List.perm_append_comm.append_left doclets
    · rw [List.flatMap_cons, List.flatMap_cons, List.append_assoc]
      exact ih.append_left doclets

/-- Sorting doclets by kind keeps them all. -/
theorem perm_categorizeBy (kindOf : Json.Value → Text) (start : Categories) (doclets : List Json.Value) :
    ((categorizeBy kindOf start doclets).flatMap Prod.snd).Perm (start.flatMap Prod.snd ++ doclets) := by
  induction doclets generalizing start with
  | nil => rw [List.append_nil, categorizeBy, List.foldl_nil]
  | cons doclet doclets ih =>
    have first := perm_add (kindOf doclet) doclet start
    rw [categorizeBy, List.foldl_cons, List.append_cons]
    exact (ih _).trans (first.append_right doclets)

/-- What is found under a name that has an adapter is what the adapter has read and sorted. -/
theorem Registry.run_eq_ok {registry : Registry} {adapter : Adapter}
    (registered : registry.resolve? name = some adapter) {tree : FileTree} {reference : Yaml.Value}
    {outcome : Option Resolution} (found : registry.run tree name reference = .ok outcome) :
    ∃ parsed, adapter.parse tree reference = .ok parsed ∧
      outcome = some ⟨name, adapter.categorize parsed⟩ := by
  rw [Registry.run, registered] at found
  dsimp only at found
  cases parsed : adapter.parse tree reference with
  | error e =>
    rw [parsed] at found
    cases found
  | ok doclets =>
    rw [parsed] at found
    cases found
    exact ⟨doclets, rfl, rfl⟩

end DocSite.Doclet
