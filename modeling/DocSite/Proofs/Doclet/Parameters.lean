/-
# DocSite.Proofs.Doclet.Parameters -- parameters and typed remarks are read back

A parameter is written as `{type} $name [default] - description`, where each part but the name may be left out, and
so may the dollar sign (`Parameter.text`). Where the parts do not hold the marks that end them (`Parameter.Plain`),
just these parts are read back, and so are those of a remark `{type} description` (`reads_back`).
-/
import DocSite.Proofs.Text.Ink
import DocSite.Proofs.Text.Phrases
import DocSite.Doclet.Comment

set_option autoImplicit false

namespace DocSite.Doclet

open Text

/-! ## The parts that are read -/

/-- The type at the beginning of a text and what follows it; a type that nothing follows is none. -/
def takeType (text : Text) : Option Text × Text :=
  match splitType? text with
  | some (type, after) => if after.isEmpty then (none, text) else (some type, after)
  | none => (none, text)

/-- The default that a text begins with after white space, and what follows it. -/
def takeDefault (text : Text) : Option Text × Text :=
  match splitDefault? text with
  | some (default, after) => (some default, after)
  | none => (none, text)

/-- The name that a text begins with, and what follows it. -/
def takeName (text : Text) : Text × Text :=
  let name := text.takeWhile fun c => !isBlank c
  (name, text.drop name.length)

theorem readParam_eq (value : Text) : readParam value =
    let (type?, rest) := takeType (trim value)
    let (name, rest) := takeName rest
    let (default?, rest) := takeDefault rest
    .object (presentFields [("type", type?.map trim), ("name", some (name.dropWhile (· == '$'))),
      ("default", default?.map trim), ("description", description? (dropHyphen rest))]) := rfl

/-! ## Parts and marks -/

section Marks

variable {inside after text white : Text} {mark : Char}

theorem splitType_mark (free : '\x7d' ∉ inside) (after : Text) :
    splitType? ('\x7b' :: (inside ++ '\x7d' :: after)) = some (inside, trimStart after) := by
  simp only [splitType?, takeWhile_mark free, List.drop_left]

theorem splitType_other (other : text.head? ≠ some '\x7b') : splitType? text = none := by
  unfold splitType?
  split
  next rest => exact absurd rfl other
  · rfl

theorem splitDefault_mark (empty : blank white = true) (free : ']' ∉ inside) (after : Text) :
    splitDefault? (white ++ '[' :: (inside ++ ']' :: after)) = some (inside, after) := by
  have begins : trimStart (white ++ '[' :: (inside ++ ']' :: after)) = '[' :: (inside ++ ']' :: after) := by
    rw [trimStart_append_blank empty, trimStart_cons (by decide)]
  simp only [splitDefault?, begins, takeWhile_mark free, List.drop_left]

theorem splitDefault_other (other : (trimStart text).head? ≠ some '[') : splitDefault? text = none := by
  unfold splitDefault?
  split
  next rest begins =>
    rw [begins] at other
    exact absurd rfl other
  · rfl

/-- A text that neither begins nor ends with white space is left as it is. -/
theorem trim_eq_self (begins : ∀ c ∈ text.head?, isBlank c = false)
    (ends : ∀ c ∈ text.getLast?, isBlank c = false) : trim text = text := by
  have start : trimStart text = text := by
    cases text with
    | nil => rfl
    | cons c rest => exact trimStart_cons (begins c rfl)
  rw [trim, start]
  refine List.rdropWhile_eq_self_iff.mpr fun filled => ?_
  rw [ends _ (List.getLast?_eq_some_getLast filled)]
  exact Bool.false_ne_true

/-- White space before a trimmed text is all that is taken off. -/
theorem trimStart_trimmed (empty : blank white = true) (trimmed : trim text = text) :
    trimStart (white ++ text) = text := by
  rw [trimStart_append_blank empty, ← trimmed, trimStart_trim]

/-- A trimmed text does not end with white space. -/
theorem getLast_trimmed (trimmed : trim text = text) : ∀ c ∈ text.getLast?, isBlank c = false := by
  intro c last
  have ends : trimEnd text = text := by rw [← trimmed, trimEnd_trim]
  have filled : text ≠ [] := by
    rintro rfl
    cases last
  have seen := List.rdropWhile_eq_self_iff.mp ends filled
  rw [List.getLast?_eq_some_getLast filled] at last
  cases last
  simpa using seen

end Marks

/-! ## Parameters -/

/-- The parts of a parameter. -/
structure Parameter where
  type? : Option Text
  name : Text
  default? : Option Text
  description? : Option Text

namespace Parameter

/-- Whether the parts of a parameter are told apart by the marks between them. -/
structure Plain (p : Parameter) : Prop where
  named : p.name ≠ []
  solid : ∀ c ∈ p.name, isBlank c = false
  begins : p.name.head? ≠ some '$' ∧ p.name.head? ≠ some '\x7b'
  type : ∀ type ∈ p.type?, trim type = type ∧ '\x7d' ∉ type
  default : ∀ value ∈ p.default?, trim value = value ∧ ']' ∉ value
  description : ∀ text ∈ p.description?, trim text = text ∧ text ≠ []

/-- What stands behind the name. -/
def ending (p : Parameter) : Text :=
  (p.default?.elim [] fun value => [' ', '['] ++ value ++ [']']) ++
    p.description?.elim [] fun text => [' ', '-', ' '] ++ text

/-- How a parameter is written, with a dollar sign before its name or without one. -/
def text (p : Parameter) (dollar : Bool) : Text :=
  (p.type?.elim [] fun type => ['\x7b'] ++ type ++ ['\x7d', ' ']) ++
    ((if dollar then ['$'] else []) ++ p.name ++ p.ending)

/-- The object of a parameter: a field for each part that there is. -/
def value (p : Parameter) : Json.Value :=
  .object (
    (p.default?.toList.map fun value => ("default".toList, .string value)) ++
    (p.description?.toList.map fun text => ("description".toList, .string text)) ++
    [("name".toList, .string p.name)] ++
    (p.type?.toList.map fun type => ("type".toList, .string type)))

variable {p : Parameter}

theorem value_eq (p : Parameter) :
    .object (presentFields [("type", p.type?), ("name", some p.name), ("default", p.default?),
      ("description", p.description?)]) = p.value := by
  obtain ⟨type?, name, default?, description?⟩ := p
  cases type? <;> cases default? <;> cases description? <;> rfl

/-! ### What stands behind the name -/

theorem ending_begins (p : Parameter) : p.ending = [] ∨ p.ending.head? = some ' ' := by
  obtain ⟨type?, name, default?, description?⟩ := p
  cases default? <;> cases description? <;> simp [ending]

theorem Plain.read_description (plain : p.Plain) :
    Doclet.description? (dropHyphen (p.description?.elim [] fun text => [' ', '-', ' '] ++ text)) =
      p.description? := by
  cases said : p.description? with
  | none => rfl
  | some text =>
    obtain ⟨trimmed, filled⟩ := plain.description text said
    have begins : dropHyphen ([' ', '-', ' '] ++ text) = trimStart ([' '] ++ text) := rfl
    have rest : trimStart ([' '] ++ text) = text := trimStart_trimmed (by decide) trimmed
    rw [Option.elim_some, begins, rest, Doclet.description?, trimmed, Option.filter_some, if_pos (by simpa using filled)]

theorem Plain.read_default (plain : p.Plain) :
    takeDefault p.ending = (p.default?, p.description?.elim [] fun text => [' ', '-', ' '] ++ text) := by
  rw [ending, takeDefault]
  cases given : p.default? with
  | none =>
    rw [splitDefault_other]
    · rfl
    · cases p.description? with
      | none => nofun
      | some text => exact (by decide : some '-' ≠ some '[')
  | some value =>
    have empty : blank [' '] = true := by decide
    have read := splitDefault_mark empty (plain.default value given).2
    simp only [Option.elim_some, List.append_assoc, List.cons_append, List.nil_append] at read ⊢
    rw [read]

/-! ### The name -/

/-- The name as it is written. -/
def signed (p : Parameter) (dollar : Bool) : Text := (if dollar then ['$'] else []) ++ p.name

theorem Plain.signed_ne_nil (plain : p.Plain) (dollar : Bool) : p.signed dollar ≠ [] :=
  List.append_ne_nil_of_right_ne_nil _ plain.named

theorem Plain.signed_solid (plain : p.Plain) (dollar : Bool) : ∀ c ∈ p.signed dollar, isBlank c = false := by
  intro c member
  rcases List.mem_append.mp member with sign | own
  · cases dollar with
    | false => cases sign
    | true =>
      rw [List.mem_singleton.mp sign]
      decide
  · exact plain.solid c own

theorem Plain.head_signed (plain : p.Plain) (dollar : Bool) : (p.signed dollar).head? ≠ some '\x7b' := by
  cases dollar with
  | false => exact plain.begins.2
  | true => exact (by decide : some '$' ≠ some '\x7b')

theorem Plain.read_name (plain : p.Plain) (dollar : Bool) :
    takeName (p.signed dollar ++ p.ending) = (p.signed dollar, p.ending) := by
  have before : ∀ c ∈ p.signed dollar, (!isBlank c) = true := fun c member => by
    rw [plain.signed_solid dollar c member]
    rfl
  have behind : p.ending.takeWhile (fun c => !isBlank c) = [] := by
    rcases p.ending_begins with nothing | space
    · rw [nothing]
      rfl
    · obtain ⟨rest, whole⟩ := List.head?_eq_some_iff.mp space
      rw [whole, List.takeWhile_cons_of_neg (by decide)]
  rw [takeName, List.takeWhile_append_of_pos before, behind, List.append_nil, List.drop_left]

theorem Plain.drop_dollar (plain : p.Plain) (dollar : Bool) :
    (p.signed dollar).dropWhile (· == '$') = p.name := by
  have own : p.name.dropWhile (· == '$') = p.name := by
    obtain ⟨c, rest, whole⟩ := List.exists_cons_of_ne_nil plain.named
    have other : c ≠ '$' := by
      rintro rfl
      exact plain.begins.1 (by rw [whole]; rfl)
    rw [whole, List.dropWhile_cons_of_neg (by simpa using other)]
  cases dollar with
  | false => exact own
  | true => exact own

/-! ### The whole -/

theorem text_eq (p : Parameter) (dollar : Bool) : p.text dollar =
    (p.type?.elim [] fun type => ['\x7b'] ++ type ++ ['\x7d', ' ']) ++ (p.signed dollar ++ p.ending) := rfl

theorem Plain.getLast_text (plain : p.Plain) (dollar : Bool) :
    ∀ c ∈ (p.text dollar).getLast?, isBlank c = false := by
  have whole : p.text dollar = ((p.type?.elim [] fun type => ['\x7b'] ++ type ++ ['\x7d', ' ']) ++
    p.signed dollar) ++ p.ending := by rw [text_eq, List.append_assoc]
  intro c last
  rw [whole, ending] at last
  cases said : p.description? with
  | some text =>
    obtain ⟨trimmed, filled⟩ := plain.description text said
    rw [said, Option.elim_some, ← List.append_assoc, ← List.append_assoc,
      List.getLast?_append_of_ne_nil _ filled] at last
    exact getLast_trimmed trimmed c last
  | none =>
    rw [said, Option.elim_none, List.append_nil] at last
    cases given : p.default? with
    | some value =>
      rw [given, Option.elim_some, ← List.append_assoc, List.getLast?_concat] at last
      cases last
      decide
    | none =>
      rw [given, Option.elim_none, List.append_nil, List.getLast?_append_of_ne_nil _ (plain.signed_ne_nil dollar)]
        at last
      exact plain.signed_solid dollar c (List.mem_of_getLast? last)

theorem Plain.trim_text (plain : p.Plain) (dollar : Bool) : trim (p.text dollar) = p.text dollar := by
  refine trim_eq_self (fun c first => ?_) (plain.getLast_text dollar)
  rw [text_eq] at first
  cases given : p.type? with
  | some type =>
    rw [given] at first
    cases first
    decide
  | none =>
    rw [given, Option.elim_none, List.nil_append, List.head?_append_of_ne_nil _ (plain.signed_ne_nil dollar)] at first
    exact plain.signed_solid dollar c (List.mem_of_head? first)

theorem Plain.read_type (plain : p.Plain) (dollar : Bool) :
    takeType (p.text dollar) = (p.type?, p.signed dollar ++ p.ending) := by
  have filled : p.signed dollar ++ p.ending ≠ [] :=
    List.append_ne_nil_of_left_ne_nil (plain.signed_ne_nil dollar) _
  rw [takeType]
  cases given : p.type? with
  | some type =>
    have whole : p.text dollar = '\x7b' :: (type ++ '\x7d' :: (' ' :: (p.signed dollar ++ p.ending))) := by
      rw [text_eq, given]
      simp
    have rest : trimStart (' ' :: (p.signed dollar ++ p.ending)) = p.signed dollar ++ p.ending := by
      obtain ⟨c, more, same⟩ := List.exists_cons_of_ne_nil (plain.signed_ne_nil dollar)
      have solid := plain.signed_solid dollar c (by simp [same])
      rw [same, List.cons_append]
      exact trimStart_cons solid
    rw [whole, splitType_mark (plain.type type given).2, rest]
    dsimp only
    rw [if_neg (by simpa using filled)]
  | none =>
    have whole : p.text dollar = p.signed dollar ++ p.ending := by
      rw [text_eq, given]
      rfl
    have other : (p.signed dollar ++ p.ending).head? ≠ some '\x7b' := by
      rw [List.head?_append_of_ne_nil _ (plain.signed_ne_nil dollar)]
      exact plain.head_signed dollar
    rw [whole, splitType_other other]

theorem Plain.map_type (plain : p.Plain) : p.type?.map trim = p.type? := by
  cases given : p.type? with
  | none => rfl
  | some type => exact congrArg some (plain.type type given).1

theorem Plain.map_default (plain : p.Plain) : p.default?.map trim = p.default? := by
  cases given : p.default? with
  | none => rfl
  | some value => exact congrArg some (plain.default value given).1

theorem Plain.readParam_text (plain : p.Plain) (dollar : Bool) : readParam (p.text dollar) = p.value := by
  rw [readParam_eq, plain.trim_text, plain.read_type]
  dsimp only
  rw [plain.read_name]
  dsimp only
  rw [plain.read_default]
  dsimp only
  rw [plain.map_type, plain.map_default, plain.drop_dollar, plain.read_description, value_eq]

end Parameter

/-! ## Typed remarks -/

/-- The parts of a typed remark. -/
structure Remark where
  type? : Option Text
  description : Text

namespace Remark

/-- Whether the parts of a remark are told apart by the marks between them. -/
structure Plain (r : Remark) : Prop where
  type : ∀ type ∈ r.type?, trim type = type ∧ '\x7d' ∉ type
  description : trim r.description = r.description ∧ r.description ≠ []
  begins : r.type? = none → r.description.head? ≠ some '\x7b'

/-- How a typed remark is written. -/
def text (r : Remark) : Text :=
  (r.type?.elim [] fun type => ['\x7b'] ++ type ++ ['\x7d', ' ']) ++ r.description

/-- The object of a typed remark: a field for each part that there is. -/
def value (r : Remark) : Json.Value :=
  .object ([("description".toList, .string r.description)] ++
    (r.type?.toList.map fun type => ("type".toList, .string type)))

variable {r : Remark}

theorem value_eq (r : Remark) :
    .object (presentFields [("type", r.type?), ("description", some r.description)]) = r.value := by
  obtain ⟨type?, description⟩ := r
  cases type? <;> rfl

theorem Plain.readTyped_text (plain : r.Plain) : readTyped r.text = r.value := by
  obtain ⟨trimmed, filled⟩ := plain.description
  have own : Doclet.description? r.description = some r.description := by
    rw [Doclet.description?, trimmed, Option.filter_some, if_pos (by simpa using filled)]
  have ends : ∀ c ∈ r.text.getLast?, isBlank c = false := by
    rw [text, List.getLast?_append_of_ne_nil _ filled]
    exact getLast_trimmed trimmed
  cases given : r.type? with
  | some type =>
    have whole : r.text = '\x7b' :: (type ++ '\x7d' :: ([' '] ++ r.description)) := by
      rw [text, given]
      simp
    have same : trim r.text = r.text := by
      refine trim_eq_self (fun c first => ?_) ends
      rw [whole] at first
      cases first
      decide
    rw [readTyped, same, whole, splitType_mark (plain.type type given).2,
      trimStart_trimmed (by decide) trimmed]
    dsimp only
    rw [own, Option.map_some, (plain.type type given).1, ← given, value_eq]
  | none =>
    have whole : r.text = r.description := by
      rw [text, given]
      rfl
    rw [readTyped, whole, trimmed, splitType_other (plain.begins given)]
    dsimp only
    rw [own, Option.map_none, ← given, value_eq]

end Remark

/-- A parameter that is written part by part is read back as just these parts, with a dollar sign before its name or
without one, and so is a typed remark. -/
theorem reads_back :
    (∀ (p : Parameter) (dollar : Bool), p.Plain → readParam (p.text dollar) = p.value) ∧
    ∀ r : Remark, r.Plain → readTyped r.text = r.value :=
  ⟨fun _ dollar plain => plain.readParam_text dollar, fun _ plain => plain.readTyped_text⟩

/-- A parameter with all parts, whose description has two lines and a hyphen of its own. -/
def gap : Parameter :=
  ⟨some "Number | Null".toList, "gap".toList, some "1rem".toList, some "- Space\n  between [columns]".toList⟩

theorem gap_plain : gap.Plain where
  named := by decide
  solid := by simp [gap, isBlank]
  begins := by decide
  type := by decide +kernel
  default := by decide +kernel
  description := by decide +kernel

/-- A remark without a type, whose description has braces. -/
def unchanged : Remark := ⟨none, "The map \x7ba: 1\x7d as it is".toList⟩

theorem unchanged_plain : unchanged.Plain where
  type := nofun
  description := by decide +kernel
  begins := by decide

theorem gap_is_read_back :
    gap.Plain ∧ unchanged.Plain ∧
      gap.text true = "\x7bNumber | Null\x7d $gap [1rem] - - Space\n  between [columns]".toList ∧
      readParam (gap.text true) = gap.value ∧ readParam (gap.text false) = gap.value ∧
      readTyped unchanged.text = unchanged.value :=
  ⟨gap_plain, unchanged_plain, by decide, reads_back.1 gap true gap_plain, reads_back.1 gap false gap_plain,
    reads_back.2 unchanged unchanged_plain⟩

end DocSite.Doclet
