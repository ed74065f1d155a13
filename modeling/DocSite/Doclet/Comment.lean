/-
# DocSite.Doclet.Comment -- documentation comments

A comment has a description and annotations: lines that begin with an at sign, a name, and
perhaps a value. Other lines go on with the annotation before them, or with the description.
-/
import DocSite.Json.Value

set_option autoImplicit false

namespace DocSite.Doclet

open Text

/-- A named remark within a comment. -/
structure Annotation where
  name : Text
  value : Text
deriving DecidableEq, Repr

/-- A documentation comment. -/
structure Comment where
  description : Text
  annotations : List Annotation
deriving DecidableEq, Repr

namespace Annotation

/-- The annotation that a line begins. -/
def ofLine? (line : Text) : Option Annotation :=
  match trim line with
  | '@' :: rest =>
    let name := rest.takeWhile fun c => !isBlank c
    some ⟨name, trim (rest.drop name.length)⟩
  | _ => none

/-- An annotation with a further line; line breaks before its first text are dropped. -/
def append (line : Text) (a : Annotation) : Annotation :=
  { a with value := (if a.value.isEmpty then [] else a.value ++ ['\n']) ++ trimEnd line }

end Annotation

/-- What has been read of a comment: the lines of the description and the annotations, the last
first. -/
structure CommentLines where
  description : List Text
  annotations : List Annotation

/-- Takes in a line of a comment. -/
def CommentLines.add (lines : CommentLines) (line : Text) : CommentLines :=
  match Annotation.ofLine? line, lines.annotations with
  | some annotation, annotations => { lines with annotations := annotation :: annotations }
  | none, last :: annotations => { lines with annotations := last.append line :: annotations }
  | none, [] => { lines with description := trimEnd line :: lines.description }

namespace Comment

/-- The comment that lines make, which are given without comment marks. -/
def ofLines (lines : List Text) : Comment :=
  let read := lines.foldl CommentLines.add ⟨[], []⟩
  { description := trim (join ['\n'] read.description.reverse)
    annotations := read.annotations.reverse.map fun a => { a with value := trimEnd a.value } }

/-- The value of the first annotation of a name. -/
def first? (name : Text) (comment : Comment) : Option Text :=
  (comment.annotations.find? fun a => a.name == name).map (·.value)

/-- The values of the annotations that have one of some names, in order. -/
def all (names : List Text) (comment : Comment) : List Text :=
  (comment.annotations.filter fun a => names.contains a.name).map (·.value)

/-- The values of all annotations, by name; those of some names are left out. -/
def fieldsExcept (skipped : List Text) (comment : Comment) : Json.Fields :=
  (comment.annotations.filter fun a => !skipped.contains a.name).foldl
    (fun fields a =>
      let before := ((Json.Fields.get? a.name fields).bind Json.Value.items?).getD []
      Json.Fields.insert a.name (.array (before ++ [.string a.value])) fields)
    []

end Comment

/-! ## Types, names and defaults -/

/-- Splits off the type in braces that a text begins with, and the white space after it. -/
def splitType? : Text → Option (Text × Text)
  | '\x7b' :: rest =>
    let type := rest.takeWhile (· != '\x7d')
    match rest.drop type.length with
    | _ :: after => some (type, trimStart after)
    | [] => none
  | _ => none

/-- Splits off the default in square brackets that a text begins with after white space. -/
def splitDefault? (text : Text) : Option (Text × Text) :=
  match trimStart text with
  | '[' :: rest =>
    let default := rest.takeWhile (· != ']')
    match rest.drop default.length with
    | _ :: after => some (default, after)
    | [] => none
  | _ => none

/-- A text without the hyphen between a name and its description. -/
def dropHyphen (text : Text) : Text :=
  match trimStart text with
  | '-' :: rest => trimStart rest
  | rest => rest

/-- The fields that are not missing. -/
def presentFields (fields : List (String × Option Text)) : Json.Fields :=
  Json.Fields.ofPairs (fields.filterMap fun (name, value?) =>
    value?.map fun value => (name.toList, Json.Value.string value))

/-- A description, unless it is blank. -/
def description? (text : Text) : Option Text := some (trim text) |>.filter fun t => !t.isEmpty

/-- The parameter that an annotation describes, `{type} name [default] - description`; all parts
but the name may be missing, and a dollar sign before the name does not count. -/
def readParam (value : Text) : Json.Value :=
  let text := trim value
  let (type?, rest) := match splitType? text with
    | some (type, after) => if after.isEmpty then (none, text) else (some type, after)
    | none => (none, text)
  let name := rest.takeWhile fun c => !isBlank c
  let rest := rest.drop name.length
  let (default?, rest) := match splitDefault? rest with
    | some (default, after) => (some default, after)
    | none => (none, rest)
  .object (presentFields [("type", type?.map trim), ("name", some (name.dropWhile (· == '$'))),
    ("default", default?.map trim), ("description", description? (dropHyphen rest))])

/-- The typed remark that an annotation makes, `{type} description`; both parts may be missing. -/
def readTyped (value : Text) : Json.Value :=
  let text := trim value
  let (type?, rest) := match splitType? text with
    | some (type, after) => (some type, after)
    | none => (none, text)
  .object (presentFields [("type", type?.map trim), ("description", description? rest)])

end DocSite.Doclet
