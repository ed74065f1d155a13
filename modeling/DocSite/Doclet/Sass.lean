/-
# DocSite.Doclet.Sass -- documentation in Sass sources

A run of lines that begin with three slashes documents the item on the next line of code:
a variable, a mixin, a function or a placeholder. Blank lines may come between the two; any other
line, and a line that begins with four slashes, gives up the run.
-/
import DocSite.Doclet.Comment
import DocSite.Text.Word

set_option autoImplicit false

namespace DocSite.Doclet.Sass

open Text

/-- A character of names. -/
def isNameChar (c : Char) : Bool := isWord c || c == '-'

/-- The name that a text begins with, and what follows it. -/
def splitName? (text : Text) : Option (Text × Text) :=
  let name := text.takeWhile isNameChar
  if name.isEmpty then none else some (name, text.drop name.length)

/-- What can be documented. -/
inductive Item where
  | variable (name value : Text)
  | mixin (name : Text)
  | function (name : Text)
  | placeholder (name : Text)
deriving DecidableEq, Repr

namespace Item

/-- The value of a variable, without the semicolon that ends it. -/
def valueOf (text : Text) : Text :=
  match (trimEnd text).reverse with
  | ';' :: rest => trimEnd rest.reverse
  | rest => rest.reverse

/-- The variable that a line declares. -/
def ofVariable? : Text → Option Item
  | '$' :: rest =>
    (splitName? rest).bind fun (name, after) =>
      match trimStart after with
      | ':' :: value => some (.variable name (valueOf (trimStart value)))
      | _ => none
  | _ => none

/-- The item that a line declares with a keyword before its name. -/
def ofKeyword? (keyword : String) (make : Text → Item) (line : Text) : Option Item :=
  (dropPhrase? keyword.toList line).bind fun rest =>
    if rest.head?.any isBlank then (splitName? (trimStart rest)).map fun (name, _) => make name
    else none

/-- The placeholder that a line declares. -/
def ofPlaceholder? : Text → Option Item
  | '%' :: rest => (splitName? rest).map fun (name, _) => .placeholder name
  | _ => none

/-- The item that a line declares; the line is given without white space at its ends. -/
def ofLine? (line : Text) : Option Item :=
  match ofVariable? line with
  | some item => some item
  | none => match ofKeyword? "@mixin" .mixin line with
    | some item => some item
    | none => match ofKeyword? "@function" .function line with
      | some item => some item
      | none => ofPlaceholder? line

/-- The kind of an item. -/
def kind : Item → String
  | .variable _ _ => "variable"
  | .mixin _ => "mixin"
  | .function _ => "function"
  | .placeholder _ => "placeholder"

/-- The name of an item. -/
def name : Item → Text
  | .variable name _ => name
  | .mixin name => name
  | .function name => name
  | .placeholder name => name

/-- What a doclet says about the item on a line. -/
def context (line : Nat) (item : Item) : Json.Value :=
  let value := match item with
    | .variable _ value => [("value", Json.Value.string value)]
    | _ => []
  .record ([("type", .string item.kind.toList), ("name", .string item.name)] ++ value ++
    [("line", .record [("start", .int line)])])

end Item

/-- The names of the annotations of parameters. -/
def paramNames : List Text := ["param".toList, "parameter".toList, "arg".toList]

/-- The names of the annotations of results. -/
def returnNames : List Text := ["return".toList, "returns".toList]

/-- The doclet of an item on a line of a file. -/
def doclet (comment : Comment) (item : Item) (line : Nat) (file : Text) : Json.Value :=
  let params := (comment.all paramNames).map readParam
  let returned := match comment.first? "return".toList with
    | some value => some value
    | none => comment.first? "returns".toList
  .object (Json.Fields.ofPairs (comment.fieldsExcept (paramNames ++ returnNames) ++
    [("description".toList, .string comment.description),
      ("context".toList, item.context line),
      ("file".toList, .record [("path", .string file)])] ++
    (if params.isEmpty then [] else [("parameter".toList, .array params)]) ++
    (match returned with
      | some value => [("return".toList, readTyped value)]
      | none => [])))

/-- What a line, without white space at its ends, is for the reader of documentation. -/
inductive LineKind where
  | poster
  | comment (text : Text)
  | empty
  | code
deriving DecidableEq, Repr

/-- The kind of a line. -/
def LineKind.ofLine (line : Text) : LineKind :=
  match line with
  | '/' :: '/' :: '/' :: '/' :: _ => .poster
  | '/' :: '/' :: '/' :: ' ' :: text => .comment text
  | '/' :: '/' :: '/' :: text => .comment text
  | [] => .empty
  | _ => .code

/-- The doclets of the lines from number `number` on. `run` holds the comment lines before them,
the last first. -/
def docletsFrom (file : Text) (number : Nat) (run : List Text) : List Text → List Json.Value
  | [] => []
  | line :: rest =>
    match LineKind.ofLine (trim line) with
    | .poster => docletsFrom file (number + 1) [] rest
    | .comment text => docletsFrom file (number + 1) (text :: run) rest
    | .empty => docletsFrom file (number + 1) run rest
    | .code =>
      let later := docletsFrom file (number + 1) [] rest
      if run.isEmpty then later
      else match Item.ofLine? (trim line) with
        | some item => doclet (Comment.ofLines run.reverse) item number file :: later
        | none => later

/-- The doclets of a source, in order. -/
def doclets (source file : Text) : List Json.Value := docletsFrom file 1 [] (lines source)

end DocSite.Doclet.Sass
