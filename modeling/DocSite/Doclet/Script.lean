/-
# DocSite.Doclet.Script -- documentation in scripts

A comment between `/**` and `*/` documents the next line of code: a function, a class, a constant
or a member of a class. A comment may also name what it documents itself.
-/
import DocSite.Doclet.Comment
import DocSite.Text.Word

set_option autoImplicit false

namespace DocSite.Doclet.Script

open Text

/-! ## Lines of code -/

/-- A character of names. -/
def isNameChar (c : Char) : Bool := isWord c || c == '$'

/-- The name that a text begins with, and what follows it. -/
def splitName? (text : Text) : Option (Text × Text) :=
  let name := text.takeWhile isNameChar
  if name.isEmpty then none else some (name, text.drop name.length)

/-- What follows a word and the white space after it. -/
def afterWord? (word : String) (text : Text) : Option Text :=
  (dropPhrase? word.toList text).bind fun rest =>
    if rest.head?.any isBlank then some (trimStart rest) else none

/-- A text without a word that may stand at its beginning. -/
def dropWord (word : String) (text : Text) : Text := (afterWord? word text).getD text

/-- A text without words that may stand at its beginning, in this order. -/
def dropWords (words : List String) (text : Text) : Text :=
  words.foldl (fun text word => dropWord word text) text

/-- The function that a line declares. -/
def function? (line : Text) : Option Text :=
  (dropPhrase? "function".toList (dropWords ["export", "default", "async"] line)).bind fun rest =>
    let rest := match trimStart rest with
      | '*' :: after => trimStart after
      | after => after
    (splitName? rest).map (·.1)

/-- The class that a line declares. -/
def class? (line : Text) : Option Text :=
  (afterWord? "class" (dropWords ["export", "default", "abstract"] line)).bind fun rest =>
    (splitName? rest).map (·.1)

/-- The constant or variable that a line declares, and what follows its name. -/
def declared? (line : Text) : Option (Text × Text) :=
  let line := dropWord "export" line
  let rest? := match afterWord? "const" line with
    | some rest => some rest
    | none => match afterWord? "let" line with
      | some rest => some rest
      | none => afterWord? "var" line
  rest?.bind splitName?

/-- Whether an arrow follows white space. -/
def startsArrow (text : Text) : Bool := (dropPhrase? ['=', '>'] (trimStart text)).isSome

/-- Whether a function without a name begins a text. -/
def startsFunction (text : Text) : Bool :=
  (match dropPhrase? "function".toList text with
    | some rest => !(rest.head?.any isWord)
    | none => false) ||
  (match text with
    | '(' :: rest =>
      match rest.dropWhile (· != ')') with
      | _ :: after => startsArrow after
      | [] => false
    | _ => false) ||
  (match splitName? text with
    | some (_, after) => startsArrow after
    | none => false)

/-- Whether a value that follows the name of a declaration, perhaps after its type, is a
function. -/
def assignsFunction (text : Text) : Bool :=
  let text := trimStart text
  let value? : Option Text := match text with
    | '=' :: rest => some rest
    | ':' :: c :: rest =>
      if c = '=' then none
      else match rest.dropWhile (· != '=') with
        | _ :: after => some after
        | [] => none
    | _ => none
  match value? with
  | none => false
  | some value =>
    let value := trimStart value
    ((afterWord? "async" value).any startsFunction) || startsFunction value

/-- The words that may stand before the name of a member. -/
def memberWords : List String :=
  ["static", "async", "get", "set", "public", "private", "protected", "readonly"]

/-- The member that a text declares after the words before its name. -/
def plainMember? (text : Text) : Option Text :=
  (splitName? text).bind fun (name, after) =>
    match trimStart after with
    | c :: _ => if c = '(' || c = '=' || c = ':' then some name else none
    | [] => none

/-- The member that a line declares; as many of the words before the name as possible are no name.
`fuel` bounds their number. -/
def memberWithin? : (fuel : Nat) → Text → Option Text
  | 0, text => plainMember? text
  | fuel + 1, text =>
    match (memberWords.findSome? fun word => afterWord? word text).bind (memberWithin? fuel) with
    | some name => some name
    | none => plainMember? text

/-- Words that are no names of members. -/
def keywords : List String :=
  ["if", "for", "while", "switch", "return", "catch", "function", "typeof", "await"]

/-- The member that a line declares. -/
def member? (line : Text) : Option Text :=
  (memberWithin? line.length line).filter fun name => !keywords.any fun word => word.toList == name

/-- What can be documented, with its name. -/
inductive Subject where
  | function (name : Text)
  | class (name : Text)
  | constant (name : Text)
  | member (name : Text)
deriving DecidableEq, Repr

namespace Subject

/-- The kind of a subject. -/
def kind : Subject → String
  | .function _ => "function"
  | .class _ => "class"
  | .constant _ => "constant"
  | .member _ => "member"

/-- The name of a subject. -/
def name : Subject → Text
  | .function name => name
  | .class name => name
  | .constant name => name
  | .member name => name

/-- The subject that a line declares; the line is given without white space at its ends. -/
def ofLine? (line : Text) : Option Subject :=
  match function? line with
  | some name => some (.function name)
  | none => match class? line with
    | some name => some (.class name)
    | none => match declared? line with
      | some (name, rest) =>
        some (if assignsFunction rest then .function name else .constant name)
      | none => (member? line).map .member

end Subject

/-! ## Comments -/

/-- A line of a comment without the white space and the star that it begins with. -/
def dropStar (line : Text) : Text :=
  match trimStart line with
  | '*' :: ' ' :: rest => rest
  | '*' :: rest => rest
  | rest => rest

/-- What follows the mark that opens a comment, if a line begins with it. -/
def afterOpening? (line : Text) : Option Text :=
  match trimStart line with
  | '/' :: '*' :: '*' :: rest =>
    match rest with
    | '*' :: _ => none
    | '/' :: _ => none
    | _ => some rest
  | _ => none

/-- The lines of a comment whose first line goes on with `text`, and the lines after it. -/
def splitComment? (text : Text) : List Text → Option (List Text × List Text)
  | [] =>
    (splitFirst? ['*', '/'] text).map fun (inside, _) => ([dropStar inside], [])
  | line :: rest =>
    match splitFirst? ['*', '/'] text with
    | some (inside, _) => some ([dropStar inside], line :: rest)
    | none =>
      (splitComment? line rest).map fun (inside, after) => (dropStar text :: inside, after)

/-- The first line that is not blank, without white space at its ends, and its number; the lines
are numbered from `number` on. -/
def nextCode? (number : Nat) : List Text → Option (Nat × Text)
  | [] => none
  | line :: rest => if blank line then nextCode? (number + 1) rest else some (number, trim line)

/-! ## Doclets -/

/-- The names of the annotations of parameters. -/
def paramNames : List Text := ["param".toList, "arg".toList, "argument".toList]

/-- The names of the annotations that doclets do not keep under their own names. -/
def consumedNames : List Text :=
  paramNames ++ ["return".toList, "returns".toList, "name".toList, "kind".toList]

/-- The doclet of a comment before a line of code, unless the comment has no subject. -/
def doclet? (comment : Comment) (code : Option (Nat × Text)) (file : Text) : Option Json.Value :=
  let detected : Option (Nat × Subject) := code.bind fun (number, line) =>
    (Subject.ofLine? line).map (number, ·)
  let kindOr (kind : String) : Text := (comment.first? "kind".toList).getD kind.toList
  let found : Option (Text × Text × Option Nat) :=
    match (comment.first? "name".toList).filter (fun name => !name.isEmpty), detected with
    | some name, _ => some (kindOr "member", name, code.map (·.1))
    | none, some (number, subject) => some (kindOr subject.kind, subject.name, some number)
    | none, none => none
  found.map fun (kind, name, number) =>
    let line : Json.Value := match number with
      | some n => .int n
      | none => .null
    let params := (comment.all paramNames).map readParam
    let returned := match comment.first? "returns".toList with
      | some value => some value
      | none => comment.first? "return".toList
    .object (Json.Fields.ofPairs (comment.fieldsExcept consumedNames ++
      [("kind".toList, .string kind), ("name".toList, .string name),
        ("description".toList, .string comment.description),
        ("meta".toList, .record [("path", .string file), ("lineno", line)])] ++
      (if params.isEmpty then [] else [("params".toList, .array params)]) ++
      (match returned with
        | some value => [("returns".toList, .array [readTyped value])]
        | none => [])))

/-- A comment that is not closed, with the number of the line it begins on. -/
structure Unterminated where
  line : Nat
deriving DecidableEq, Repr

/-- The text of the error. -/
def Unterminated.message : Text := "unterminated doc comment".toList

/-- The doclets of the lines from number `number` on; `fuel` bounds the number of lines. -/
def docletsFrom (file : Text) :
    (fuel number : Nat) → List Text → Except Unterminated (List Json.Value)
  | 0, _, _ => .ok []
  | _ + 1, _, [] => .ok []
  | fuel + 1, number, line :: rest =>
    match afterOpening? line with
    | none => docletsFrom file fuel (number + 1) rest
    | some text =>
      match splitComment? text rest with
      | none => .error ⟨number⟩
      | some (inside, after) =>
        let next := number + 1 + (rest.length - after.length)
        let found := doclet? (Comment.ofLines inside) (nextCode? next after) file
        (docletsFrom file fuel next after).map (found.toList ++ ·)

/-- The doclets of a source, in order. -/
def doclets (source file : Text) : Except Unterminated (List Json.Value) :=
  let ls := lines source
  docletsFrom file ls.length 1 ls

end DocSite.Doclet.Script
