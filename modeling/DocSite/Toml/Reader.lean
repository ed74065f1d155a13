/-
# DocSite.Toml.Reader -- reading TOML documents

A document consists of lines: headers, assignments, blank lines and comments. The assignments after a
header belong to the table it names. Lists and tables within values, and the parts of a dotted name,
nest only so deep.
-/
import DocSite.Toml.Scalar
import DocSite.Toml.Table

set_option autoImplicit false

namespace DocSite.Toml

open Text

/-- How deep values nest, and how many parts a dotted name has at most. -/
def maxDepth : Nat := 79

/-! ## Names -/

/-- Whether a character may stand in a name without quotes. -/
def isBare (c : Char) : Bool := c.isAlphanum || c == '-' || c == '_'

/-- The name that a text begins with, and what follows it. -/
def name? : Text → Option (Text × Text)
  | '"' :: rest => basic? rest
  | '\'' :: rest => literal? rest
  | cs =>
    let name := cs.takeWhile isBare
    if name.isEmpty then none else some (name, cs.drop name.length)

/-- The names between dots that a text begins with, with white space around them, and what follows;
`fuel` bounds their number. -/
def path? : (fuel : Nat) → Text → Option (List Text × Text)
  | 0, _ => none
  | fuel + 1, cs =>
    (name? (skipSpace cs)).bind fun (name, rest) =>
      match skipSpace rest with
      | '.' :: rest => (path? fuel rest).map fun (path, rest) => (name :: path, rest)
      | rest => some ([name], rest)

/-! ## Values -/

/-- The items of a list up to its closing bracket, given what reads one; `fuel` bounds their
number. -/
def items? (read? : Text → Option (Value × Text)) : (fuel : Nat) → Text → Option (List Value × Text)
  | 0, _ => none
  | fuel + 1, cs =>
    match skipRemarks false cs with
    | ']' :: rest => some ([], rest)
    | cs =>
      (read? cs).bind fun (item, rest) =>
        match skipRemarks false rest with
        | ',' :: rest => (items? read? fuel rest).map fun (items, rest) => (item :: items, rest)
        | ']' :: rest => some ([item], rest)
        | _ => none

/-- An assignment, given what reads its value, and what follows after white space. -/
def assignment? (read? : Text → Option (Value × Text)) (cs : Text) : Option (Assignment × Text) :=
  (path? maxDepth cs).bind fun (path, rest) =>
    match rest with
    | '=' :: rest => (read? (skipSpace rest)).map fun (value, rest) => ((path, value), skipSpace rest)
    | _ => none

/-- The assignments of a table up to its closing brace, of which there is at least one; `fuel` bounds
their number. -/
def assignments? (read? : Text → Option (Value × Text)) :
    (fuel : Nat) → Text → Option (List Assignment × Text)
  | 0, _ => none
  | fuel + 1, cs =>
    (assignment? read? cs).bind fun (first, rest) =>
      match rest with
      | ',' :: rest => (assignments? read? fuel rest).map fun (more, rest) => (first :: more, rest)
      | '\x7d' :: rest => some ([first], rest)
      | _ => none

/-- The value that a text begins with, nested at most `depth` times, and what follows it. -/
def value? : (depth : Nat) → Text → Option (Value × Text)
  | 0, cs => scalar? cs
  | depth + 1, cs =>
    match cs with
    | '[' :: rest =>
      (items? (value? depth) (rest.length + 1) rest).map fun (items, rest) => (.array items, rest)
    | '\x7b' :: rest =>
      match skipSpace rest with
      | '\x7d' :: rest => some (.table [], rest)
      | rest =>
        (assignments? (value? depth) (rest.length + 1) rest).bind fun (assignments, rest) =>
          (tableOf? assignments).map fun table => (table, rest)
    | _ => scalar? cs

/-! ## Documents -/

/-- A line that says something. -/
inductive Statement where
  | table (path : List Text)
  | element (path : List Text)
  | assign (assignment : Assignment)

/-- The statement that a text begins with, and what follows its line. -/
def statement? (cs : Text) : Option (Statement × Text) :=
  match cs with
  | '[' :: '[' :: rest =>
    (path? maxDepth rest).bind fun (path, rest) =>
    (dropPhrase? [']', ']'] rest).bind fun rest =>
    (endLine? rest).map fun rest => (.element path, rest)
  | '[' :: rest =>
    (path? maxDepth rest).bind fun (path, rest) =>
    (dropPhrase? [']'] rest).bind fun rest =>
    (endLine? rest).map fun rest => (.table path, rest)
  | _ =>
    (assignment? (value? maxDepth) cs).bind fun (assignment, rest) =>
    (endLine? rest).map fun rest => (.assign assignment, rest)

/-- The statements of a document; `fuel` bounds the number of its lines. -/
def statements? : (fuel : Nat) → Text → Option (List Statement)
  | 0, _ => none
  | fuel + 1, cs =>
    let cs := skipSpace cs
    if cs.isEmpty then some []
    else if cs.head? = some '#' || (dropBreak? cs).isSome then
      (endLine? cs).bind (statements? fuel)
    else
      (statement? cs).bind fun (statement, rest) =>
        (statements? fuel rest).map fun more => statement :: more

/-- A header and the assignments after it. -/
structure Section where
  path : List Text
  isElement : Bool
  assignments : List Assignment

/-- The assignments before the first header, and the sections after them. -/
def sections : List Statement → List Assignment × List Section
  | [] => ([], [])
  | statement :: rest =>
    let (first, more) := sections rest
    match statement with
    | .assign assignment => (assignment :: first, more)
    | .table path => ([], ⟨path, false, first⟩ :: more)
    | .element path => ([], ⟨path, true, first⟩ :: more)

/-- Takes a section into a document. -/
def Section.define? (document : Nodes) (s : Section) : Option Nodes :=
  if s.isElement then document.addTable? s.path s.assignments
  else document.defineTable? s.path s.assignments

/-- The entries of a document; a byte-order mark before it does not count. -/
def read? (document : Text) : Option Entries :=
  let cs := match document with
    | '\uFEFF' :: rest => rest
    | cs => cs
  (statements? (cs.length + 1) cs).bind fun statements =>
    let (first, more) := sections statements
    ((Nodes.assignAll? first []).bind fun nodes => more.foldlM Section.define? nodes).map
      Node.toEntries

end DocSite.Toml
