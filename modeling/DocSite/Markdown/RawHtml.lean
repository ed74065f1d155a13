/-
# DocSite.Markdown.RawHtml -- HTML in Markdown text

What counts as HTML when it stands in a text: whole blocks of seven kinds, told apart by how their
first line begins, and tags, comments, declarations and the like within a paragraph. A recogniser of
the latter answers with what follows the HTML.
-/
import DocSite.Markdown.Place

set_option autoImplicit false

namespace DocSite.Markdown.RawHtml

open Text

/-- A letter of ASCII. -/
def isLetter (c : Char) : Bool := c.isAlpha

/-- White space within a line, and line breaks where tags may run over lines. -/
def isTagGap (multiline : Bool) (c : Char) : Bool :=
  isGap c || (multiline && isBreak c)

/-! ## Tags -/

/-- What follows the value of an attribute. -/
def afterValue? : List Char → Option (List Char)
  | '"' :: rest =>
    match rest.dropWhile (· != '"') with
    | _ :: after => some after
    | [] => none
  | '\'' :: rest =>
    match rest.dropWhile (· != '\'') with
    | _ :: after => some after
    | [] => none
  | cs =>
    let after := cs.dropWhile fun c =>
      !(c == ' ' || isBreak c || c == '=' || c == '<' || c == '>' || c == '\x60' || c == '"' ||
        c == '\'')
    if after.length = cs.length then none else some after

/-- What follows an attribute, its value included. -/
def afterAttribute? (multiline : Bool) : List Char → Option (List Char)
  | c :: rest =>
    if isLetter c || c == '_' || c == ':' then
      let afterName := rest.dropWhile fun x =>
        x.isAlphanum || x == '.' || x == '-' || x == '_' || x == ':'
      match afterName.dropWhile (isTagGap multiline) with
      | '=' :: value => afterValue? (value.dropWhile (isTagGap multiline))
      | _ => some afterName
    else none
  | [] => none

/-- What follows the attributes of an opening tag: the text from the closing `/` or `>` on.
Each attribute stands after white space. -/
def afterAttributes? (multiline : Bool) : (fuel : Nat) → List Char → Option (List Char)
  | 0, _ => none
  | fuel + 1, cs =>
    let rest := cs.dropWhile (isTagGap multiline)
    match rest with
    | '/' :: _ => some rest
    | '>' :: _ => some rest
    | _ =>
      if rest.length = cs.length then none
      else (afterAttribute? multiline rest).bind (afterAttributes? multiline fuel)

/-- What follows an opening or closing tag; the text begins after its `<`. -/
def afterTag? (multiline : Bool) : List Char → Option (List Char)
  | '/' :: c :: rest =>
    if isLetter c then
      match (rest.dropWhile fun x => x.isAlphanum || x == '-').dropWhile isGap with
      | '>' :: after => some after
      | _ => none
    else none
  | c :: rest =>
    if isLetter c then
      let afterName := rest.dropWhile fun x => x.isAlphanum || x == '-'
      match afterAttributes? multiline (afterName.length + 1) afterName with
      | some ('/' :: '>' :: after) => some after
      | some ('>' :: after) => some after
      | _ => none
    else none
  | [] => none

/-! ## HTML within a paragraph -/

/-- What follows the first occurrence of `phrase`. -/
def afterPhrase? (phrase cs : List Char) : Option (List Char) :=
  (splitFirst? phrase cs).map (·.2)

/-- What follows a section of plain characters: it ends at its first closing bracket, or at those
that follow this one directly, and a pointed bracket must come next. -/
def afterSection? (cs : List Char) : Option (List Char) :=
  match cs.dropWhile (· != ']') with
  | [] => none
  | brackets =>
    match brackets.dropWhile (· == ']') with
    | '>' :: after => some after
    | _ => none

/-- What follows a comment, section, declaration or instruction within a paragraph; the text begins
after its `<`. -/
def afterDeclaration? : List Char → Option (List Char)
  | '!' :: '-' :: '-' :: rest =>
    match rest with
    | '>' :: after => some after
    | '-' :: '>' :: after => some after
    | _ => afterPhrase? ['-', '-', '>'] rest
  | '!' :: '[' :: 'C' :: 'D' :: 'A' :: 'T' :: 'A' :: '[' :: rest => afterSection? rest
  | '!' :: c :: rest => if isLetter c then afterPhrase? ['>'] rest else none
  | '?' :: rest => afterPhrase? ['?', '>'] rest
  | _ => none

/-! ## HTML blocks -/

/-- Names of the elements whose tags open a block that lasts until a blank line. -/
def blockNames : List String :=
  ["address", "article", "aside", "base", "basefont", "blockquote", "body", "caption", "center",
    "col", "colgroup", "dd", "details", "dialog", "dir", "div", "dl", "dt", "fieldset",
    "figcaption", "figure", "footer", "form", "frame", "frameset", "h1", "h2", "h3", "h4", "h5",
    "h6", "head", "header", "hr", "html", "iframe", "legend", "li", "link", "main", "menu",
    "menuitem", "nav", "noframes", "ol", "optgroup", "option", "p", "param", "search", "section",
    "summary", "table", "tbody", "td", "tfoot", "th", "thead", "title", "tr", "track", "ul"]

/-- What ends a block of HTML. -/
inductive BlockEnd where
  | phrase (text : List Char)
  | blankLine
deriving DecidableEq, Repr

/-- Whether a tag of the element `name`, one that holds text of another language, opens here. -/
def opensVerbatim (name : String) (cs : List Char) : Bool :=
  let size := name.length
  (cs.take size).map Char.toLower == name.toList &&
    match cs.drop size with
    | [] => true
    | c :: _ => isGap c || c == '>'

/-- The end of a block that is recognised by its first characters and holds anything up to a
closing phrase; the text begins after the `<`. -/
def closedBlock? (cs : List Char) : Option BlockEnd :=
  if opensVerbatim "pre" cs then some (.phrase "</pre>".toList)
  else if opensVerbatim "style" cs then some (.phrase "</style>".toList)
  else if opensVerbatim "script" cs then some (.phrase "</script>".toList)
  else if opensVerbatim "textarea" cs then some (.phrase "</textarea>".toList)
  else match cs with
    | '!' :: '-' :: '-' :: _ => some (.phrase ['-', '-', '>'])
    | '?' :: _ => some (.phrase ['?', '>'])
    | '!' :: '[' :: 'C' :: 'D' :: 'A' :: 'T' :: 'A' :: '[' :: _ => some (.phrase [']', ']', '>'])
    | '!' :: c :: _ => if isLetter c then some (.phrase ['>']) else none
    | _ => none

/-- Whether a tag of a block element opens here; the text begins after the `<`. -/
def opensBlockElement (cs : List Char) : Bool :=
  let tail := match cs with
    | '/' :: rest => rest
    | _ => cs
  let name := tail.takeWhile Char.isAlphanum
  blockNames.any (fun known => known.toList == name.map Char.toLower) &&
    match tail.drop name.length with
    | [] => true
    | '/' :: '>' :: _ => true
    | c :: _ => c == ' ' || c == '\t' || c == '>'

/-- Whether a line is a single complete tag; the text begins after the `<`. -/
def isTagLine (cs : List Char) : Bool :=
  match afterTag? false cs with
  | some after => after.all isGap
  | none => false

/-- The end of the block of HTML that a line begins and that may interrupt a paragraph; the line is
given without its `<`. -/
def interruptingBlock? (cs : List Char) : Option BlockEnd :=
  match closedBlock? cs with
  | some ending => some ending
  | none => if opensBlockElement cs then some .blankLine else none

/-- The end of the block of HTML that a line begins; the line is given without its `<`. -/
def block? (cs : List Char) : Option BlockEnd :=
  match interruptingBlock? cs with
  | some ending => some ending
  | none => if isTagLine cs then some .blankLine else none

end DocSite.Markdown.RawHtml
