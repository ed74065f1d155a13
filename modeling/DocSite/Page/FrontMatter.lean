/-
# DocSite.Page.FrontMatter -- what a page says about itself

A page may begin with a block between two lines of three dashes. The block is a mapping; the
library gives a meaning to a few of its keys and keeps the others. `extract` takes the block off a
source and `toBlock?` writes it again, if it can be written at all.
-/
import DocSite.Yaml.Printer
import DocSite.Yaml.Reader

set_option autoImplicit false

namespace DocSite.Page

open Text

/-- The front matter of a page: a mapping in the order in which it was declared. -/
structure FrontMatter where
  entries : Yaml.Entries
deriving Repr

/-- How mappings are read and written. -/
structure Codec where
  read? : Text → Option Yaml.Value
  print? : Yaml.Entries → Option Text

/-- Mappings as YAML documents. -/
def Codec.yaml : Codec := ⟨Yaml.read?, Yaml.printMapping?⟩

namespace FrontMatter

/-- Front matter that says nothing. -/
def empty : FrontMatter := ⟨[]⟩

/-- The value of a key. -/
def get? (key : Text) (fm : FrontMatter) : Option Yaml.Value := fm.entries.get? key

/-- Gives a key a value. A key keeps its place, and a new one comes last. -/
def insert (key : Text) (value : Yaml.Value) (fm : FrontMatter) : FrontMatter :=
  ⟨fm.entries.insert key value⟩

/-- The string that a key has. -/
def string? (key : Text) (fm : FrontMatter) : Option Text := (fm.get? key).bind Yaml.Value.string?

/-- The text of a value that may be a title: a string, a number or a truth value. -/
def titleText? : Yaml.Value → Option Text
  | .string text => some text
  | .int n => some (NumberLayout.ofInt n)
  | .float number => some (Yaml.numberText number)
  | .bool true => some "true".toList
  | .bool false => some "false".toList
  | _ => none

/-- The title, unless it is blank. -/
def title? (fm : FrontMatter) : Option Text :=
  ((fm.get? "title".toList).bind titleText?).filter fun text => !blank text

/-- The group of pages that the page belongs to. -/
def group? (fm : FrontMatter) : Option Text := fm.string? "group".toList

/-- The name of the layout of the page. -/
def layout? (fm : FrontMatter) : Option Text := fm.string? "layout".toList

/-- The place of the page among the others, a number of 64 bits. -/
def order? (fm : FrontMatter) : Option Int :=
  ((fm.get? "order".toList).bind Yaml.Value.int?).filter fun n => n < twoTo 63

/-- The documentation that the page asks for: names of adapters, and what they are to look at.
Entries whose key is no string do not count. -/
def docs (fm : FrontMatter) : List (Text × Yaml.Value) :=
  (((fm.get? "docs".toList).bind Yaml.Value.mapping?).getD []).filterMap fun (key, value) =>
    key.string?.map (·, value)

/-! ## Blocks -/

/-- The line before and after front matter. -/
def fence : Text := ['-', '-', '-']

/-- What is wrong with a source. -/
inductive Error where
  | unclosed
  | invalid
  | notMapping
deriving DecidableEq, Repr

/-- The text of an error, as far as it does not depend on what is wrong within the block. -/
def Error.message? : Error → Option Text
  | unclosed => some "Unclosed front matter block - missing closing ---".toList
  | notMapping => some "Front matter must be a key/value mapping".toList
  | invalid => none

/-- The first line of a text, and what follows its line feed. -/
def firstLine (source : Text) : Text × Text :=
  let line := source.takeWhile (· != '\n')
  (line, source.drop (line.length + 1))

/-- Whether a line is a fence; white space at its end does not count. -/
def isFence (line : Text) : Bool := trimEnd line == fence

/-- What follows the fence that a text begins with. -/
def afterFence? (source : Text) : Option Text :=
  let (line, rest) := firstLine source
  if isFence line then some rest else none

/-- The text before the first line that is a fence, and the text after that line. -/
def splitAtFence? : List Text → Option (Text × Text)
  | [] => none
  | line :: rest =>
    if isFence line then some ([], rest.flatten)
    else (splitAtFence? rest).map fun (inside, after) => (line ++ inside, after)

/-- The front matter that a block stands for. -/
def ofBlock (codec : Codec) (text : Text) : Except Error FrontMatter :=
  if blank text then .ok empty
  else match codec.read? text with
    | some (.mapping entries) => .ok ⟨entries⟩
    | some .null => .ok empty
    | some _ => .error .notMapping
    | none => .error .invalid

/-- Takes the front matter off a source; answers also the text that follows. -/
def extractWith (codec : Codec) (source : Text) : Except Error (FrontMatter × Text) :=
  match afterFence? (trimStart source) with
  | none => .ok (empty, source)
  | some rest =>
    match splitAtFence? (linesKept rest) with
    | none => .error .unclosed
    | some (inside, after) => (ofBlock codec inside).map fun fm => (fm, dropBreaks after)

/-- Takes the front matter off a source. -/
def extract (source : Text) : Except Error (FrontMatter × Text) := extractWith .yaml source

/-- Front matter as a block that a text can follow, if its mapping can be written. -/
def toBlockWith? (codec : Codec) (fm : FrontMatter) : Option Text :=
  (codec.print? fm.entries).map fun text => fence ++ '\n' :: text ++ fence ++ ['\n']

/-- Front matter as a block that a text can follow, if its mapping can be written. -/
def toBlock? (fm : FrontMatter) : Option Text := fm.toBlockWith? .yaml

end FrontMatter

end DocSite.Page
