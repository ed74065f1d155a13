/-
# DocSite.Markdown.Block -- the block structure of a document

Blocks are the paragraphs, headings, lists and so on that a document is made of. The text inside
them is still unread: it is kept as tokens until the link definitions of the whole document are
known.
-/
import DocSite.Markdown.Container
import DocSite.Markdown.Token
import DocSite.Text.Case

set_option autoImplicit false

namespace DocSite.Markdown

/-- How the cells of a table column are aligned. -/
inductive Alignment where
  | none
  | left
  | center
  | right
deriving DecidableEq, Repr

/-- A text whose marks are not settled yet: its tokens, the offset at which it ends, the containers
whose marks stand at the beginning of its lines, and whether it is the cell of a table. -/
structure Passage where
  tokens : List Token
  stop : Nat
  containers : List Container
  cell : Bool
deriving Repr

/-- One piece of a line of HTML or code: white space that stands for part of a tab or for
indentation, or text of the source. -/
inductive Chunk where
  | filler (spaces : List Char)
  | source (text : List Char)
deriving DecidableEq, Repr

/-- A block of a document. A paragraph may begin with the mark of a task, done or not. A list has
the number of its first item if its items are numbered, and the paragraphs of a tight list stand
without markup of their own. -/
inductive Block where
  | paragraph (task : Option Bool) (text : Passage)
  | heading (level : Nat) (span : Span) (task : Option Bool) (text : Passage)
  | fenced (info : List Char) (code : List Chunk)
  | indented (code : List Chunk)
  | html (lines : List Chunk)
  | rule
  | table (columns : List Alignment) (head : List Passage) (rows : List (List Passage))
  | quote (children : List Block)
  | list (start : Option Nat) (tight : Bool) (items : List Block)
  | item (children : List Block)
  | task (done : Bool)
  | footnote (label : List Char) (children : List Block)
deriving Repr

/-- A link definition: the label it is found by, what it stands for, and where it stands. -/
structure Definition where
  label : List Char
  dest : List Char
  title : List Char
  span : Span
deriving DecidableEq, Repr

/-- The form in which labels are compared: case does not count. The dotless `i` has no other case
here, nor have letters whose other case is recent. -/
def foldLabel (label : List Char) : List Char :=
  label.flatMap fun c =>
    if c = 'ı' || Text.isRecentlyCased c then [c] else (Text.lowerChar c).flatMap Text.upperChar

end DocSite.Markdown
