/-
# DocSite.Markdown.Event -- a document as a sequence of events

The reader of a document sees its elements begin and end, and its texts between these. Writers
and filters work on this sequence; `Event.ofSource` is how a source text is read.
-/
import DocSite.Markdown.Inline

set_option autoImplicit false

namespace DocSite.Markdown

/-- An element that encloses others. Code is fenced, with the text after its opening fence, or
indented. -/
inductive Tag where
  | paragraph
  | heading (level : Nat) (span : Span)
  | quote
  | code (fence : Option (List Char))
  | htmlBlock
  | list (start : Option Nat)
  | item
  | footnote (label : List Char)
  | table (columns : List Alignment)
  | tableHead
  | tableRow
  | tableCell
  | emphasis
  | strong
  | strikethrough
  | link (kind : LinkKind) (dest title : List Char) (span : Span)
  | image (dest title : List Char) (span : Span)
deriving DecidableEq, Repr

/-- One event of a document. -/
inductive Event where
  | start (tag : Tag)
  | stop (tag : Tag)
  | text (value : List Char)
  | code (value : List Char)
  | html (value : List Char)
  | inlineHtml (value : List Char)
  | note (label : List Char)
  | softBreak
  | hardBreak
  | rule
  | task (done : Bool)
deriving DecidableEq, Repr

namespace Event

/-- Events enclosed by an element. -/
def within (tag : Tag) (inner : List Event) : List Event := .start tag :: inner ++ [.stop tag]

mutual
/-- The events of a piece of text. -/
def ofInline : Inline → List Event
  | .text value => [.text value]
  | .code value => [.code value]
  | .html value => [.inlineHtml value]
  | .softBreak => [.softBreak]
  | .hardBreak => [.hardBreak]
  | .emphasis children => within .emphasis (ofInlines children)
  | .strong children => within .strong (ofInlines children)
  | .strikethrough children => within .strikethrough (ofInlines children)
  | .link kind dest title span children =>
    within (.link kind dest title span) (ofInlines children)
  | .image dest title span children => within (.image dest title span) (ofInlines children)
  | .note label => [.note label]

/-- The events of a text. -/
def ofInlines : List Inline → List Event
  | [] => []
  | inline :: rest => ofInline inline ++ ofInlines rest
end

/-- The events of an unread text. -/
def ofText (targets : Targets) (content : Passage) : List Event :=
  ofInlines (readInlines targets content)

/-- The text of a chunk of HTML or code. -/
def chunkText : Chunk → List Char
  | .filler spaces => spaces
  | .source characters => characters

/-- The events of one table row. -/
def ofCells (targets : Targets) (cells : List Passage) : List Event :=
  cells.flatMap fun cell => within .tableCell (ofText targets cell)

mutual
/-- The events of a block; a paragraph has markup of its own unless it is an entry of a `tight`
list. -/
def ofBlock (targets : Targets) (tight : Bool) : Block → List Event
  | .paragraph done content =>
    let inner := (done.toList.map .task) ++ ofText targets content
    if tight then inner else within .paragraph inner
  | .heading level span done content =>
    within (.heading level span) ((done.toList.map .task) ++ ofText targets content)
  | .fenced info lines => within (.code (some info)) (lines.map fun c => .text (chunkText c))
  | .indented lines => within (.code none) (lines.map fun c => .text (chunkText c))
  | .html lines => within .htmlBlock (lines.map fun c => .html (chunkText c))
  | .rule => [.rule]
  | .table columns head rows =>
    within (.table columns)
      (within .tableHead (ofCells targets head) ++
        rows.flatMap fun row => within .tableRow (ofCells targets row))
  | .quote children => within .quote (ofBlocks targets false children)
  | .list first tight items => within (.list first) (ofBlocks targets tight items)
  | .item children => within .item (ofBlocks targets tight children)
  | .task done => [.task done]
  | .footnote label children => within (.footnote label) (ofBlocks targets false children)

/-- The events of blocks that follow each other. -/
def ofBlocks (targets : Targets) (tight : Bool) : List Block → List Event
  | [] => []
  | block :: rest => ofBlock targets tight block ++ ofBlocks targets tight rest
end

/-- The events of an outline. -/
def ofOutline (o : Outline) : List Event :=
  ofBlocks (Targets.ofOutline o) false o.blocks.reverse

/-- The events of a source text. -/
def ofSource (source : List Char) : List Event := ofOutline (Outline.ofSource source)

end Event

end DocSite.Markdown
