/-
# DocSite.Markdown.Outline -- reading the blocks of a document

What is open when a line begins is a stack of containers (quotes, lists, items, notes); each of
them takes its mark or its indentation off the line. Those that do not find theirs are closed,
unless the line only continues a paragraph. New containers may then open, and what is left of the
line begins a block without containers, which takes as many further lines as belong to it.
-/
import DocSite.Markdown.Definition
import DocSite.Markdown.Leaf

set_option autoImplicit false

namespace DocSite.Markdown

open Text

/-- The finished block of a container. -/
def Container.close (children : List Block) : Container → Block
  | quote => .quote children
  | list marker start tight =>
    .list (if marker = '.' || marker = ')' then some start else none) tight children
  | item _ => .item children
  | footnote label => .footnote label children

/-- A container with the blocks read into it so far, the last first. -/
structure Opened where
  container : Container
  blocks : List Block

/-- A document while it is read: the open containers, the innermost first, and the finished blocks
outside them, the last first. `gap` tells that a blank line came last, `bare` that an item began
with one; `task` is the mark of a task whose paragraph is still to come. -/
structure Outline where
  opened : List Opened
  blocks : List Block
  gap : Bool
  bare : Bool
  task : Option Bool
  definitions : List Definition
  notes : List (List Char)

namespace Outline

/-- Nothing read yet. -/
def empty : Outline := ⟨[], [], false, false, none, [], []⟩

/-- The open containers, the outermost first. -/
def containers (o : Outline) : List Container := (o.opened.map (·.container)).reverse

/-- Adds a block to the innermost container. -/
def add (block : Block) (o : Outline) : Outline :=
  match o.opened with
  | [] => { o with blocks := block :: o.blocks }
  | inner :: outer => { o with opened := { inner with blocks := block :: inner.blocks } :: outer }

/-- Opens a container inside the innermost one. -/
def push (container : Container) (o : Outline) : Outline :=
  { o with opened := ⟨container, []⟩ :: o.opened }

/-- Closes the innermost container. -/
def pop (o : Outline) : Outline :=
  match o.opened with
  | [] => o
  | inner :: outer =>
    let bare := match inner.container with
      | .list _ _ true => false
      | _ => o.bare
    add (inner.container.close inner.blocks.reverse) { o with opened := outer, bare := bare }

/-- Closes the `n` innermost containers. -/
def popMany : Nat → Outline → Outline
  | 0, o => o
  | n + 1, o => popMany n o.pop

/-! ## Lists -/

/-- Closes an item that began with a blank line and has had another since. -/
def finishBareItem (o : Outline) : Outline :=
  let o := match o.bare && o.gap, o.opened with
    | true, ⟨.item _, _⟩ :: _ => o.pop
    | _, _ => o
  { o with bare := false }

/-- Makes the list loose that is the container at depth `depth`. -/
def loosen : (depth : Nat) → List Opened → List Opened
  | _, [] => []
  | 0, ⟨.list marker start _, blocks⟩ :: rest => ⟨.list marker start false, blocks⟩ :: rest
  | 0, rest => rest
  | depth + 1, inner :: rest => inner :: loosen depth rest

/-- Closes the list that is innermost, if one is; a blank line before makes the list around the
present item loose. -/
def finishList (o : Outline) : Outline :=
  let o := o.finishBareItem
  let o := match o.opened with
    | ⟨.list _ _ _, _⟩ :: _ => o.pop
    | _ => o
  if o.gap then { o with opened := loosen 1 o.opened, gap := false } else o

/-- Goes on with the innermost list if it has this marker, and opens a new list otherwise. -/
def continueList (marker : Char) (number : Nat) (o : Outline) : Outline :=
  let o := o.finishBareItem
  match o.opened with
  | ⟨.list marker' start tight, blocks⟩ :: outer =>
    if marker' = marker then
      if o.gap then { o with opened := ⟨.list marker start false, blocks⟩ :: outer, gap := false }
      else { o with opened := ⟨.list marker start tight, blocks⟩ :: outer }
    else { (o.finishList.push (.list marker number true)) with gap := false }
  | [] => { (o.push (.list marker number true)) with gap := false }
  | _ => { (o.finishList.push (.list marker number true)) with gap := false }

/-! ## Lines -/

/-- The mark of a task, and the cursor after it. -/
def taskMark? (here : Cursor) : Option (Bool × Cursor) :=
  let (_, here) := here.skip 3
  match here.rest with
  | '[' :: c :: ']' :: d :: _ =>
    if isGap d then
      if isGap c then some (false, here.advance 3)
      else if c = 'x' || c = 'X' then some (true, here.advance 3)
      else none
    else none
  | _ => none

/-- Opens the containers that begin on a line. Answers the cursor after them, or the place of the
next line if this one is used up. `limit` bounds their number. -/
def openContainers : (limit : Nat) → Cursor → Outline → Outline × (Place ⊕ Cursor)
  | 0, start, o => (o, .inr start)
  | limit + 1, start, o =>
    let (missing, here) := start.skip 4
    if missing = 0 then (o, .inr start)
    else match noteLabel? here.rest with
      | some (label, size) =>
        let o := o.finishList
        let o := match o.opened with
          | ⟨.footnote _, _⟩ :: _ => o.pop
          | _ => o
        let o := { o.push (.footnote label) with notes := foldLabel label :: o.notes }
        let text := here.place.advance size
        openContainers limit (Cursor.start (text.advance (gapSize text.rest))) o
      | none =>
        match if isRule here.rest then none else listMarker? here.rest with
        | some (marker, number, width) =>
          let outer := 4 - missing
          let afterMarker := ((here.advance width).skip 1).2
          let (absent, inner) := afterMarker.skip 4
          let indent := outer + width + 1
          let blank := blankSize? afterMarker.rest
          let (indent, next) :=
            if blank.isSome || absent = 0 then (indent, afterMarker)
            else (indent + (4 - absent), inner)
          let o := (o.continueList marker number).push (.item indent)
          match blank with
          | some size => ({ o with bare := true }, .inl (afterMarker.place.advance size))
          | none =>
            match taskMark? next with
            | some (done, afterTask) =>
              match blankSize? afterTask.rest with
              | some size =>
                ({ o.add (.task done) with bare := true }, .inl (afterTask.place.advance size))
              | none => openContainers limit afterTask { o with task := some done }
            | none => openContainers limit next o
        | none =>
          match Container.afterQuote? here with
          | some inner => openContainers limit inner (o.finishList.push .quote)
          | none => (o, .inr start)

/-- Takes in a blank line. An item that began with one has no indentation any more that the next
lines could keep. -/
def addBlank (o : Outline) : Outline :=
  match o.opened with
  | ⟨.quote, _⟩ :: _ => o
  | ⟨.item _, blocks⟩ :: outer =>
    if o.bare then { o with opened := ⟨.item 0, blocks⟩ :: outer, gap := true }
    else { o with gap := true }
  | _ => { o with gap := true }

/-- Adds a link definition, unless its label is already defined. -/
def define (definition : Definition) (o : Outline) : Outline :=
  if o.definitions.any fun d => foldLabel d.label == foldLabel definition.label then o
  else { o with definitions := definition :: o.definitions }

/-- Reads the table or the paragraph that begins at a place; `gap` counts the white space before
it. -/
def readText (limit gap : Nat) (here : Place) (o : Outline) : Outline × Place :=
  let containers := o.containers
  match tableHead? containers here with
  | some (columns, body) =>
    let (head, _) := readCells containers ((lineText here.rest).length + 1) here
    let (rows, after) := readRows containers columns.length limit body
    (({ o with task := none }).add (.table columns (fitCells columns.length head) rows), after)
  | none =>
    let (tokens, ending, after) := readParagraph containers limit gap here []
    let text : Passage := ⟨tokens.reverse, after.offset, containers, false⟩
    let block := match ending with
      | .underline level => Block.heading level ⟨here.offset, after.offset⟩ o.task text
      | .open => .paragraph o.task text
    (({ o with task := none }).add block, after)

/-- Reads link definitions, and the table or paragraph that comes after them. A line after a
definition goes on with it as with a paragraph. `line` is the place at which the line begins, `here`
the place on it. -/
def readDefinitions (limit : Nat) : (fuel : Nat) → (line here : Place) → Outline → Outline × Place
  | 0, _, here, o => (o, here)
  | fuel + 1, line, here, o =>
    let containers := o.containers
    match readDefinition? containers limit here with
    | none =>
      let before := (line.upTo here).reverse
      readText limit (before.takeWhile isGap).length here o
    | some (definition, stop) =>
      let o := o.define definition
      let line := stop.advance ((blankSize? stop.rest).getD 0)
      let (full, inner) := Container.enter containers line
      let (missing, inner) := inner.skip 4
      if missing ≠ 0 && interruptsParagraph containers full inner.place then (o, line)
      else readDefinitions limit fuel line inner.skipAll o

/-- Reads the block that begins at a cursor and is not a container. `line` is the place at which
its line begins. -/
def readLeaf (limit : Nat) (line : Place) (start : Cursor) (o : Outline) : Outline × Place :=
  let containers := o.containers
  let (missing, inner) := start.skip 4
  let indent := 4 - missing
  let here := inner.place
  if missing = 0 then
    let (code, after, blank) := readIndented containers limit inner.pending false here
    ({ o.add (.indented code) with gap := blank }, after)
  else
    let html := match here.rest with
      | '<' :: tag => RawHtml.block? (lineText tag)
      | _ => none
    match html with
    | some ending =>
      let (lines, after) := readHtml containers ending limit (max start.pending indent) here
      (o.add (.html lines), after)
    | none =>
      let size := (lineText here.rest).length
      if isRule here.rest then
        (o.add .rule, here.advance (size + (breakSize? (here.rest.drop size)).getD 0))
      else match headingLevel? here.rest with
        | some level =>
          let text := here.advance level
          let (text, after) := readHeading containers (text.advance (gapSize text.rest))
          (o.add (.heading level ⟨here.offset, after.offset⟩ none text), after)
        | none =>
          match fence? here.rest with
          | some (fence, size) =>
            let info := here.advance size
            let info := info.advance (gapSize info.rest)
            let width := feedSize info.rest
            let text := unescape false (dropEndWhile isSpacing (info.rest.take width))
            let (code, after) :=
              readFenced containers indent fence size limit (info.advance width)
            (o.add (.fenced text code), after)
          | none => readDefinitions limit limit line here o

/-- Reads the block or the containers that begin with a line; answers the place after them. -/
def readBlock (limit : Nat) (line : Place) (o : Outline) : Outline × Place :=
  let containers := o.containers
  let (count, here) := Container.continueAll containers (Cursor.start line)
  let o := popMany (containers.length - count) o
  match openContainers ((lineText line.rest).length + 1) here o with
  | (o, .inl next) => (o, next)
  | (o, .inr start) =>
    match blankSize? start.rest with
    | some size => (o.addBlank, start.place.advance size)
    | none => readLeaf limit line start o.finishList

/-- Reads all blocks; every step uses a character at least, so that their number is enough
`fuel`. -/
def readBlocks (limit : Nat) : (fuel : Nat) → Place → Outline → Outline
  | 0, _, o => o
  | fuel + 1, line, o =>
    if line.rest.isEmpty then o
    else
      let (o, next) := o.readBlock limit line
      readBlocks limit fuel next o

/-- Closes whatever is open at the end of the document. -/
def closeAll (o : Outline) : Outline := popMany o.opened.length o

/-- The outline of a source text. -/
def ofSource (source : List Char) : Outline :=
  (readBlocks (source.length + 1) source.length ⟨0, source⟩ empty).closeAll

end Outline

end DocSite.Markdown
