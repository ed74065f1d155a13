/-
# DocSite.Markdown.Leaf -- blocks without containers

Code, HTML, tables, headings and the lines of paragraphs. Each reader begins at a place within the
containers that are open, takes the lines that belong to its block, and answers with the block and
the place after it. `limit` bounds the number of lines.
-/
import DocSite.Markdown.Opening

set_option autoImplicit false

namespace DocSite.Markdown

open Text

/-! ## Code and HTML -/

/-- The columns that are left of a tab, or of an indentation, as spaces. -/
def filler (columns : Nat) : List Chunk :=
  if columns = 0 then [] else [.filler (List.replicate columns ' ')]

/-- A line of code or HTML. A carriage return just before the last character is dropped, so that
lines end with a line feed alone. -/
def lineChunks (columns : Nat) (line : List Char) : List Chunk :=
  let text := match line.reverse with
    | last :: '\r' :: before =>
      if last.toNat < 128 then (last :: before).reverse else line
    | _ => line
  filler columns ++ if text.isEmpty then [] else [.source text]

/-- The code of a fenced block, and the place after the block. -/
def readFenced (containers : List Container) (indent : Nat) (fence : Char) (size : Nat) :
    (limit : Nat) → Place → List Chunk × Place
  | 0, line => ([], line)
  | limit + 1, line =>
    let (full, here) := Container.enter containers line
    if !full then ([], line)
    else
      let (_, here) := here.skip indent
      let (missing, inner) := here.skip (4 - indent)
      match if missing = 0 then none else closingFence? fence size inner.rest with
      | some width =>
        let after := inner.place.advance width
        ([], after.advance ((blankSize? after.rest).getD 0))
      | none =>
        let width := feedSize here.rest
        let (code, after) :=
          readFenced containers indent fence size limit (here.place.advance width)
        (lineChunks here.pending (here.rest.take width) ++ code, after)

/-- The code of an indented block from a place on, the place after the block, and whether blank
lines come last. Blank lines belong to the code only if more code follows; they are used up either
way. -/
def readIndented (containers : List Container) :
    (limit : Nat) → (columns : Nat) → (blank : Bool) → Place → List Chunk × Place × Bool
  | 0, _, blank, here => ([], here, blank)
  | limit + 1, columns, blank, here =>
    let width := feedSize here.rest
    let chunks := lineChunks columns (here.rest.take width)
    let line := here.advance width
    let (full, inner) := Container.enter containers line
    let (missing, inner) := inner.skip 4
    if !full || (missing ≠ 0 && !atBreak inner.rest) || inner.rest.isEmpty then
      (if blank then [] else chunks, line, blank)
    else
      let (code, after, last) :=
        readIndented containers limit inner.pending (isBlankLine inner.rest) inner.place
      (if blank && code.isEmpty then [] else chunks ++ code, after, last)

/-- The lines of a block of HTML from a place on, and the place after the block. -/
def readHtml (containers : List Container) (ending : RawHtml.BlockEnd) :
    (limit : Nat) → (columns : Nat) → Place → List Chunk × Place
  | 0, _, here => ([], here)
  | limit + 1, columns, here =>
    let text := here.rest.take (feedSize here.rest)
    let line := here.advance text.length
    let (full, inner) := Container.enter containers line
    let ended := match ending with
      | .phrase phrase => containsPhrase phrase text || inner.rest.isEmpty
      | .blankLine => isBlankLine inner.rest
    if !full || ended then (lineChunks columns text, line)
    else
      let (lines, after) := readHtml containers ending limit inner.pending inner.place
      (lineChunks columns text ++ lines, after)

/-! ## Tables -/

/-- The cells of a table row, and the place after the row. A bar may stand at either end. -/
def readCells (containers : List Container) : (limit : Nat) → Place → List Passage × Place
  | 0, here => ([], here)
  | limit + 1, here =>
    let here := if here.rest.head? = some '|' then here.advance 1 else here
    let here := here.advance (gapSize here.rest)
    match breakSize? here.rest with
    | some size => ([], here.advance size)
    | none =>
      let cell := tokenLine true 0 here
      let (cells, after) := readCells containers limit cell.next
      (⟨cell.tokens.reverse, cell.next.offset, containers, true⟩ :: cells, after)

/-- A cell without text. -/
def emptyCell : Passage := ⟨[], 0, [], true⟩

/-- Exactly `columns` cells: missing ones are empty, excess ones are dropped. -/
def fitCells (columns : Nat) (cells : List Passage) : List Passage :=
  (cells ++ List.replicate (columns - cells.length) emptyCell).take columns

/-- The rows of a table, and the place after it. -/
def readRows (containers : List Container) (columns : Nat) :
    (limit : Nat) → Place → List (List Passage) × Place
  | 0, line => ([], line)
  | limit + 1, line =>
    let (full, here) := Container.enter containers line
    let here := here.skipAll
    if !full || interruptsText true true here.rest then ([], line)
    else
      match readCells containers ((lineText here.rest).length + 1) here with
      | ([], _) => ([], line)
      | (cells, after) =>
        let (rows, after) := readRows containers columns limit after
        (fitCells columns cells :: rows, after)

/-! ## Headings and paragraphs -/

/-- The size of the text of a heading marked by number signs. Spaces at its end do not count, nor
do the signs that make up the whole text or that stand after a space at its end. -/
def headingSize (cs : List Char) : Nat :=
  let text := dropEndWhile (· == ' ') (lineText cs)
  match (dropEndWhile (· == '#') text).reverse with
  | [] => 0
  | ' ' :: before => (before.dropWhile (· == ' ')).length
  | _ => text.length

/-- The tokens of a line that ends a text, the last first: a backslash at its end is text. -/
def lastTokens (line : TokenLine) : List Token :=
  match line.lineBreak with
  | some t => if t.mark = .hardBreak true then ⟨.text, t.place, 1⟩ :: line.tokens else line.tokens
  | none => line.tokens

/-- The text of a heading marked by number signs, and the place after it. Its last token reaches to
the end of the text, white space other than spaces included. -/
def readHeading (containers : List Container) (text : Place) : Passage × Place :=
  let line := tokenLine false 0 text
  let stop := text.offset + headingSize text.rest
  let tokens := match lastTokens line with
    | t :: before => { t with size := stop - t.start } :: before
    | [] => []
  (⟨tokens.reverse, line.next.offset, containers, false⟩, line.next)

/-- How a paragraph ends: with its lines, or with an underline that makes it a heading. -/
inductive ParagraphEnd where
  | open
  | underline (level : Nat)
deriving DecidableEq, Repr

/-- The tokens of a paragraph from a place on, the last first, how it ends, and the place after it.
`gap` counts the white space before that place. -/
def readParagraph (containers : List Container) :
    (limit gap : Nat) → Place → List Token → List Token × ParagraphEnd × Place
  | 0, _, here, tokens => (tokens, .open, here)
  | limit + 1, gap, here, tokens =>
    let line := tokenLine false gap here
    let (full, inner) := Container.enter containers line.next
    let (missing, inner) := inner.skip 4
    let level? := if missing ≠ 0 && full then underline? inner.rest else none
    match level? with
    | some (level, size) =>
      (lastTokens line ++ tokens, .underline level, inner.place.advance size)
    | none =>
      if missing ≠ 0 && interruptsParagraph containers full inner.place then
        (lastTokens line ++ tokens, .open, line.next)
      else
        let next := inner.skipAll
        if atBreak next.rest then (lastTokens line ++ tokens, .open, line.next)
        else
          let before := (line.next.upTo next).reverse
          readParagraph containers limit (before.takeWhile isGap).length next
            (line.lineBreak.toList ++ line.tokens ++ tokens)

end DocSite.Markdown
