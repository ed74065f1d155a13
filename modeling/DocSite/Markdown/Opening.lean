/-
# DocSite.Markdown.Opening -- how blocks begin

What a block looks like where it begins: rules, headings, code fences, list markers, notes and the
two lines that begin a table. A paragraph goes on until a line begins one of these
(`interruptsParagraph`).
-/
import DocSite.Markdown.Block
import DocSite.Markdown.RawHtml
import DocSite.Markdown.Reference

set_option autoImplicit false

namespace DocSite.Markdown

open Text

/-- A thematic break: three or more of one of its characters and nothing else but spaces. -/
def isRule (cs : List Char) : Bool :=
  match cs with
  | mark :: _ =>
    let line := lineText cs
    (mark == '*' || mark == '-' || mark == '_') &&
      line.all (fun c => c == mark || c == ' ' || c == '\t') && 3 ≤ line.count mark
  | [] => false

/-- The level of a heading marked by number signs. -/
def headingLevel? (cs : List Char) : Option Nat :=
  let level := (cs.takeWhile (· == '#')).length
  if 1 ≤ level && level ≤ 6 && (cs.drop level).head?.all isSpacing then some level else none

/-- The level of the heading that an underline makes of the paragraph above it, and the size of the
line. -/
def underline? (cs : List Char) : Option (Nat × Nat) :=
  match cs with
  | c :: _ =>
    let size := (cs.takeWhile (· == c)).length
    let level? := if c = '=' then some 1 else if c = '-' then some 2 else none
    match level?, blankSize? (cs.drop size) with
    | some level, some rest => some (level, size + rest)
    | _, _ => none
  | [] => none

/-- The character and length of a code fence that opens here. -/
def fence? (cs : List Char) : Option (Char × Nat) :=
  match cs with
  | c :: _ =>
    let size := (cs.takeWhile (· == c)).length
    if 3 ≤ size &&
        (c == '~' || (c == '\x60' && !((cs.drop size).takeWhile (· != '\n')).contains '\x60')) then
      some (c, size)
    else none
  | [] => none

/-- The size of a line, without its line break, that closes a code block whose fence has `size`
characters. The end of the source closes every code block. -/
def closingFence? (fence : Char) (size : Nat) (cs : List Char) : Option Nat :=
  if cs.isEmpty then some 0
  else
    let found := (cs.takeWhile (· == fence)).length
    let gap := ((cs.drop found).takeWhile (· == ' ')).length
    if size ≤ found && atBreak (cs.drop (found + gap)) then some (found + gap) else none

/-- A list marker: its character (the delimiter, for a number), its number, and its width. A space,
a tab or the end of the line comes after it. -/
def listMarker? (cs : List Char) : Option (Char × Nat × Nat) :=
  let ends (rest : List Char) : Bool :=
    atBreak rest || rest.head? == some ' ' || rest.head? == some '\t'
  match cs with
  | [] => none
  | c :: rest =>
    if c = '-' || c = '+' || c = '*' then if ends rest then some (c, 0, 1) else none
    else
      let digits := (cs.take 10).takeWhile Char.isDigit
      if digits.isEmpty || 9 < digits.length then none
      else match cs.drop digits.length with
        | d :: after =>
          if (d = '.' || d = ')') && ends after then
            some (d, readDecimal digits, digits.length + 1)
          else none
        | [] => none

/-- The label of a note whose text begins here, and the size up to and including its colon. -/
def noteLabel? : List Char → Option (List Char × Nat)
  | '[' :: rest =>
    match readNoteLabel? false rest with
    | some (label, size) =>
      if (rest.drop size).head? = some ':' then some (label, size + 2) else none
    | none => none
  | [] => none
  | _ :: _ => none

/-! ## Tables -/

/-- The number of bars on a line that no backslash stands before, and what follows the last of
them; `escaped` tells that a backslash came just before. -/
def barsFrom (escaped : Bool) (found : Nat) (last : List Char) :
    List Char → Nat × List Char
  | [] => (found, last)
  | c :: rest =>
    if isBreak c then (found, last)
    else if c = '|' && !escaped then barsFrom false (found + 1) rest rest
    else barsFrom (c == '\\') found last rest

/-- The number of cells that a line has as the head of a table: bars stand between cells, and may
stand at either end. Without bars there are none. -/
def headCells (cs : List Char) : Nat :=
  let (bars, last) := barsFrom false 0 [] cs
  if bars = 0 then 0
  else
    let bars := if (cs.drop (gapSize cs)).head? = some '|' then bars - 1 else bars
    if isBlankLine last then bars else bars + 1

/-- The alignments of the columns that a delimiter row sets up. -/
def delimiterColumns (fresh : Bool) (hyphen : Bool) (column : Alignment)
    (columns : List Alignment) : List Char → Option (List Alignment)
  | [] => some (if fresh then columns else column :: columns).reverse
  | ' ' :: rest => delimiterColumns fresh hyphen column columns rest
  | ':' :: rest =>
    let column := match fresh, column with
      | true, .none => .left
      | false, .left => .center
      | false, .none => .right
      | _, column => column
    delimiterColumns false hyphen column columns rest
  | '-' :: rest => delimiterColumns false true column columns rest
  | '|' :: rest =>
    if hyphen then delimiterColumns true false .none (column :: columns) rest else none
  | _ => none

/-- The alignments of the columns, if a line is the delimiter row of a table. -/
def delimiterRow? (cs : List Char) : Option (List Alignment) :=
  let line := lineText cs
  let indent := (line.takeWhile (· == ' ')).length
  if indent < 4 && line.contains '|' && line.contains '-' then
    delimiterColumns true false .none []
      (match line.drop indent with
        | '|' :: rest => rest
        | cs => cs)
  else none

/-- The alignments of the columns of a table whose head begins at a place, and the place after its
delimiter row, which must go on with the same containers. -/
def tableHead? (containers : List Container) (head : Place) : Option (List Alignment × Place) :=
  let size := (lineText head.rest).length
  match breakSize? (head.rest.drop size) with
  | some (lineBreak + 1) =>
    let (full, here) := Container.enter containers (head.advance (size + lineBreak + 1))
    if full then
      match delimiterRow? here.rest with
      | some columns =>
        if columns.length = headCells head.rest then
          let row := (lineText here.rest).length
          let lineBreak := (breakSize? (here.rest.drop row)).getD 0
          some (columns, here.place.advance (row + lineBreak))
        else none
      | none => none
    else none
  | _ => none

/-! ## What interrupts a paragraph -/

/-- Whether the text of a paragraph or of a table (`inTable`) ends before a line: by being blank or
by beginning another block. `full` tells whether all containers go on. An empty item, or one that
is numbered otherwise than one, interrupts no paragraph of its own container. -/
def interruptsText (full inTable : Bool) (cs : List Char) : Bool :=
  atBreak cs || isRule cs || (headingLevel? cs).isSome || (fence? cs).isSome ||
    cs.head? == some '>' ||
    (match listMarker? cs with
      | some (marker, number, width) =>
        !full || inTable ||
          ((marker == '-' || marker == '+' || marker == '*' || number == 1) &&
            !isBlankLine (cs.drop width))
      | none => false) ||
    (match cs with
      | '<' :: rest => (RawHtml.interruptingBlock? (lineText rest)).isSome
      | _ => false) ||
    (noteLabel? cs).isSome

/-- Whether a paragraph ends before the line at a place; a table that begins with a bar ends it
too. -/
def interruptsParagraph (containers : List Container) (full : Bool) (line : Place) : Bool :=
  interruptsText full false line.rest ||
    (line.rest.head? == some '|' && (tableHead? containers line).isSome)

end DocSite.Markdown
