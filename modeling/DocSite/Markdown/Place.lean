/-
# DocSite.Markdown.Place -- places in a source text

A `Place` is an offset in a source text together with all that follows it: whatever is read from
there on can name the characters it came from. A `Cursor` is a place near the beginning of a line
that counts columns: a tab reaches to the next multiple of four, and may be used up column by
column.

Two kinds of lines occur. The lines of running text end at a line feed, at a carriage return, or at
both in this order (`breakSize?`); the lines of code and of HTML end at a line feed only
(`feedSize`).
-/
import DocSite.Text.Basic

set_option autoImplicit false

namespace DocSite.Markdown

open Text

/-! ## Lines -/

/-- White space within a line. -/
def isGap (c : Char) : Bool := c == ' ' || c == '\t' || c == '\x0b' || c == '\x0c'

/-- A character that breaks a line. -/
def isBreak (c : Char) : Bool := c == '\n' || c == '\r'

/-- White space or a line break. -/
def isSpacing (c : Char) : Bool := isGap c || isBreak c

/-- The size of the line break that a text begins with. At the end of the source a line ends
without one. -/
def breakSize? : List Char → Option Nat
  | [] => some 0
  | '\r' :: '\n' :: _ => some 2
  | c :: _ => if isBreak c then some 1 else none

/-- Whether a line ends here. -/
def atBreak (cs : List Char) : Bool := (breakSize? cs).isSome

/-- The size of the white space that a text begins with. -/
def gapSize (cs : List Char) : Nat := (cs.takeWhile isGap).length

/-- The size of the blank line, its line break included, that a text begins with. -/
def blankSize? (cs : List Char) : Option Nat :=
  (breakSize? (cs.drop (gapSize cs))).map (gapSize cs + ·)

/-- Whether nothing but white space is left of a line. -/
def isBlankLine (cs : List Char) : Bool := (blankSize? cs).isSome

/-- What is left of a line. -/
def lineText (cs : List Char) : List Char := cs.takeWhile fun c => !isBreak c

/-- The size of a text up to its first line feed, with the line feed. -/
def feedSize (cs : List Char) : Nat :=
  let size := (cs.takeWhile (· != '\n')).length
  if (cs.drop size).isEmpty then size else size + 1

/-! ## Places -/

/-- A place in a source: how many characters come before it, and what follows. -/
structure Place where
  offset : Nat
  rest : List Char
deriving DecidableEq, Repr

/-- The place `n` characters further on. -/
def Place.advance (n : Nat) (p : Place) : Place := ⟨p.offset + n, p.rest.drop n⟩

/-- The text between two places, the second of which is not before the first. -/
def Place.upTo (first last : Place) : List Char := first.rest.take (last.offset - first.offset)

/-- A stretch of the source, from `start` up to but not including `stop`. -/
structure Span where
  start : Nat
  stop : Nat
deriving DecidableEq, Repr

/-! ## Columns -/

/-- A place in the part of a line that tells which blocks the line belongs to. `pending` columns
of the last tab are still to be used up; the place after the tab has the column `column`. -/
structure Cursor where
  place : Place
  column : Nat
  pending : Nat
deriving DecidableEq, Repr

namespace Cursor

/-- The beginning of a line, or a place at which columns are counted anew. -/
def start (p : Place) : Cursor := ⟨p, 0, 0⟩

/-- What follows the cursor. -/
def rest (c : Cursor) : List Char := c.place.rest

/-- Uses up to `n` columns of spaces and tabs; answers how many of them were not found. -/
def skipFrom (offset column : Nat) : (n : Nat) → List Char → Nat × Cursor
  | 0, rest => (0, ⟨⟨offset, rest⟩, column, 0⟩)
  | n + 1, ' ' :: rest => skipFrom (offset + 1) (column + 1) n rest
  | n + 1, '\t' :: rest =>
    let width := 4 - column % 4
    if width ≤ n + 1 then skipFrom (offset + 1) (column + width) (n + 1 - width) rest
    else (0, ⟨⟨offset + 1, rest⟩, column + width, width - (n + 1)⟩)
  | n + 1, rest => (n + 1, ⟨⟨offset, rest⟩, column, 0⟩)

/-- Uses up to `n` columns of spaces and tabs; answers how many of them were not found. -/
def skip (n : Nat) (c : Cursor) : Nat × Cursor :=
  if n ≤ c.pending then (0, { c with pending := c.pending - n })
  else skipFrom c.place.offset c.column (n - c.pending) c.rest

/-- The cursor after exactly `n` columns of spaces and tabs, if there are so many. -/
def skip? (n : Nat) (c : Cursor) : Option Cursor :=
  match c.skip n with
  | (0, after) => some after
  | _ => none

/-- The place after all spaces and tabs. -/
def skipAll (c : Cursor) : Place :=
  c.place.advance (c.rest.takeWhile fun x => x == ' ' || x == '\t').length

/-- The cursor `n` characters further on; what is left of the last tab stays. -/
def advance (n : Nat) (c : Cursor) : Cursor :=
  { c with place := c.place.advance n, column := c.column + n }

end Cursor

end DocSite.Markdown
