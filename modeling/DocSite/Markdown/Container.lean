/-
# DocSite.Markdown.Container -- the blocks that hold other blocks

Quotes, lists, items and notes stay open from line to line. Each line of a document begins with
what continues them: a mark or an indentation for each, the outermost first. `continueAll` takes
these off a line; a container that does not find its own is not continued, nor are those within it.
-/
import DocSite.Markdown.Place

set_option autoImplicit false

namespace DocSite.Markdown

/-- A block that holds other blocks, while it is open. An item is left by a line that is indented
less than `indent` columns. A list knows the character of its markers and its first number. -/
inductive Container where
  | quote
  | list (marker : Char) (start : Nat) (tight : Bool)
  | item (indent : Nat)
  | footnote (label : List Char)
deriving DecidableEq, Repr

namespace Container

/-- The cursor after a quote mark and the space that may follow it. -/
def afterQuote? (here : Cursor) : Option Cursor :=
  match here.rest with
  | '>' :: _ => some ((here.advance 1).skip 1).2
  | _ => none

/-- The cursor after an indentation, which a blank line need not have in full. -/
def afterIndent? (columns : Nat) (here : Cursor) : Option Cursor :=
  match here.skip columns with
  | (0, after) => some after
  | (_ + 1, after) => if atBreak after.rest then some after else none

/-- Takes off a line what continues this container. -/
def continues? (here : Cursor) : Container → Option Cursor
  | quote => afterQuote? (here.skip 3).2
  | list _ _ _ => some here
  | item indent => afterIndent? indent here
  | footnote _ => afterIndent? 4 here

/-- Takes off a line what continues the containers, the outermost first; answers how many of them
go on. -/
def continueAll : List Container → Cursor → Nat × Cursor
  | [], here => (0, here)
  | container :: rest, here =>
    match container.continues? here with
    | none => (0, here)
    | some after =>
      let (count, place) := continueAll rest after
      (count + 1, place)

/-- The cursor after what continues the containers on the line that begins at a place, and whether
all of them go on. -/
def enter (containers : List Container) (line : Place) : Bool × Cursor :=
  let (count, here) := continueAll containers (Cursor.start line)
  (count == containers.length, here)

/-- The size of what continues the containers on a line. -/
def markSize (containers : List Container) (line : List Char) : Nat :=
  (enter containers ⟨0, line⟩).2.place.offset

/-- The characters of a text up to the offset `limit`, without what continues the containers on
their lines, each with its offset; `skip` characters are still to be left out. -/
def withoutMarks (containers : List Container) (limit : Nat) :
    (offset skip : Nat) → List Char → List (Char × Nat)
  | _, _, [] => []
  | offset, skip + 1, _ :: rest => withoutMarks containers limit (offset + 1) skip rest
  | offset, 0, c :: rest =>
    if limit ≤ offset then []
    else
      let fresh := c == '\n' || (c == '\r' && rest.head? != some '\n')
      (c, offset) :: withoutMarks containers limit (offset + 1)
        (if fresh then markSize containers rest else 0) rest

end Container

end DocSite.Markdown
