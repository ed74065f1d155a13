/-
# DocSite.Markdown.Html -- events as HTML

The writer goes through the events one by one. It knows whether a line has just ended, so that
block elements begin on lines of their own, numbers the notes in the order they are met, and
writes only the plain text of what stands within an image.
-/
import DocSite.Markdown.Event

set_option autoImplicit false

namespace DocSite.Markdown.Html

open Text

/-! ## Escapes -/

/-- Text as it stands between tags. -/
def escapeBody (cs : List Char) : List Char :=
  cs.flatMap fun c =>
    if c = '&' then "&amp;".toList
    else if c = '<' then "&lt;".toList
    else if c = '>' then "&gt;".toList
    else [c]

/-- Text as it stands in an attribute. -/
def escapeAttribute (cs : List Char) : List Char :=
  cs.flatMap fun c =>
    if c = '&' then "&amp;".toList
    else if c = '<' then "&lt;".toList
    else if c = '>' then "&gt;".toList
    else if c = '"' then "&quot;".toList
    else if c = '\'' then "&#39;".toList
    else [c]

/-- Whether a character may stand in an address as it is. -/
def isAddressChar (c : Char) : Bool :=
  c.isAlphanum || "!#$%()*+,-./:;=?@^_~".toList.contains c

/-- The two hexadecimal digits of a byte, in upper case. -/
def byteDigits (b : UInt8) : List Char :=
  [(hexDigit (b.toNat / 16)).toUpper, (hexDigit (b.toNat % 16)).toUpper]

/-- The bytes of a character in UTF-8. -/
def bytesOf (c : Char) : List UInt8 := String.utf8EncodeChar c

/-- An address as it stands in an attribute. -/
def escapeAddress (cs : List Char) : List Char :=
  cs.flatMap fun c =>
    if isAddressChar c then [c]
    else if c = '&' then "&amp;".toList
    else if c = '\'' then "&#x27;".toList
    else (bytesOf c).flatMap fun b => '%' :: byteDigits b

/-! ## The writer -/

/-- What the writer knows between two events. `output` holds the pieces written, the last first;
`fresh` tells that a line has just ended; `notes` are the labels numbered so far. Within an image,
`image` has its title and the depth of elements inside it. -/
structure Writer where
  output : List (List Char)
  fresh : Bool
  notes : List (List Char)
  columns : List Alignment
  inHead : Bool
  cell : Nat
  image : Option (List Char × Nat)

namespace Writer

/-- The writer at the beginning of a document. -/
def initial : Writer := ⟨[], true, [], [], false, 0, none⟩

/-- Adds a piece that does not count for whether a line has ended. -/
def put (piece : List Char) (w : Writer) : Writer := { w with output := piece :: w.output }

/-- Adds a piece. -/
def write (piece : String) (w : Writer) : Writer :=
  if piece.isEmpty then w
  else { w.put piece.toList with fresh := piece.toList.getLast? == some '\n' }

/-- Adds text. -/
def putText (escape : List Char → List Char) (text : List Char) (w : Writer) : Writer :=
  { w.put (escape text) with fresh := text.getLast? == some '\n' }

/-- Adds a piece that begins a line. -/
def writeLine (piece : String) (w : Writer) : Writer :=
  w.write (if w.fresh then piece else "\n" ++ piece)

/-- The number of a note. -/
def number (label : List Char) (w : Writer) : List Char × Writer :=
  match w.notes.findIdx? (· == label) with
  | some i => ((Nat.repr (i + 1)).toList, w)
  | none => ((Nat.repr (w.notes.length + 1)).toList, { w with notes := w.notes ++ [label] })

/-- Adds the title of a link or image. -/
def putTitle (title : List Char) (w : Writer) : Writer :=
  if title.isEmpty then w else (w.write "\" title=\"").put (escapeAttribute title)

/-- The attribute that aligns a cell. -/
def alignment : Alignment → String
  | .none => ">"
  | .left => " style=\"text-align: left\">"
  | .center => " style=\"text-align: center\">"
  | .right => " style=\"text-align: right\">"

/-- Begins an element. -/
def startTag (w : Writer) : Tag → Writer
  | .htmlBlock => w
  | .paragraph => w.writeLine "<p>"
  | .heading level _ => w.writeLine s!"<h{level}>"
  | .table columns => { w.write "<table>" with columns := columns }
  | .tableHead => { w.write "<thead><tr>" with inHead := true, cell := 0 }
  | .tableRow => { w.write "<tr>" with cell := 0 }
  | .tableCell =>
    (w.write (if w.inHead then "<th" else "<td")).write
      (alignment ((w.columns[w.cell]?).getD .none))
  | .quote => w.writeLine "<blockquote>\n"
  | .code fence =>
    let w := if w.fresh then w else w.write "\n"
    let language := (fence.getD []).takeWhile (· != ' ')
    if language.isEmpty then w.write "<pre><code>"
    else ((w.write "<pre><code class=\"language-").put (escapeAttribute language)).write "\">"
  | .list none => w.writeLine "<ul>\n"
  | .list (some 1) => w.writeLine "<ol>\n"
  | .list (some start) => w.writeLine s!"<ol start=\"{start}\">\n"
  | .item => w.writeLine "<li>"
  | .footnote label =>
    let w := w.writeLine "<div class=\"footnote-definition\" id=\""
    let w := (w.put (escapeAttribute label)).write
      "\"><sup class=\"footnote-definition-label\">"
    let (number, w) := w.number label
    (w.put number).write "</sup>"
  | .emphasis => w.write "<em>"
  | .strong => w.write "<strong>"
  | .strikethrough => w.write "<del>"
  | .link kind dest title _ =>
    let w := w.write (if kind = .email then "<a href=\"mailto:" else "<a href=\"")
    ((w.put (escapeAddress dest)).putTitle title).write "\">"
  | .image dest title _ =>
    { (((w.write "<img src=\"").put (escapeAddress dest)).write "\" alt=\"") with
      image := some (title, 0) }

/-- Ends an element. -/
def stopTag (w : Writer) : Tag → Writer
  | .htmlBlock => w
  | .paragraph => w.write "</p>\n"
  | .heading level _ => w.write s!"</h{level}>\n"
  | .table _ => w.write "</tbody></table>\n"
  | .tableHead => { w.write "</tr></thead><tbody>\n" with inHead := false }
  | .tableRow => w.write "</tr>\n"
  | .tableCell => { w.write (if w.inHead then "</th>" else "</td>") with cell := w.cell + 1 }
  | .quote => w.write "</blockquote>\n"
  | .code _ => w.write "</code></pre>\n"
  | .list none => w.write "</ul>\n"
  | .list (some _) => w.write "</ol>\n"
  | .item => w.write "</li>\n"
  | .footnote _ => w.write "</div>\n"
  | .emphasis => w.write "</em>"
  | .strong => w.write "</strong>"
  | .strikethrough => w.write "</del>"
  | .link _ _ _ _ => w.write "</a>"
  | .image _ _ _ => w

/-- Writes an event that stands within an image: its text alone. -/
def describe (title : List Char) (depth : Nat) (w : Writer) : Event → Writer
  | .start _ => { w with image := some (title, depth + 1) }
  | .stop _ =>
    match depth with
    | 0 => { (w.putTitle title).write "\" />" with image := none }
    | depth + 1 => { w with image := some (title, depth) }
  | .html _ => w
  | .text value => w.putText escapeAttribute value
  | .code value => w.putText escapeAttribute value
  | .inlineHtml value => w.putText escapeAttribute value
  | .softBreak => w.write " "
  | .hardBreak => w.write " "
  | .rule => w.write " "
  | .note label =>
    let (number, w) := w.number label
    w.put ('[' :: number ++ [']'])
  | .task done => w.write (if done then "[x]" else "[ ]")

/-- Writes an event that stands outside images. -/
def display (w : Writer) : Event → Writer
  | .start tag => w.startTag tag
  | .stop tag => w.stopTag tag
  | .text value => w.putText escapeBody value
  | .code value => (((w.write "<code>").put (escapeBody value))).write "</code>"
  | .html value => if value.isEmpty then w else w.putText id value
  | .inlineHtml value => if value.isEmpty then w else w.putText id value
  | .softBreak => w.write "\n"
  | .hardBreak => w.write "<br />\n"
  | .rule => w.writeLine "<hr />\n"
  | .note label =>
    let w := w.write "<sup class=\"footnote-reference\"><a href=\"#"
    let w := (w.put (escapeAttribute label)).write "\">"
    let (number, w) := w.number label
    (w.put number).write "</a></sup>"
  | .task true => w.write "<input disabled=\"\" type=\"checkbox\" checked=\"\"/>\n"
  | .task false => w.write "<input disabled=\"\" type=\"checkbox\"/>\n"

/-- Writes one event. -/
def event (w : Writer) (e : Event) : Writer :=
  match w.image with
  | some (title, depth) => w.describe title depth e
  | none => w.display e

end Writer

/-- The HTML of a sequence of events. -/
def ofEvents (events : List Event) : List Char :=
  (events.foldl Writer.event Writer.initial).output.reverse.flatten

/-- The HTML of a source text. -/
def ofSource (source : List Char) : List Char := ofEvents (Event.ofSource source)

end DocSite.Markdown.Html
