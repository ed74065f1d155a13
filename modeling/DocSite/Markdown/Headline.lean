/-
# DocSite.Markdown.Headline -- the heading that names a document

The first heading of level one that has text names the document. It can be taken out of the
source, together with the rest of the lines it stands on.
-/
import DocSite.Markdown.Event

set_option autoImplicit false

namespace DocSite.Markdown

open Text

/-- The text and span of the first heading of level one with text among events. `current` is the
heading that is open, with the text read so far. -/
def headlineFrom? : (current : Option (Text × Span)) → List Event → Option (Text × Span)
  | _, [] => none
  | current, e :: rest =>
    match e, current with
    | .start (.heading 1 span), _ => headlineFrom? (some ([], span)) rest
    | .stop (.heading 1 _), some (text, span) =>
      let title := trim text
      if title.isEmpty then headlineFrom? none rest else some (title, span)
    | .text value, some (text, span) => headlineFrom? (some (text ++ value, span)) rest
    | .code value, some (text, span) => headlineFrom? (some (text ++ value, span)) rest
    | _, current => headlineFrom? current rest

/-- The text and span of the heading that names a document. -/
def headline? (source : Text) : Option (Text × Span) :=
  headlineFrom? none (Event.ofSource source)

/-- Where the line begins that holds an offset. -/
def lineStart (source : Text) (offset : Nat) : Nat :=
  offset - ((source.take offset).reverse.takeWhile (· != '\n')).length

/-- Widens a span to whole lines, with the line break that ends the last of them. -/
def wholeLines (source : Text) (span : Span) : Span :=
  let text := (source.drop span.start).take (span.stop - span.start)
  let size := (dropEndWhile (fun c => c == '\r' || c == '\n') text).length
  let stop := span.start + size
  let rest := source.drop stop
  let line := rest.takeWhile (· != '\n')
  ⟨lineStart source span.start, stop + line.length + (if line.length < rest.length then 1 else 0)⟩

/-- A text without the part in a span. -/
def cut (source : Text) (span : Span) : Text := source.take span.start ++ source.drop span.stop

end DocSite.Markdown
