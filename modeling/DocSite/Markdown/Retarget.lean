/-
# DocSite.Markdown.Retarget -- links between the pages of a site

Links to the sources of other pages are pointed at the pages made from them. A link knows the
stretch of the source it was read from; its destination is looked for there, after the mark that
comes before destinations, and only that part of the source is replaced.
-/
import DocSite.Markdown.Event

set_option autoImplicit false

namespace DocSite.Markdown

open Text

/-- Whether a destination cannot be another page of the site: a place within the page, or an
address with a host or a scheme. -/
def isElsewhere (dest : Text) : Bool :=
  dest.isEmpty || (dropPhrase? ['#'] dest).isSome || (dropPhrase? ['/', '/'] dest).isSome ||
    containsPhrase "://".toList dest || (dropPhrase? "mailto:".toList dest).isSome

/-- A text without `ending`, if it ends so. -/
def dropEnding? (ending text : Text) : Option Text :=
  (dropPhrase? ending.reverse text.reverse).map List.reverse

/-- The destination that a link to the source of a page gets; nothing for other links. -/
def retarget? (extension dest : Text) : Option Text :=
  if isElsewhere dest then none
  else
    let path := dest.takeWhile fun c => !(c == '#' || c == '?')
    let stem? := match dropEnding? ".md".toList path with
      | some stem => some stem
      | none => dropEnding? ".MD".toList path
    stem?.map fun stem =>
      stem ++ (if extension.isEmpty then [] else '.' :: extension) ++ dest.drop path.length

/-- The part of a source in a span, if the span lies within it. -/
def slice? (source : Text) (span : Span) : Option Text :=
  if span.start ≤ span.stop && span.stop ≤ source.length then
    some ((source.drop span.start).take (span.stop - span.start))
  else none

/-- Where a destination stands in a span: after the first `mark`, if there is one. -/
def locate? (source : Text) (span : Span) (mark dest : Text) : Option Span :=
  (slice? source span).bind fun text =>
    let after := match indexOf? mark text with
      | some i => i + mark.length
      | none => 0
    (indexOf? dest (text.drop after)).map fun i =>
      ⟨span.start + after + i, span.start + after + i + dest.length⟩

/-- A link to be looked at: its destination, the span it was read from, and the mark that comes
before its destination. -/
structure Reported where
  dest : Text
  span : Span
  mark : Text
deriving DecidableEq, Repr

/-- A part of the source and what replaces it. -/
structure Edit where
  span : Span
  text : Text
deriving DecidableEq, Repr

/-- The edit that a link asks for. -/
def Reported.edit? (source extension : Text) (link : Reported) : Option Edit :=
  (retarget? extension link.dest).bind fun target =>
    (locate? source link.span link.mark link.dest).map fun span => ⟨span, target⟩

/-- Adds an edit behind those that begin no later. -/
def insertEdit (edit : Edit) : List Edit → List Edit
  | [] => [edit]
  | e :: rest =>
    if edit.span.start < e.span.start then edit :: e :: rest else e :: insertEdit edit rest

/-- Edits in the order in which they begin; those that begin together keep their order. -/
def sortEdits (edits : List Edit) : List Edit :=
  edits.foldl (fun sorted edit => insertEdit edit sorted) []

/-- Carries out edits, which are sorted, on what is left of a source from `here` on. An edit that
begins within an earlier one is left out. -/
def splice (here : Nat) (rest : Text) : List Edit → Text
  | [] => rest
  | edit :: edits =>
    if edit.span.start < here then splice here rest edits
    else
      rest.take (edit.span.start - here) ++ edit.text ++
        splice edit.span.stop (rest.drop (edit.span.stop - here)) edits

/-- Carries out the edits that links ask for; nothing, if there is none. -/
def retargetReported? (source extension : Text) (links : List Reported) : Option Text :=
  match links.filterMap (Reported.edit? source extension) with
  | [] => none
  | edits => some (splice 0 source (sortEdits edits))

/-- The links of a document: its definitions, then its inline links in the order of the text. -/
def reportedLinks (source : Text) : List Reported :=
  let outline := Outline.ofSource source
  outline.definitions.reverse.map (fun d => ⟨d.dest, d.span, "]:".toList⟩) ++
    (Event.ofOutline outline).filterMap fun
      | .start (.link .inline dest _ span) => some ⟨dest, span, "](".toList⟩
      | _ => none

/-- A source with its links to other sources pointed at the pages made from them; nothing, if
there is no such link. -/
def retargetLinks? (source extension : Text) : Option Text :=
  retargetReported? source extension (reportedLinks source)

/-- A source with its links to other sources pointed at the pages made from them. -/
def retargetLinks (source extension : Text) : Text :=
  (retargetLinks? source extension).getD source

end DocSite.Markdown
