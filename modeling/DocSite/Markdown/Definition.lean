/-
# DocSite.Markdown.Definition -- reading link definitions

A link definition stands where a paragraph may begin: a label, a destination and perhaps a title. It
may run over several lines, as long as none of them interrupts a paragraph.
-/
import DocSite.Markdown.Opening

set_option autoImplicit false

namespace DocSite.Markdown

open Text

/-- Whether the text of a definition ends before a line, at the place after what continues its
containers and up to three spaces. An underline ends it; if `inside`, only within all of the
containers. -/
def endsDefinition (containers : List Container) (full inside : Bool) (here : Place) : Bool :=
  interruptsParagraph containers full here ||
    ((full || !inside) && (underline? here.rest).isSome)

/-- How a label goes on after a line break, unless a paragraph would end there. -/
def resumeLabel (containers : List Container) : Resume := fun line =>
  let (full, here) := Container.enter containers ⟨0, line⟩
  let (missing, here) := here.skip 4
  if missing ≠ 0 && endsDefinition containers full true here.place then none
  else some here.place.offset

/-- The place after white space with at most one line break, and whether there is one; nothing, if
a paragraph would end within it. -/
def skipSpace? (containers : List Container) : (limit : Nat) → (broken : Bool) → Place →
    Option (Place × Bool)
  | 0, broken, p => some (p, broken)
  | limit + 1, broken, p =>
    let p := p.advance (gapSize p.rest)
    match breakSize? p.rest with
    | none => some (p, broken)
    | some size =>
      if broken then none
      else
        let (full, here) := Container.enter containers (p.advance size)
        let (missing, here) := here.skip 4
        if missing ≠ 0 && endsDefinition containers full false here.place then none
        else skipSpace? containers limit true here.place

/-- Reads the title of a definition up to the character that closes it, and answers the place after
that. White space at the beginning of a line does not belong to it, and no line of it is blank.
`limit` bounds the characters read. -/
def definitionTitle? (containers : List Container) (closing : Char) :
    (limit : Nat) → (title : List Char) → Place → Option (List Char × Place)
  | 0, _, _ => none
  | limit + 1, title, p =>
    match p.rest with
    | [] => none
    | c :: rest =>
      if c = '(' && closing = ')' then none
      else if c = closing then some (title.reverse, p.advance 1)
      else if isBreak c then
        let size := if c = '\r' && rest.head? = some '\n' then 2 else 1
        let (full, here) := Container.enter containers (p.advance size)
        let (missing, here) := here.skip 4
        let next := here.skipAll
        if (missing ≠ 0 && endsDefinition containers full false here.place) ||
            isBlankLine next.rest then none
        else definitionTitle? containers closing limit ('\n' :: title) next
      else if c = '\\' then
        match rest with
        | [] => none
        | d :: _ =>
          if isBreak d then definitionTitle? containers closing limit (c :: title) (p.advance 1)
          else definitionTitle? containers closing limit (d :: c :: title) (p.advance 2)
      else definitionTitle? containers closing limit (c :: title) (p.advance 1)

/-- Reads the link definition that begins at a place, and answers the place after it. The title may
be missing; what looks like one but is none belongs to the next block, if it begins on a line of
its own. -/
def readDefinition? (containers : List Container) (limit : Nat) (here : Place) :
    Option (Definition × Place) :=
  match here.rest with
  | '[' :: cs =>
    (readLabel? (resumeLabel containers) false cs).bind fun (label, size) =>
      let colon := here.advance (size + 1)
      if colon.rest.head? ≠ some ':' then none
      else (skipSpace? containers 2 false (colon.advance 1)).bind fun (p, _) =>
        (readDest? p.rest).bind fun (dest, size) =>
          if size = 0 then none
          else
            let stop := p.advance size
            let defined (title : List Char) (stop : Place) : Definition × Place :=
              (⟨label, unescape false dest, title, ⟨here.offset, stop.offset⟩⟩, stop)
            match skipSpace? containers 2 false stop with
            | none => some (defined [] stop)
            | some (next, broken) =>
              if next.offset = stop.offset then none
              else
                let title? := next.rest.head?.bind fun opening =>
                  (titleEnd? opening).bind fun closing =>
                    definitionTitle? containers closing limit [] (next.advance 1)
                match title? with
                | some (title, after) =>
                  if isBlankLine after.rest then some (defined (unescape false title) after)
                  else if broken then some (defined [] stop)
                  else none
                | none => if broken then some (defined [] stop) else none
  | _ => none

end DocSite.Markdown
