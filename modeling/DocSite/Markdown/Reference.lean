/-
# DocSite.Markdown.Reference -- labels, destinations and titles

The parts that links and link definitions have in common. Each reader works on the source as it
stands and answers with what it read and its size. Where a part may run over several lines, the
reader is told by a `Resume` how its text goes on after a line break.
-/
import DocSite.Markdown.Container
import DocSite.Markdown.Token

set_option autoImplicit false

namespace DocSite.Markdown

open Text

/-- How a text goes on after a line break: the size of what is left out at the beginning of the
next line; nothing, if the text ends there. -/
abbrev Resume := (line : List Char) → Option Nat

/-- The text goes on after what continues its containers. -/
def resumeWithin (containers : List Container) : Resume :=
  fun line => some (Container.markSize containers line)

/-- The text ends at the end of its line. -/
def endsLine : Resume := fun _ => none

/-! ## Labels -/

/-- The size of the white space that a text begins with. It may hold one line break, unless one is
already `broken`; `skip` characters after it are left out. -/
def labelGap (resume : Resume) : (broken : Bool) → (skip : Nat) → List Char → Option Nat
  | _, _, [] => some 0
  | broken, skip + 1, _ :: rest => (labelGap resume broken skip rest).map (1 + ·)
  | broken, 0, c :: rest =>
    if isBreak c then
      if broken then none
      else
        let more := if c = '\r' && rest.head? = some '\n' then 1 else 0
        (resume (rest.drop more)).bind fun marks =>
          (labelGap resume true (more + marks) rest).map (1 + ·)
    else if isGap c then (labelGap resume broken 0 rest).map (1 + ·)
    else some 0

/-- How much a character adds to the length of a label: the number of its bytes, if it is not one
of the ASCII characters, which add nothing. -/
def labelWeight (c : Char) : Nat := if c.toNat < 128 then 0 else c.utf8Size

/-- A label without the white space at its ends. -/
def trimLabel (label : List Char) : List Char :=
  let isSpace (c : Char) : Bool := c == ' ' || c == '\t' || isBreak c
  dropEndWhile isSpace (label.dropWhile isSpace)

/-- Reads a label up to its closing bracket, with each run of white space collapsed to one space.
`size` counts the characters so far; `weight` is the length of the label, which stays below a
thousand; `filled` tells whether one of the characters is no white space; `label` holds them last
first; the next `skip` characters are already read. In the cell of a table the backslashes before a
bar are left out. -/
def labelFrom (resume : Resume) (cell : Bool) (size weight : Nat) (filled : Bool)
    (label : List Char) (skip : Nat) : List Char → Option (List Char × Nat)
  | [] => none
  | c :: rest =>
    match skip with
    | skip + 1 => labelFrom resume cell size weight filled label skip rest
    | 0 =>
      if 1000 ≤ weight || c = '[' then none
      else if c = ']' then if filled then some (trimLabel label.reverse, size + 1) else none
      else if c = '\\' then
        match rest with
        | [] => none
        | d :: more =>
          if cell && d = '|' then
            labelFrom resume cell (size + 2) (weight + 1) true ('|' :: label) 1 rest
          else if cell && d = '\\' && more.head? = some '|' then
            labelFrom resume cell (size + 3) (weight + 2) true ('|' :: label) 2 rest
          else
            labelFrom resume cell (size + 2) (weight + 2 + (labelWeight d - 1)) true
              (d :: c :: label) 1 rest
      else if isSpacing c then
        (labelGap resume false 0 (c :: rest)).bind fun gap =>
          labelFrom resume cell (size + gap) (weight + gap) filled (' ' :: label) (gap - 1) rest
      else labelFrom resume cell (size + 1) (weight + labelWeight c) true (c :: label) 0 rest

/-- Reads a label; the text begins after the opening bracket. The size includes the closing one. -/
def readLabel? (resume : Resume) (cell : Bool) (cs : List Char) : Option (List Char × Nat) :=
  labelFrom resume cell 0 0 false [] 0 cs

/-- Reads the label of a note, which stands on one line; the text begins after the opening bracket.
-/
def readNoteLabel? (cell : Bool) : List Char → Option (List Char × Nat)
  | '^' :: rest => (readLabel? endsLine cell rest).map fun (label, size) => (label, size + 1)
  | _ => none

/-! ## Destinations -/

/-- Reads a destination in pointed brackets, the first of which is already read. -/
def pointedFrom (dest : List Char) : List Char → Option (List Char × Nat)
  | [] => none
  | '\\' :: d :: rest =>
    if isAsciiPunctuation d then pointedFrom (d :: '\\' :: dest) rest
    else if isBreak d then none
    else pointedFrom (d :: '\\' :: dest) rest
  | c :: rest =>
    if isBreak c || c == '<' then none
    else if c = '>' then some (dest.reverse, dest.length + 2)
    else pointedFrom (c :: dest) rest

/-- How deep parentheses may be nested within the first of a destination. -/
def parenthesisDepth : Nat := 32

/-- Reads a destination without brackets: up to white space or an unmatched closing parenthesis. -/
def plainFrom (depth : Nat) (dest : List Char) : List Char → Option (List Char × Nat)
  | [] => if depth = 0 then some (dest.reverse, dest.length) else none
  | '\\' :: d :: rest =>
    if 32 < d.toNat then plainFrom depth (d :: '\\' :: dest) rest
    else if depth = 0 then some (('\\' :: dest).reverse, dest.length + 1)
    else none
  | c :: rest =>
    if c.toNat ≤ 32 then if depth = 0 then some (dest.reverse, dest.length) else none
    else if c = '(' then
      if parenthesisDepth < depth then none else plainFrom (depth + 1) (c :: dest) rest
    else if c = ')' then
      match depth with
      | 0 => some (dest.reverse, dest.length)
      | depth + 1 => plainFrom depth (c :: dest) rest
    else plainFrom depth (c :: dest) rest

/-- Reads the destination of a link, its escapes still in place. -/
def readDest? : List Char → Option (List Char × Nat)
  | '<' :: rest => pointedFrom [] rest
  | cs => plainFrom 0 [] cs

/-! ## Inline links -/

/-- The character that closes a title opened by another. -/
def titleEnd? (opening : Char) : Option Char :=
  if opening = '(' then some ')'
  else if opening = '"' || opening = '\'' then some opening
  else none

/-- Reads the title of an inline link up to the character that closes it; answers the offset after
that. The text after a line break begins at the next of the tokens `following`; the next `skip`
characters are already read. -/
def titleFrom (opening closing : Char) (cell : Bool) (following : List Token)
    (title : List Char) (offset skip : Nat) : List Char → Option (List Char × Nat)
  | [] => none
  | c :: rest =>
    match skip with
    | skip + 1 => titleFrom opening closing cell following title (offset + 1) skip rest
    | 0 =>
      let keep (text : List Char) (size : Nat) :=
        titleFrom opening closing cell following (text.reverse ++ title) (offset + 1) (size - 1)
          rest
      if c = closing then some (title.reverse, offset + 1)
      else if c = opening then none
      else if isBreak c then
        match following.find? fun t => offset + 1 < t.stop with
        | some t =>
          if offset < t.start then keep ['\n'] (t.start - offset) else keep [c] 1
        | none => keep [c] 1
      else if c = '&' then
        match readEntity? (c :: rest) with
        | some (value, size) => keep value size
        | none => keep [c] 1
      else if c = '\\' then
        match rest with
        | [] => none
        | d :: more =>
          if cell && d = '\\' && more.head? = some '|' then
            match more[1]? with
            | some e => if isAsciiPunctuation e then keep [e] 4 else keep ['|'] 3
            | none => keep ['|'] 3
          else if isAsciiPunctuation d then keep [d] 2
          else keep [c] 1
      else keep [c] 1

/-- The place after white space that may hold one line break. -/
def skipSeparator (containers : List Container) (p : Place) : Place :=
  let p := p.advance (gapSize p.rest)
  let p := match breakSize? p.rest with
    | some (size + 1) =>
      let line := p.advance (size + 1)
      line.advance (Container.markSize containers line.rest)
    | _ => p
  p.advance (gapSize p.rest)

/-- Reads what follows the text of an inline link: a destination and perhaps a title, in
parentheses. -/
def readTarget? (containers : List Container) (cell : Bool) (following : List Token) (p : Place) :
    Option (List Char × List Char × Place) :=
  match p.rest with
  | '(' :: _ =>
    let p := skipSeparator containers (p.advance 1)
    (readDest? p.rest).bind fun (dest, size) =>
      let p := skipSeparator containers (p.advance size)
      let titled := p.rest.head?.bind fun opening => (titleEnd? opening).bind fun closing =>
        titleFrom opening closing cell following [] (p.offset + 1) 0 (p.rest.drop 1)
      let (title, p) := match titled with
        | some (title, stop) => (title, skipSeparator containers (p.advance (stop - p.offset)))
        | none => ([], p)
      match p.rest with
      | ')' :: _ => some (unescape cell dest, title, p.advance 1)
      | _ => none
  | _ => none

end DocSite.Markdown
