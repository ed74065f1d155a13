/-
# DocSite.Markdown.Inline -- reading the text of a paragraph

The tokens of a paragraph, heading or cell are read from left to right into pieces. A piece is
finished, or its meaning depends on what follows: a run of emphasis marks, a bracket that may open
a link, or a backslash at the end of a line. A closing bracket settles the pieces back to its
opening one; emphasis is settled within a link or within the whole text. Code, HTML and the
destinations of links are read from the source itself, where tokens have no meaning; the tokens
that such a stretch covers are dropped.
-/
import DocSite.Markdown.Emphasis
import DocSite.Markdown.Outline

set_option autoImplicit false

namespace DocSite.Markdown

open Text

/-- What the references of a document may refer to: its link definitions and its notes. -/
structure Targets where
  definitions : List Definition
  notes : List (List Char)

namespace Targets

/-- The targets that the blocks of a document set up. -/
def ofOutline (o : Outline) : Targets := ⟨o.definitions, o.notes⟩

/-- The definition of a label. -/
def definition? (targets : Targets) (label : List Char) : Option Definition :=
  let folded := foldLabel label
  targets.definitions.find? fun d => foldLabel d.label == folded

/-- Whether there is a note of this label. -/
def hasNote (targets : Targets) (label : List Char) : Bool :=
  targets.notes.contains (foldLabel label)

end Targets

/-! ## Pieces -/

/-- A piece of text whose meaning may not be settled yet. A bracket is no longer `live` when a link
may not begin there; `slash` is a line break with a backslash before it. -/
inductive Piece where
  | settled (value : Inline)
  | run (run : Run)
  | bracket (image live : Bool) (token : Token)
  | slash

namespace Emphasis

/-- One piece after another. A bracket that opened nothing is text. -/
def State.takePiece (s : State) : Piece → State
  | .settled value => s.append [value]
  | .run run => s.takeRun (run.count + 1) run
  | .bracket _ _ token => s.append [.text token.chars]
  | .slash => s.append [.hardBreak]

/-- The text that pieces stand for. -/
def resolve (pieces : List Piece) : List Inline :=
  (pieces.foldl State.takePiece State.empty).close

end Emphasis

namespace Piece

/-- Whether a piece is a run of emphasis marks. -/
def isRun : Piece → Bool
  | run _ => true
  | _ => false

/-- Splits pieces, last first, at the last bracket: the pieces after it, the bracket, and the
pieces before it. -/
def splitBracket? : List Piece → Option (List Piece × (Bool × Bool × Token) × List Piece)
  | [] => none
  | .bracket image live token :: rest => some ([], (image, live, token), rest)
  | piece :: rest =>
    (splitBracket? rest).map fun (inner, found, outer) => (piece :: inner, found, outer)

/-- Keeps links from beginning at the brackets before a link. Images still may. -/
def disable : Piece → Piece
  | .bracket image live token => .bracket image (live && image) token
  | piece => piece

/-- Brackets made text. -/
def flatten : Piece → Piece
  | .bracket _ _ token => .settled (.text token.chars)
  | piece => piece

/-- The text within a link; pieces are given last first. With emphasis marks in it, a backslash
before a line break at its end is text and breaks nothing. -/
def linkText (pieces : List Piece) : List Inline :=
  Emphasis.resolve (match pieces with
    | .slash :: before =>
      if before.any isRun then (.settled (.text ['\\']) :: before).reverse else pieces.reverse
    | _ => pieces.reverse)

end Piece

/-! ## Code, automatic links and HTML -/

/-- The number of backticks of a token. -/
def backtickCount (t : Token) : Nat := (t.chars.takeWhile (· == '\x60')).length

/-- The first run of exactly `size` backticks among tokens, and the tokens after it. -/
def closingBackticks? (size : Nat) : List Token → Option (Token × List Token)
  | [] => none
  | t :: rest =>
    match t.mark with
    | .backticks _ => if backtickCount t = size then some (t, rest) else closingBackticks? size rest
    | _ => closingBackticks? size rest

/-- The characters of code: a line break is a space, and what continues the containers after it is
left out, as is a backslash before a bar in the cell of a table. The next `skip` characters are
left out. -/
def codeChars (containers : List Container) (cell : Bool) : (skip : Nat) → List Char → List Char
  | _, [] => []
  | skip + 1, _ :: rest => codeChars containers cell skip rest
  | 0, c :: rest =>
    if isBreak c then ' ' :: codeChars containers cell (Container.markSize containers rest) rest
    else if cell && c == '\\' && rest.head? == some '|' then
      '|' :: codeChars containers cell 1 rest
    else c :: codeChars containers cell 0 rest

/-- Code as it is shown: a space at each end is dropped unless there is nothing else. -/
def trimCode (code : List Char) : List Char :=
  if code.all (· == ' ') then code
  else match code, code.getLast? with
    | ' ' :: inner, some ' ' => inner.dropLast
    | _, _ => code

/-- The address of an automatic link, up to the closing pointed bracket. -/
def readUri? (cs : List Char) : Option (List Char) :=
  let scheme := cs.takeWhile fun c => c.isAlphanum || c == '.' || c == '-' || c == '+'
  match cs.drop scheme.length with
  | ':' :: rest =>
    let address := rest.takeWhile fun c => 32 < c.toNat && c != '<' && c != '>'
    if (scheme.head?.map Char.isAlpha).getD false && 2 ≤ scheme.length && scheme.length ≤ 32 &&
        (rest.drop address.length).head? == some '>' then
      some (scheme ++ ':' :: address)
    else none
  | _ => none

/-- The part of an electronic mail address between two dots of its host. -/
def isHostLabel (label : List Char) : Bool :=
  label.head?.any (· != '-') && label.getLast?.any (· != '-') && label.length ≤ 63

/-- The electronic mail address of an automatic link, up to the closing pointed bracket. -/
def readEmail? (cs : List Char) : Option (List Char) :=
  let user := cs.takeWhile fun c => c.isAlphanum || ".!#$%&'*+/=?^_\x60\x7b|\x7d~-".toList.contains c
  match cs.drop user.length with
  | '@' :: rest =>
    let host := rest.takeWhile fun c => c.isAlphanum || c == '-' || c == '.'
    if !user.isEmpty && (splitOn '.' host).all isHostLabel &&
        (rest.drop host.length).head? == some '>' then
      some (user ++ '@' :: host)
    else none
  | _ => none

/-- The automatic link that begins after a pointed bracket. -/
def readAutolink? (cs : List Char) : Option (LinkKind × List Char) :=
  match readUri? cs with
  | some address => some (.autolink, address)
  | none => (readEmail? cs).map (.email, ·)

/-- The HTML that begins at a pointed bracket, and the offset after it; `p` is the place after the
bracket. What continues the containers is no part of a tag that runs over lines. -/
def readHtmlAt? (containers : List Container) (p : Place) : Option (List Char × Nat) :=
  match p.rest with
  | [] => none
  | c :: _ =>
    if c = '!' || c = '?' then
      (RawHtml.afterDeclaration? p.rest).map fun after =>
        let size := p.rest.length - after.length
        ('<' :: p.rest.take size, p.offset + size)
    else
      let text := Container.withoutMarks containers (p.offset + p.rest.length) p.offset 0 p.rest
      let chars := text.map (·.1)
      (RawHtml.afterTag? true chars).map fun after =>
        let size := chars.length - after.length
        ('<' :: chars.take size, ((text[size - 1]?).map (·.2 + 1)).getD p.offset)

/-! ## Reading -/

/-- What is known while a text is read: the pieces so far, the last first, and the offsets of the
closing brackets of labels already tried, which end no reference of their own. -/
structure Reading where
  pieces : List Piece
  spent : List Nat

namespace Reading

/-- Adds a piece. -/
def add (piece : Piece) (r : Reading) : Reading := { r with pieces := piece :: r.pieces }

/-- Adds a finished piece. -/
def settle (value : Inline) (r : Reading) : Reading := r.add (.settled value)

/-- Adds a token that stands for itself. -/
def keep (t : Token) (r : Reading) : Reading := r.settle (.text t.chars)

/-- What a closing bracket ends: a link, with the tokens after it and the offset at which it ends;
a note; or nothing, which may leave another closing bracket tried. -/
inductive Closing where
  | link (kind : LinkKind) (dest title : List Char) (following : List Token) (stop : Nat)
  | note (label : List Char)
  | nothing (tried : Option Nat)

/-- The part of a passage that begins at a place. -/
def within (passage : Passage) (p : Place) : Place :=
  ⟨p.offset, p.rest.take (passage.stop - p.offset)⟩

/-- What the text between two brackets refers to, if no destination and no other label follows.
The tokens after the reference are `next`. -/
def shortcut (targets : Targets) (passage : Passage) (first last : Token) (next : List Token)
    (stop : Nat) : Closing :=
  let size := last.stop - first.stop
  let cs := first.after.rest.take size
  match readNoteLabel? passage.cell cs with
  | some (label, width) =>
    if width = size && targets.hasNote label then .note label else .nothing none
  | none =>
    match readLabel? (resumeWithin passage.containers) passage.cell cs with
    | some (label, width) =>
      if width ≠ size then .nothing none
      else match targets.definition? label with
        | some d => .link .reference d.dest d.title next stop
        | none => .nothing none
    | none => .nothing none

/-- What the closing bracket `last` ends, if `first` is its opening one. A backslash does not keep
the bracket after it from beginning a label. -/
def closing (targets : Targets) (passage : Passage) (spent : Bool) (first last : Token)
    (following : List Token) : Closing :=
  let p := within passage last.after
  match readTarget? passage.containers passage.cell following p with
  | some (dest, title, after) =>
    .link .inline dest title (Token.dropTo after.offset following) after.offset
  | none =>
    let p := match p.rest with
      | '\\' :: '[' :: _ => p.advance 1
      | _ => p
    let alone (next : List Token) : Closing :=
      if spent then .nothing none
      else shortcut targets passage first last next last.stop
    match p.rest with
    | '[' :: ']' :: _ => alone (following.drop 2)
    | '[' :: cs =>
      if (readNoteLabel? passage.cell cs).isSome then alone following
      else match readLabel? (resumeWithin passage.containers) passage.cell cs with
        | some (label, size) =>
          let stop := p.offset + 1 + size
          let next := following.dropWhile fun t => t.stop < stop
          match targets.definition? label with
          | some d => .link .reference d.dest d.title (next.drop 1) stop
          | none => .nothing (next.head?.map Token.start)
        | none => alone following
    | _ => alone following

/-- Takes in a closing bracket. -/
def close (targets : Targets) (passage : Passage) (t : Token) (following : List Token)
    (r : Reading) : Reading × List Token :=
  match Piece.splitBracket? r.pieces with
  | none => (r.keep t, following)
  | some (inner, (image, live, first), outer) =>
    let failed := { r with
      pieces := .settled (.text t.chars) :: inner ++ .settled (.text first.chars) :: outer }
    if !live then (failed, following)
    else match closing targets passage (r.spent.contains t.start) first t following with
      | .nothing tried => ({ failed with spent := tried.toList ++ r.spent }, following)
      | .note label =>
        let outer := outer.map Piece.flatten
        let outer := if image then .settled (.text ['!']) :: outer else outer
        ({ r with pieces := .settled (.note label) :: outer }, following)
      | .link kind dest title next stop =>
        let children := Piece.linkText inner
        let span : Span := ⟨first.start, stop⟩
        if image then
          ({ r with pieces := .settled (.image dest title span children) :: outer }, next)
        else
          ({ r with pieces := .settled (.link kind dest title span children) ::
              outer.map Piece.disable }, next)

/-- Takes in a pointed bracket: an automatic link, HTML, or nothing special. -/
def pointed (passage : Passage) (t : Token) (following : List Token) (r : Reading) :
    Reading × List Token :=
  let p := within passage t.after
  match readAutolink? p.rest with
  | some (kind, address) =>
    let stop := p.offset + address.length + 1
    (r.settle (.link kind address [] ⟨t.start, stop⟩ [.text address]), Token.dropTo stop following)
  | none =>
    match readHtmlAt? passage.containers p with
    | some (html, stop) => (r.settle (.html html), Token.dropTo stop following)
    | none => (r.keep t, following)

/-- Takes in a run of backticks. One that is escaped (`escaped`) has its first backtick as text. -/
def backticks (passage : Passage) (escaped : Bool) (t : Token) (following : List Token)
    (r : Reading) : Reading × List Token :=
  let size := if escaped then backtickCount t - 1 else backtickCount t
  match if size = 0 then none else closingBackticks? size following with
  | some (last, next) =>
    let code := codeChars passage.containers passage.cell 0 (t.after.upTo last.place)
    let r := if escaped then r.settle (.text ['\x60']) else r
    (r.settle (.code (trimCode code)), next)
  | none => (r.keep t, following)

/-- Takes in a token and what belongs to it. -/
def step (targets : Targets) (passage : Passage) (r : Reading) (t : Token)
    (following : List Token) : Reading × List Token :=
  match t.mark with
  | .text => (r.keep t, following)
  | .entity value => (r.settle (.text value), following)
  | .run mark count opens closes =>
    (r.add (.run ⟨mark, count, count, opens, closes, t.chars.drop count⟩), following)
  | .backticks escaped => r.backticks passage escaped t following
  | .pointed => r.pointed passage t following
  | .opening image => (r.add (.bracket image true t), following)
  | .closing => r.close targets passage t following
  | .softBreak => (r.settle .softBreak, following)
  | .hardBreak false => (r.settle .hardBreak, following)
  | .hardBreak true => (r.add .slash, following)

/-- Reads a text; every step uses a token at least, so that their number is enough `fuel`. -/
def readAll (targets : Targets) (passage : Passage) : (fuel : Nat) → Reading → List Token → Reading
  | 0, r, _ => r
  | _ + 1, r, [] => r
  | fuel + 1, r, t :: following =>
    let (r, following) := r.step targets passage t following
    readAll targets passage fuel r following

end Reading

/-- The text of a paragraph, heading or cell. -/
def readInlines (targets : Targets) (passage : Passage) : List Inline :=
  let tokens := passage.tokens
  Emphasis.resolve
    (Reading.readAll targets passage tokens.length ⟨[], []⟩ tokens).pieces.reverse

end DocSite.Markdown
