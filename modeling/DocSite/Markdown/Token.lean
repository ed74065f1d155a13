/-
# DocSite.Markdown.Token -- the marks within a line of text

A line of running text is cut into tokens: stretches of the source that stand for themselves, and
marks that may turn out to have a meaning once the whole text is known. What lies between two
tokens, such as the backslash before an escaped character, is not part of the text.
-/
import DocSite.Markdown.Entity
import DocSite.Markdown.Place
import DocSite.Text.Punctuation

set_option autoImplicit false

namespace DocSite.Markdown

open Text

/-- What a token may mean. A run of emphasis marks knows whether it may open and close emphasis;
a run of backticks may have a backslash before it. -/
inductive Mark where
  | text
  | entity (value : List Char)
  | run (mark : Char) (count : Nat) (opens closes : Bool)
  | backticks (escaped : Bool)
  | pointed
  | opening (image : Bool)
  | closing
  | softBreak
  | hardBreak (backslash : Bool)
deriving DecidableEq, Repr

/-- A stretch of the source and what it may mean. -/
structure Token where
  mark : Mark
  place : Place
  size : Nat
deriving DecidableEq, Repr

namespace Token

/-- The offset at which a token begins. -/
def start (t : Token) : Nat := t.place.offset

/-- The offset at which a token ends. -/
def stop (t : Token) : Nat := t.place.offset + t.size

/-- The characters of a token. -/
def chars (t : Token) : List Char := t.place.rest.take t.size

/-- The place after a token. -/
def after (t : Token) : Place := t.place.advance t.size

/-- A token that begins at an offset, or where it began if that is later. -/
def startAt (offset : Nat) (t : Token) : Token :=
  let cut := min t.size (offset - t.start)
  { t with place := t.place.advance cut, size := t.size - cut }

/-- The tokens that end after an offset, the first of them without what lies before it. -/
def dropTo (offset : Nat) : List Token → List Token
  | [] => []
  | t :: rest => if t.stop ≤ offset then dropTo offset rest else t.startAt offset :: rest

end Token

/-! ## Emphasis marks -/

/-- Whether a run of emphasis marks between two characters may open and close emphasis. Marks open
emphasis at the beginning of words and close it at their end; `*` and `~~` do so within words too.
In the cell of a table a bar is a boundary. -/
def flanks (cell : Bool) (before : Option Char) (mark : Char) (size : Nat) (next : Option Char) :
    Bool × Bool :=
  let boundary (c : Char) : Bool := isBlank c || (cell && c == '|')
  let wide := mark == '~' && 1 < size
  let escaped := mark == '~' && before == some '~'
  let opens := match next, before with
    | none, _ => false
    | some c, none => !isBlank c
    | some c, some b =>
      !boundary c &&
        ((mark == '*' && !isPunctuation c) || wide || (escaped && !isPunctuation c) ||
          isBlank b || isPunctuation b)
  let closes := match before, next with
    | none, _ => false
    | some b, none => !isBlank b
    | some b, some c =>
      !isBlank b &&
        (((mark == '*' || wide) && !isPunctuation b) || escaped || boundary c || isPunctuation c)
  (opens, closes)

/-! ## Lines -/

/-- A line cut into tokens, the last of them first; the token of the line break, unless the source
or the cell ends before one; and the place where the next line begins. -/
structure TokenLine where
  tokens : List Token
  lineBreak : Option Token
  next : Place

/-- Adds the text that reaches from one place to another, if there is any. -/
def addText (first : Place) (size : Nat) (tokens : List Token) : List Token :=
  if size = 0 then tokens else ⟨.text, first, size⟩ :: tokens

/-- The end of a line at `here`. White space before a line break is no text: two such characters
make the break a hard one, as does a backslash if the source goes on. -/
def endLine (cell : Bool) (gap slashes : Nat) (held here : Place) (tokens : List Token) :
    TokenLine :=
  let length := here.offset - held.offset
  match if cell then some 0 else breakSize? here.rest with
  | some (size + 1) =>
    let next := here.advance (size + 1)
    if slashes % 2 = 1 && !next.rest.isEmpty then
      ⟨addText held (length - 1) tokens,
        some ⟨.hardBreak true, ⟨here.offset - 1, '\\' :: here.rest⟩, size + 2⟩, next⟩
    else
      ⟨addText held (length - gap) tokens,
        some ⟨if 2 ≤ gap then .hardBreak false else .softBreak, here, size + 1⟩, next⟩
  | _ => ⟨addText held (length - gap) tokens, none, here⟩

/-- Cuts what is left of a line into tokens; in the cell of a table (`cell`) a bar ends the line.
The next `skip` characters belong to the last token or to no text. The text from `held` up to here
belongs to no token yet, `before` is the character before this place, and `gap` and `slashes` count
the white space and the backslashes just before it. -/
def cutLine (cell : Bool) (skip : Nat) (before : Option Char) (gap slashes : Nat) (held : Place)
    (tokens : List Token) (offset : Nat) : List Char → TokenLine
  | [] => endLine cell gap slashes held ⟨offset, []⟩ tokens
  | c :: rest =>
    match skip with
    | skip + 1 => cutLine cell skip before gap slashes held tokens (offset + 1) rest
    | 0 =>
      let here : Place := ⟨offset, c :: rest⟩
      let flushed := addText held (offset - held.offset) tokens
      let special (mark : Mark) (size : Nat) (last : Char) : TokenLine :=
        cutLine cell (size - 1) (some last) 0 0 (here.advance size)
          (⟨mark, here, size⟩ :: flushed) (offset + 1) rest
      let plain (size : Nat) : TokenLine :=
        cutLine cell (size - 1) (some c) (if isGap c then gap + 1 else 0)
          (if c = '\\' then slashes + 1 else 0) held tokens (offset + 1) rest
      if isBreak c || (cell && c == '|' && before != some '\\') then
        endLine cell gap slashes held here tokens
      else match c, rest with
      | '\\', d :: more =>
        if !isAsciiPunctuation d then plain 1
        else if d = '\x60' then
          let size := (rest.takeWhile (· == d)).length
          cutLine cell size (some d) 0 0 (here.advance (size + 1))
            (⟨.backticks true, here.advance 1, size⟩ :: flushed) (offset + 1) rest
        else if cell && d = '\\' && more.head? = some '|' then
          cutLine cell 2 (some '|') 0 0 (here.advance 2) flushed (offset + 1) rest
        else
          cutLine cell 1 (some d) 0 (if d = '\\' then slashes + 2 else 0) (here.advance 1) flushed
            (offset + 1) rest
      | '\x60', _ => special (.backticks false) (here.rest.takeWhile (· == c)).length c
      | '<', _ => if rest.head? = some '\\' then plain 1 else special .pointed 1 c
      | '!', _ => if rest.head? = some '[' then special (.opening true) 2 '[' else plain 1
      | '[', _ => special (.opening false) 1 c
      | ']', _ => special .closing 1 c
      | '&', _ =>
        match readEntity? here.rest with
        | some (value, size) => special (.entity value) size ';'
        | none => plain 1
      | _, _ =>
        if c = '*' || c = '_' || c = '~' then
          let size := (here.rest.takeWhile (· == c)).length
          let (opens, closes) := flanks cell before c size (here.rest.drop size).head?
          if (opens || closes) && (c != '~' || size ≤ 2) then
            special (.run c size opens closes) size c
          else plain size
        else plain 1

/-- Cuts the line that begins at a place into tokens; `gap` counts the white space before it. -/
def tokenLine (cell : Bool) (gap : Nat) (here : Place) : TokenLine :=
  cutLine cell 0 none gap 0 here [] here.offset here.rest

end DocSite.Markdown
