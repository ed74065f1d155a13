/-
# DocSite.Yaml.Token -- the tokens of a YAML document

The text is cut into tokens from left to right. What a line's indentation opens and closes
becomes tokens of its own, and a key is recognised only when the colon after it is met: the tokens
that begin a mapping and its key are then put in where the key began. A key like this stands on
one line and is not longer than a thousand bytes or so.
-/
import DocSite.Text.Basic

set_option autoImplicit false

namespace DocSite.Yaml

open Text

/-- A token. A text knows whether it stands without quotes. -/
inductive Token where
  | version (major minor : Nat)
  | tagShort (handle full : Text)
  | documentStart
  | documentEnd
  | blockSequence
  | blockMapping
  | blockEnd
  | flowSequence
  | flowSequenceEnd
  | flowMapping
  | flowMappingEnd
  | entry
  | comma
  | key
  | value
  | alias (name : Text)
  | anchor (name : Text)
  | tag (handle rest : Text)
  | scalar (plain : Bool) (text : Text)
deriving DecidableEq, Repr

namespace Token

/-! ## Characters -/

/-- A line break of any kind. -/
def isBreak (c : Char) : Bool :=
  c == '\n' || c == '\r' || c == '\u0085' || c == '\u2028' || c == '\u2029'

/-- White space within a line. -/
def isGap (c : Char) : Bool := c == ' ' || c == '\t'

/-- Whether a character ends a word; so does the end of the text. -/
def endsWord : Option Char → Bool
  | none => true
  | some c => isGap c || isBreak c

/-- A character of names. -/
def isNameChar (c : Char) : Bool := c.isAlphanum || c == '_' || c == '-'

/-- A character that a document may hold. -/
def isAllowed (c : Char) : Bool :=
  let n := c.toNat
  n == 9 || n == 10 || n == 13 || (32 ≤ n && n ≤ 126) || n == 133 ||
    (160 ≤ n && n ≤ 0xD7FF) || (0xE000 ≤ n && n ≤ 0xFFFD) || 0x10000 ≤ n

/-! ## Places -/

/-- A place in the text: what follows, the bytes before it, and the line and column. -/
structure Place where
  rest : Text
  index : Nat
  line : Nat
  column : Nat
deriving DecidableEq, Repr

namespace Place

/-- The character at a place. -/
def head? (p : Place) : Option Char := p.rest.head?

/-- The place one character further on in the line. -/
def skip (p : Place) : Place :=
  match p.rest with
  | [] => p
  | c :: rest => ⟨rest, p.index + c.utf8Size, p.line, p.column + 1⟩

/-- The place `n` characters further on in the line. -/
def skipMany (n : Nat) (p : Place) : Place :=
  ⟨p.rest.drop n, p.index + byteSize (p.rest.take n), p.line, p.column + n⟩

/-- The place after a line break, and the break as it counts in a text. -/
def takeBreak (p : Place) : Text × Place :=
  match p.rest with
  | '\r' :: '\n' :: rest => (['\n'], ⟨rest, p.index + 2, p.line + 1, 0⟩)
  | c :: rest =>
    (if c = '\u2028' || c = '\u2029' then [c] else ['\n'], ⟨rest, p.index + c.utf8Size, p.line + 1, 0⟩)
  | [] => ([], p)

/-- The place after the characters that satisfy `f`, which are no line breaks. -/
def skipWhile (f : Char → Bool) (p : Place) : Place :=
  p.skipMany (p.rest.takeWhile f).length

/-- Whether a mark of three characters stands here alone at the beginning of a line. -/
def isMark (c : Char) (p : Place) : Bool :=
  p.column == 0 && p.rest.take 3 == [c, c, c] && endsWord (p.rest[3]?)

/-- Whether the beginning or end of a document is marked here. -/
def isDocumentMark (p : Place) : Bool := p.isMark '-' || p.isMark '.'

/-- The place after spaces, as long as the column is less than `limit`. -/
def skipSpaces (limit : Nat) (p : Place) : Place :=
  p.skipMany ((p.rest.take (limit - p.column)).takeWhile (· == ' ')).length

end Place

/-! ## White space within texts -/

/-- White space in the middle of a text: the blanks before the first line break, this break, and
the further ones. -/
structure Gap where
  blanks : Text
  first : Text
  more : Text
  broken : Bool
deriving DecidableEq, Repr

namespace Gap

/-- No white space. -/
def empty : Gap := ⟨[], [], [], false⟩

/-- What a gap becomes in a text: a single line break is a space, and of several the first is
dropped. -/
def fold (g : Gap) : Text :=
  if g.broken then
    if g.first.head? == some '\n' then (if g.more.isEmpty then [' '] else g.more)
    else g.first ++ g.more
  else g.blanks

/-- Reads white space. A tab that stands for indentation before column `indent` is refused;
`fuel` bounds the characters read. -/
def read? (indent : Nat) : (fuel : Nat) → Gap → Place → Option (Gap × Place)
  | 0, g, p => some (g, p)
  | fuel + 1, g, p =>
    match p.head? with
    | none => some (g, p)
    | some c =>
      if isGap c then
        if g.broken then
          if c = '\t' && p.column < indent then none else read? indent fuel g p.skip
        else read? indent fuel { g with blanks := g.blanks ++ [c] } p.skip
      else if isBreak c then
        let (text, next) := p.takeBreak
        if g.broken then read? indent fuel { g with more := g.more ++ text } next
        else read? indent fuel { g with blanks := [], first := text, broken := true } next
      else some (g, p)

end Gap

/-! ## Texts without quotes -/

/-- A character that has a meaning of its own between brackets. -/
def isFlowMark (c : Char) : Bool := c == ',' || c == '[' || c == ']' || c == '\x7b' || c == '\x7d'

/-- Reads the characters of a plain text up to white space or a mark that ends it; the characters
read so far are given last first. -/
def plainWord? (flow : Bool) (word : Text) : Text → Option (Text × Text)
  | [] => some (word.reverse, [])
  | c :: rest =>
    if endsWord (some c) then some (word.reverse, c :: rest)
    else if flow && c == ':' && (rest.head?.any fun d => isFlowMark d || d == '?') then none
    else if c == ':' && endsWord rest.head? then some (word.reverse, c :: rest)
    else if flow && isFlowMark c then some (word.reverse, c :: rest)
    else plainWord? flow (c :: word) rest

/-- Reads a text without quotes. It goes on over line breaks as long as the lines are indented to
column `indent`; answers also whether white space with a line break came last. -/
def plain? (flow : Bool) (indent : Nat) :
    (fuel : Nat) → (text : Text) → (gap : Gap) → Place → Option (Text × Bool × Place)
  | 0, text, gap, p => some (text, gap.broken, p)
  | fuel + 1, text, gap, p =>
    if p.isDocumentMark || p.head? == some '#' then some (text, gap.broken, p)
    else match plainWord? flow [] p.rest with
      | none => none
      | some (word, rest) =>
        let (text, gap) := if word.isEmpty then (text, gap) else (text ++ gap.fold ++ word, .empty)
        let p : Place := ⟨rest, p.index + byteSize word, p.line, p.column + word.length⟩
        match p.head? with
        | none => some (text, gap.broken, p)
        | some c =>
          if !(isGap c || isBreak c) then some (text, gap.broken, p)
          else match Gap.read? indent (p.rest.length + 1) gap p with
            | none => none
            | some (gap, next) =>
              if !flow && next.column < indent then some (text, gap.broken, next)
              else plain? flow indent fuel text gap next

/-! ## Texts in quotes -/

/-- The character that a letter after a backslash stands for. -/
def escaped? (c : Char) : Option Char :=
  [('0', '\x00'), ('a', '\x07'), ('b', '\x08'), ('t', '\t'), ('\t', '\t'), ('n', '\n'),
    ('v', '\x0b'), ('f', '\x0c'), ('r', '\r'), ('e', '\x1b'), (' ', ' '), ('"', '"'), ('/', '/'),
    ('\\', '\\'), ('N', '\u0085'), ('_', '\u00a0'), ('L', '\u2028'), ('P', '\u2029')].lookup c

/-- How many hexadecimal digits follow a letter after a backslash. -/
def escapeWidth? (c : Char) : Option Nat := [('x', 2), ('u', 4), ('U', 8)].lookup c

/-- Reads the characters of a quoted text up to white space or the closing quote. Answers also
whether a line break was escaped. -/
def quotedWord? (single : Bool) : (fuel : Nat) → (word : Text) → Place → Option (Text × Bool × Place)
  | 0, word, p => some (word.reverse, false, p)
  | fuel + 1, word, p =>
    match p.rest with
    | [] => some (word.reverse, false, p)
    | c :: rest =>
      if endsWord (some c) then some (word.reverse, false, p)
      else if single then
        if c = '\'' then
          if rest.head? == some '\'' then quotedWord? single fuel ('\'' :: word) (p.skipMany 2)
          else some (word.reverse, false, p)
        else quotedWord? single fuel (c :: word) p.skip
      else if c = '"' then some (word.reverse, false, p)
      else if c = '\\' then
        match rest with
        | [] => none
        | d :: after =>
          if isBreak d then some (word.reverse, true, (p.skip.takeBreak).2)
          else match escaped? d with
            | some e => quotedWord? single fuel (e :: word) (p.skipMany 2)
            | none =>
              match escapeWidth? d with
              | none => none
              | some width =>
                let digits := after.take width
                match if digits.length = width then readBase? 16 digits else none with
                | none => none
                | some n =>
                  if n.isValidChar then
                    quotedWord? single fuel (Char.ofNat n :: word) (p.skipMany (2 + width))
                  else none
      else quotedWord? single fuel (c :: word) p.skip

/-- Reads a quoted text up to its closing quote. -/
def quoted? (single : Bool) : (fuel : Nat) → (text : Text) → Place → Option (Text × Place)
  | 0, _, _ => none
  | fuel + 1, text, p =>
    if p.isDocumentMark || p.rest.isEmpty then none
    else match quotedWord? single (p.rest.length + 1) [] p with
      | none => none
      | some (word, escapedBreak, p) =>
        let text := text ++ word
        if p.head? == some (if single then '\'' else '"') then some (text, p.skip)
        else match Gap.read? 0 (p.rest.length + 1) { Gap.empty with broken := escapedBreak } p with
          | none => none
          | some (gap, next) => quoted? single fuel (text ++ gap.fold) next

/-! ## Block texts -/

/-- What becomes of the line breaks at the end of a block text. -/
inductive Chomping where
  | strip
  | clip
  | keep
deriving DecidableEq, Repr

/-- Reads the indentation of lines up to the first with text: the line breaks, and the greatest
column reached. `indent` is the column where the text begins, if it is known. -/
def blockBreaks? (indent : Option Nat) :
    (fuel : Nat) → (breaks : Text) → (widest : Nat) → Place → Option (Text × Nat × Place)
  | 0, breaks, widest, p => some (breaks, widest, p)
  | fuel + 1, breaks, widest, p =>
    let p := match indent with
      | some n => p.skipSpaces n
      | none => p.skipWhile (· == ' ')
    let widest := max widest p.column
    match p.head? with
    | none => some (breaks, widest, p)
    | some c =>
      if c = '\t' && (indent.all fun n => p.column < n) then none
      else if isBreak c then
        let (text, next) := p.takeBreak
        blockBreaks? indent fuel (breaks ++ text) widest next
      else some (breaks, widest, p)

/-- Reads the lines of a block text that begin at column `indent`. `leading` is the break that
ended the line before, `trailing` the empty lines after it, and `afterBlank` tells that the line
before began with white space. -/
def blockLines? (literal : Bool) (indent : Nat) :
    (fuel : Nat) → (text leading trailing : Text) → (afterBlank : Bool) → Place →
      Option (Text × Text × Text × Place)
  | 0, text, leading, trailing, _, p => some (text, leading, trailing, p)
  | fuel + 1, text, leading, trailing, afterBlank, p =>
    match p.head? with
    | none => some (text, leading, trailing, p)
    | some c =>
      if p.column ≠ indent then some (text, leading, trailing, p)
      else
        let blank := isGap c
        let joint :=
          if !literal && leading.head? == some '\n' && !afterBlank && !blank then
            if trailing.isEmpty then [' '] else trailing
          else leading ++ trailing
        let line := p.rest.takeWhile fun c => !isBreak c
        let (leading, next) := (p.skipMany line.length).takeBreak
        match blockBreaks? (some indent) (next.rest.length + 1) [] 0 next with
        | none => none
        | some (trailing, _, next) =>
          blockLines? literal indent fuel (text ++ joint ++ line) leading trailing blank next

/-- Reads the chomping and the indentation after the mark of a block text, in either order. -/
def blockHeader? (p : Place) : Option (Chomping × Option Nat × Place) :=
  let chomping (p : Place) : Option Chomping × Place :=
    match p.head? with
    | some '+' => (some .keep, p.skip)
    | some '-' => (some .strip, p.skip)
    | _ => (none, p)
  let digit? (p : Place) : Option (Option Nat × Place) :=
    match p.head? with
    | some c =>
      if c.isDigit then if c = '0' then none else some (some (digitValue c), p.skip)
      else some (none, p)
    | none => some (none, p)
  let (first, p) := chomping p
  match digit? p with
  | none => none
  | some (increment, p) =>
    let (second, p) := match first, increment with
      | none, some _ => chomping p
      | _, _ => (none, p)
    some ((first.or second).getD .clip, increment, p)

/-- Reads a block text; `outer` is the column of what it stands in, if it stands in anything. -/
def block? (literal : Bool) (outer : Int) (p : Place) : Option (Text × Place) :=
  match blockHeader? p with
  | none => none
  | some (chomping, increment, p) =>
    let p := p.skipWhile isGap
    let p := if p.head? == some '#' then p.skipWhile (fun c => !isBreak c) else p
    if !(p.head?.all isBreak) then none
    else
      let (_, p) := p.takeBreak
      let known := increment.map fun n => outer.toNat + n
      match blockBreaks? known (p.rest.length + 1) [] 0 p with
      | none => none
      | some (trailing, widest, p) =>
        let indent := known.getD (max widest (max (outer + 1).toNat 1))
        match blockLines? literal indent (p.rest.length + 1) [] [] trailing false p with
        | none => none
        | some (text, leading, trailing, p) =>
          let text := if chomping = .strip then text else text ++ leading
          some (if chomping = .keep then text ++ trailing else text, p)

/-! ## Tags -/

/-- A character that tags may hold; brackets and commas only between pointed brackets. -/
def isTagChar (pointed : Bool) (c : Char) : Bool :=
  isNameChar c || ";/?:@&=+$.!~*'()%".toList.contains c ||
    (pointed && (c == ',' || c == '[' || c == ']'))

/-- The bytes that a text in UTF-8 with escaped bytes stands for. -/
def tagBytes : (fuel : Nat) → Text → Option (List UInt8)
  | 0, _ => some []
  | _ + 1, [] => some []
  | fuel + 1, '%' :: rest =>
    match if (rest.take 2).length = 2 then readBase? 16 (rest.take 2) else none with
    | none => none
    | some n => (tagBytes fuel (rest.drop 2)).map (n.toUInt8 :: ·)
  | fuel + 1, c :: rest => (tagBytes fuel rest).map (String.utf8EncodeChar c ++ ·)

/-- The text of a tag, with its escapes replaced. -/
def tagText? (text : Text) : Option Text :=
  if text.any (· == '%') then
    (tagBytes (text.length + 1) text).bind fun bytes =>
      (String.fromUTF8? ⟨bytes.toArray⟩).map String.toList
  else some text

/-- Reads a tag: its handle and the rest of it. -/
def tag? (flow : Bool) (p : Place) : Option (Token × Place) :=
  let found? : Option (Text × Text × Place) :=
    if (p.rest[1]?) == some '<' then
      let p := p.skipMany 2
      let text := p.rest.takeWhile (isTagChar true)
      let p := p.skipMany text.length
      if text.isEmpty || p.head? != some '>' then none else some ([], text, p.skip)
    else
      let name := (p.rest.drop 1).takeWhile isNameChar
      let after := p.skipMany (1 + name.length)
      if after.head? == some '!' then
        let after := after.skip
        let text := after.rest.takeWhile (isTagChar false)
        if text.isEmpty then none
        else some ('!' :: name ++ ['!'], text, after.skipMany text.length)
      else
        let text := name ++ after.rest.takeWhile (isTagChar false)
        let next := p.skipMany (1 + text.length)
        if text.isEmpty then some ([], ['!'], next) else some (['!'], text, next)
  match found? with
  | none => none
  | some (handle, text, next) =>
    if endsWord next.head? || (flow && next.head? == some ',') then
      (tagText? text).map fun text => (.tag handle text, next)
    else none

/-- Reads a directive, which begins with a percent sign; answers the token, and nothing for one
that is not known. -/
def directive? (p : Place) : Option (Token × Place) :=
  let p := p.skip
  let name := p.rest.takeWhile isNameChar
  let p := p.skipMany name.length
  let finish (token : Token) (p : Place) : Option (Token × Place) :=
    let p := p.skipWhile isGap
    let p := if p.head? == some '#' then p.skipWhile (fun c => !isBreak c) else p
    if p.head?.all isBreak then some (token, if p.rest.isEmpty then p else (p.takeBreak).2) else none
  if !endsWord p.head? then none
  else if name = "YAML".toList then
    let p := p.skipWhile isGap
    let major := p.rest.takeWhile Char.isDigit
    let p := p.skipMany major.length
    if major.isEmpty || 9 < major.length || p.head? != some '.' then none
    else
      let p := p.skip
      let minor := p.rest.takeWhile Char.isDigit
      let p := p.skipMany minor.length
      if minor.isEmpty || 9 < minor.length then none
      else finish (.version (readDecimal major) (readDecimal minor)) p
  else if name = "TAG".toList then
    let p := p.skipWhile isGap
    match p.rest with
    | '!' :: rest =>
      let name := rest.takeWhile isNameChar
      let after := p.skipMany (1 + name.length)
      let handle? : Option (Text × Place) :=
        if after.head? == some '!' then some ('!' :: name ++ ['!'], after.skip)
        else if name.isEmpty then some (['!'], after)
        else none
      match handle? with
      | none => none
      | some (handle, after) =>
        if !(after.head?.any isGap) then none
        else
          let after := after.skipWhile isGap
          let text := after.rest.takeWhile (isTagChar true)
          let next := after.skipMany text.length
          if text.isEmpty || !endsWord next.head? then none
          else (tagText? text).bind fun text => finish (.tagShort handle text) next
    | _ => none
  else none

/-! ## Scanning -/

/-- A place where a key may have begun. It is `required` to be one if nothing else may begin
there. -/
structure KeyStart where
  required : Bool
  number : Nat
  index : Nat
  line : Nat
  column : Nat
deriving DecidableEq, Repr

/-- The state of the scan: the tokens so far, last first, with their number; the indentation of
the open blocks, innermost first; whether a key may begin here; and the keys that may have begun,
one for each open bracket and one for the rest, innermost first. -/
structure Scan where
  place : Place
  tokens : List Token
  count : Nat
  indent : Int
  outer : List Int
  keyAllowed : Bool
  keys : List (Option KeyStart)

namespace Scan

/-- Whether the scan is between brackets. -/
def inFlow (s : Scan) : Bool := 1 < s.keys.length

/-- Adds a token. -/
def emit (token : Token) (s : Scan) : Scan :=
  { s with tokens := token :: s.tokens, count := s.count + 1 }

/-- Puts a token in before the one with the given number. -/
def insertAt (number : Nat) (token : Token) (s : Scan) : Scan :=
  let after := s.count - number
  { s with tokens := s.tokens.take after ++ token :: s.tokens.drop after, count := s.count + 1 }

/-- Gives up the keys that cannot be keys any more. -/
def dropStale? (s : Scan) : Option Scan :=
  let stale (k : KeyStart) : Bool := k.line < s.place.line || k.index + 1024 < s.place.index
  if s.keys.any fun k? => k?.any fun k => stale k && k.required then none
  else some { s with keys := s.keys.map fun k? => k?.filter fun k => !stale k }

/-- Gives up the innermost key. -/
def dropKey? (s : Scan) : Option Scan :=
  match s.keys with
  | some k :: rest => if k.required then none else some { s with keys := none :: rest }
  | _ => some s

/-- Notes that a key may begin here. -/
def noteKey? (s : Scan) : Option Scan :=
  if s.keyAllowed then
    s.dropKey?.map fun s =>
      let p := s.place
      let required := !s.inFlow && s.indent == (p.column : Int)
      { s with keys := some ⟨required, s.count, p.index, p.line, p.column⟩ :: s.keys.drop 1 }
  else some s

/-- Opens a block at a column further right; the token is put in at `number`, if this is given. -/
def openBlock (column : Nat) (number : Option Nat) (token : Token) (s : Scan) : Scan :=
  if s.inFlow || (column : Int) ≤ s.indent then s
  else
    let s := { s with outer := s.indent :: s.outer, indent := column }
    match number with
    | some n => s.insertAt n token
    | none => s.emit token

/-- Closes the blocks that are indented further than a column. -/
def closeBlocksFrom (column : Int) (s : Scan) : List Int → Scan
  | [] => s
  | previous :: rest =>
    if column < s.indent then
      closeBlocksFrom column { s.emit .blockEnd with indent := previous, outer := rest } rest
    else s

/-- Closes the blocks that are indented further than a column, unless between brackets. -/
def closeBlocks (column : Int) (s : Scan) : Scan :=
  if s.inFlow then s else closeBlocksFrom column s s.outer

/-- Skips white space, comments and line breaks before the next token; `fuel` bounds them. A byte
order mark may begin any line. -/
def skipGaps : (fuel : Nat) → Scan → Scan
  | 0, s => s
  | fuel + 1, s =>
    let p := s.place
    let p := if p.column = 0 && p.head? == some '\ufeff' then p.skip else p
    let p := p.skipWhile fun c => c == ' ' || ((s.inFlow || !s.keyAllowed) && c == '\t')
    let p := if p.head? == some '#' then p.skipWhile (fun c => !isBreak c) else p
    if p.head?.any isBreak then
      skipGaps fuel { s with place := (p.takeBreak).2, keyAllowed := s.keyAllowed || !s.inFlow }
    else { s with place := p }

/-- Adds a token of `size` characters that stands here. -/
def mark (size : Nat) (token : Token) (s : Scan) : Scan :=
  { s.emit token with place := s.place.skipMany size }

/-- Ends all blocks before a mark or directive of the document. -/
def endContent? (s : Scan) : Option Scan :=
  ((s.closeBlocks (-1)).dropKey?).map fun s => { s with keyAllowed := false }

/-- Takes in the colon after a key. -/
def takeValue? (s : Scan) : Option Scan :=
  match s.keys with
  | some k :: rest =>
    let s := s.insertAt k.number .key
    let s := s.openBlock k.column (some k.number) .blockMapping
    some (({ s with keys := none :: rest, keyAllowed := false }).mark 1 .value)
  | _ =>
    if s.inFlow then some (({ s with keyAllowed := false }).mark 1 .value)
    else if !s.keyAllowed then none
    else
      let s := s.openBlock s.place.column none .blockMapping
      some (({ s with keyAllowed := true }).mark 1 .value)

/-- Takes in a name after a mark. -/
def takeName? (make : Text → Token) (s : Scan) : Option Scan :=
  s.noteKey?.bind fun s =>
    let p := s.place.skip
    let name := p.rest.takeWhile isNameChar
    let next := p.skipMany name.length
    if name.isEmpty || !(endsWord next.head? || next.head?.any fun c => "?:,]\x7d%@\x60".toList.contains c)
    then none
    else some { s.emit (make name) with place := next, keyAllowed := false }

/-- Takes in a text without quotes. -/
def takePlain? (s : Scan) : Option Scan :=
  s.noteKey?.bind fun s =>
    match plain? s.inFlow (s.indent + 1).toNat (s.place.rest.length + 1) [] .empty s.place with
    | none => none
    | some (text, broken, next) =>
      some { s.emit (.scalar true text) with place := next, keyAllowed := broken }

/-- Whether a text without quotes begins with a character, given the one after it. -/
def beginsPlain (flow : Bool) (c : Char) (next : Option Char) : Bool :=
  let special := endsWord (some c) || "-?:,[]\x7b\x7d#&*!|>'\"%@\x60".toList.contains c
  !special || (c == '-' && !(next.any isGap)) ||
    (!flow && (c == '?' || c == ':') && !endsWord next)

/-- Takes in the token that begins with a character. -/
def takeToken? (c : Char) (s : Scan) : Option Scan :=
  let p := s.place
  let next := p.rest[1]?
  if p.column = 0 && c = '%' then
    s.endContent?.bind fun s =>
      (directive? s.place).map fun (token, next) => { s.emit token with place := next }
  else if p.isMark '-' then s.endContent?.map (mark 3 .documentStart)
  else if p.isMark '.' then s.endContent?.map (mark 3 .documentEnd)
  else if c = '[' || c = '\x7b' then
    s.noteKey?.map fun s =>
      ({ s with keys := none :: s.keys, keyAllowed := true }).mark 1
        (if c = '[' then .flowSequence else .flowMapping)
  else if c = ']' || c = '\x7d' then
    s.dropKey?.map fun s =>
      ({ s with keys := if s.inFlow then s.keys.drop 1 else s.keys, keyAllowed := false }).mark 1
        (if c = ']' then .flowSequenceEnd else .flowMappingEnd)
  else if c = ',' then s.dropKey?.map fun s => ({ s with keyAllowed := true }).mark 1 .comma
  else if c = '-' && endsWord next then
    if !s.inFlow && !s.keyAllowed then none
    else
      ((if s.inFlow then s else s.openBlock p.column none .blockSequence).dropKey?).map fun s =>
        ({ s with keyAllowed := true }).mark 1 .entry
  else if c = '?' && (s.inFlow || endsWord next) then
    if !s.inFlow && !s.keyAllowed then none
    else
      ((if s.inFlow then s else s.openBlock p.column none .blockMapping).dropKey?).map fun s =>
        ({ s with keyAllowed := !s.inFlow }).mark 1 .key
  else if c = ':' && (s.inFlow || endsWord next) then s.takeValue?
  else if c = '*' then s.takeName? .alias
  else if c = '&' then s.takeName? .anchor
  else if c = '!' then
    s.noteKey?.bind fun s =>
      (tag? s.inFlow s.place).map fun (token, next) =>
        { s.emit token with place := next, keyAllowed := false }
  else if (c = '|' || c = '>') && !s.inFlow then
    s.dropKey?.bind fun s =>
      (block? (c = '|') s.indent p.skip).map fun (text, next) =>
        { s.emit (.scalar false text) with place := next, keyAllowed := true }
  else if c = '\'' || c = '"' then
    s.noteKey?.bind fun s =>
      (quoted? (c = '\'') (p.rest.length + 1) [] p.skip).map fun (text, next) =>
        { s.emit (.scalar false text) with place := next, keyAllowed := false }
  else if beginsPlain s.inFlow c next then s.takePlain?
  else none

/-- Scans to the end of the text; every token has a character, so that their number is enough
`fuel`. -/
def run? : (fuel : Nat) → Scan → Option Scan
  | 0, _ => none
  | fuel + 1, s =>
    ((s.skipGaps (s.place.rest.length + 1)).dropStale?).bind fun s =>
      let s := s.closeBlocks s.place.column
      match s.place.head? with
      | none =>
        (({ s with place := { s.place with column := 0 } }).closeBlocks (-1)).dropKey?
      | some c => (s.takeToken? c).bind (run? fuel)

end Scan

/-- The tokens of a text. -/
def scan? (text : Text) : Option (List Token) :=
  if text.all isAllowed then
    (Scan.run? (text.length + 1) ⟨⟨text, 0, 0, 0⟩, [], 0, -1, [], true, [none]⟩).map
      fun s => s.tokens.reverse
  else none

end Token

end DocSite.Yaml
