/-
# DocSite.Yaml.Printer -- values as YAML documents

Values are written in block style, one entry a line. A text stands without quotes if it is read
back as itself then; one with line breaks is written as lines of its own; otherwise it is quoted,
with escapes where single quotes would not do. A mapping with a single entry whose key is such a
mapping itself, or has a tag, cannot be written.
-/
import DocSite.Yaml.Scalar
import DocSite.Yaml.Token

set_option autoImplicit false

namespace DocSite.Yaml

open Text

/-! ## Texts -/

/-- How numbers are laid out. -/
def numberLayout : NumberLayout := ⟨-5, 16, ['.', '0'], ".inf".toList, ".nan".toList⟩

/-- The text of a number. -/
def numberText (number : Binary64) : Text := numberLayout.text number

/-- The ways of writing a text. -/
inductive Style where
  | plain
  | single
  | literal
  | double
deriving DecidableEq, Repr

namespace Style

/-- Whether a character may be written as it is. -/
def isPrintable (c : Char) : Bool :=
  let n := c.toNat
  n == 10 || (32 ≤ n && n ≤ 126) || (160 ≤ n && n ≤ 0xD7FF) ||
    (0xE000 ≤ n && n ≤ 0xFFFD && n != 0xFEFF) || 0x10000 ≤ n

/-- Whether a text has a mark that ends a plain text: a colon before white space, or a number sign
after it. `before` is the character in front. -/
def hasMark (before : Char) : Text → Bool
  | [] => false
  | c :: rest =>
    (c == ':' && Token.endsWord rest.head?) || (c == '#' && Token.endsWord (some before)) ||
      hasMark c rest

/-- Whether a text begins with a mark. -/
def startsWithMark (text : Text) : Bool :=
  match text with
  | [] => false
  | c :: rest =>
    "#,[]\x7b\x7d&*!|>'\"%@\x60".toList.contains c ||
      ((c == '?' || c == ':' || c == '-') && Token.endsWord rest.head?) ||
      (text.take 3 == ['-', '-', '-']) || (text.take 3 == ['.', '.', '.'])

/-- Whether one kind of character stands right before another one. -/
def hasPair (p q : Char → Bool) : Text → Bool
  | a :: b :: rest => (p a && q b) || hasPair p q (b :: rest)
  | _ => false

/-- Whether a text may stand without quotes. -/
def allowsPlain (text : Text) : Bool :=
  !(startsWithMark text || hasMark (text.headD 'x') (text.drop 1) || text.any Token.isBreak ||
    text.head? == some ' ' || text.getLast? == some ' ' || !text.all isPrintable)

/-- Whether a text may stand in single quotes. -/
def allowsSingle (text : Text) : Bool :=
  text.all isPrintable && !hasPair (· == ' ') Token.isBreak text &&
    !hasPair Token.isBreak (· == ' ') text

/-- Whether a text may be written as lines of its own. -/
def allowsLiteral (text : Text) : Bool :=
  text.all isPrintable && !hasPair (· == ' ') Token.isBreak text && text.getLast? != some ' ' &&
    !text.isEmpty

/-- Whether a text would be read as something else than a string if it stood without quotes, or
looks like a number. -/
def isAmbiguous (text : Text) : Bool :=
  Scalar.hasLeadingZero text ||
    match (Scalar.int? text).filter fun n => !Scalar.isHuge n with
    | some _ => true
    | none => match Scalar.resolve? text with
      | some (.string _) => false
      | _ => true

/-- The style in which a text is written; lines of its own are not possible in a short `key`. -/
def ofText (key : Bool) (text : Text) : Style :=
  if text.contains '\n' then
    if allowsLiteral text && !key then literal else double
  else if !isAmbiguous text && !(key && text.any Token.isBreak) && allowsPlain text then plain
  else if key && text.any Token.isBreak then double
  else if allowsSingle text then single
  else double

/-- The escape of a character in double quotes. -/
def escape (c : Char) : Text :=
  match [('\x00', '0'), ('\x07', 'a'), ('\x08', 'b'), ('\t', 't'), ('\n', 'n'), ('\x0b', 'v'),
    ('\x0c', 'f'), ('\r', 'r'), ('\x1b', 'e'), ('"', '"'), ('\\', '\\'), ('\u0085', 'N'),
    ('\u00a0', '_'), ('\u2028', 'L'), ('\u2029', 'P')].lookup c with
  | some letter => ['\\', letter]
  | none =>
    let digits (width : Nat) : Text := (hexDigits width 8 c.toNat).map Char.toUpper
    if c.toNat ≤ 0xFF then '\\' :: 'x' :: digits 2
    else if c.toNat ≤ 0xFFFF then '\\' :: 'u' :: digits 4
    else '\\' :: 'U' :: digits 8

/-- A text in double quotes. -/
def doubleQuoted (text : Text) : Text :=
  '"' :: text.flatMap (fun c =>
    if !isPrintable c || Token.isBreak c || c == '"' || c == '\\' then escape c else [c]) ++ ['"']

/-- Lines with `indent` spaces before each that is not empty; `fresh` tells that a line has just
begun. -/
def indented (indent : Nat) (fresh : Bool) : Text → Text
  | [] => []
  | c :: rest =>
    if Token.isBreak c then c :: indented indent true rest
    else if fresh then List.replicate indent ' ' ++ c :: indented indent false rest
    else c :: indented indent false rest

/-- A text in single quotes. The quote at the end begins a line like any other character. -/
def singleQuoted (indent : Nat) (text : Text) : Text :=
  '\'' :: indented indent false
    (text.flatMap (fun c => if c = '\'' then ['\'', '\''] else [c]) ++ ['\''])

/-- The marks after the bar of a text in lines of its own: a digit if its indentation cannot be
seen, and what becomes of the line breaks at its end. -/
def literalMarks (text : Text) : Text :=
  let hint := match text with
    | c :: _ => if c == ' ' || Token.isBreak c then ['2'] else []
    | [] => []
  let ending := match text.reverse with
    | [] => ['-']
    | [c] => if Token.isBreak c then ['+'] else ['-']
    | c :: d :: _ => if !Token.isBreak c then ['-'] else if Token.isBreak d then ['+'] else []
  hint ++ ending

end Style

/-- A text as it is written within a block of `indent` columns. -/
def textIn (indent : Nat) (key : Bool) (text : Text) : Text :=
  match Style.ofText key text with
  | .plain => text
  | .single => Style.singleQuoted (indent + 2) text
  | .double => Style.doubleQuoted text
  | .literal =>
    '|' :: Style.literalMarks text ++ '\n' :: Style.indented (indent + 2) true text

/-! ## Values -/

/-- A text that ends its line. -/
def endLine (text : Text) : Text :=
  if text.getLast?.any Token.isBreak then text else text ++ ['\n']

/-- Blocks, each of which begins with `indent` spaces. -/
def stacked (indent : Nat) (blocks : List Text) : Text :=
  blocks.flatMap fun block => List.replicate indent ' ' ++ block

/-- Blocks, all but the first of which begin with `indent` spaces. -/
def stackedAfter (indent : Nat) : List Text → Text
  | [] => []
  | first :: rest => first ++ stacked indent rest

/-- A character that a tag may have after its mark. -/
def isTagChar (c : Char) : Bool :=
  Token.isNameChar c || ";/?:@&=+$,.~*'()[]".toList.contains c

/-- A text within a tag, with its other bytes escaped. -/
def tagEscaped (text : Text) : Text :=
  text.flatMap fun c =>
    if isTagChar c then [c]
    else (String.utf8EncodeChar c).flatMap fun b =>
      '%' :: (hexDigits 2 2 b.toNat).map Char.toUpper

/-- The tag that is written for a tag: a name that begins with a mark needs none before it. -/
def writtenTag : Text → Text
  | '!' :: '!' :: rest => '!' :: rest
  | tag => tag

/-- A tag as it is written; a mark alone is put between pointed brackets. -/
def tagText (tag : Text) : Text :=
  match writtenTag tag with
  | '!' :: c :: rest => '!' :: tagEscaped (c :: rest)
  | text => '!' :: '<' :: tagEscaped text ++ ['>']

/-- The text of a value that is no collection, or an empty one. -/
def scalarText? (indent : Nat) (key : Bool) : Value → Option Text
  | .null => some "null".toList
  | .bool true => some "true".toList
  | .bool false => some "false".toList
  | .int n => some (NumberLayout.ofInt n)
  | .float number => some (numberText number)
  | .string text => some (textIn indent key text)
  | .sequence [] => some ['[', ']']
  | .mapping [] => some ['\x7b', '\x7d']
  | _ => none

/-- Whether a value may be written as a key on one line with its value. -/
def isShortKey (value : Value) : Bool :=
  let (tag, inner) := match value with
    | .tagged tag inner => (writtenTag tag, inner)
    | _ => ([], value)
  let size? : Option Nat := match inner with
    | .string text => if text.any Token.isBreak then none else some (byteSize text)
    | .sequence (_ :: _) => none
    | .mapping (_ :: _) => none
    | .tagged _ _ => none
    | .sequence [] => some 0
    | .mapping [] => some 0
    | value => (scalarText? 0 true value).map byteSize
  size?.any fun size => byteSize tag + size ≤ 128

/-- Where a value stands: after a dash, after the colon of a key on the same line, or after the
mark of a key or value on a line of its own. -/
inductive Position where
  | item
  | afterKey
  | alone
deriving DecidableEq, Repr

mutual
/-- A value after its mark, in a block of `indent` columns: what follows on the line of the mark,
and the lines after it. -/
def valueText (indent : Nat) (position : Position) : Value → Text
  | .tagged tag value =>
    let inner := match value with
      | .sequence (item :: items) =>
        let indent := if position = .item then indent + 2 else indent
        '\n' :: stacked indent (itemTexts indent (item :: items))
      | .mapping (entry :: entries) =>
        '\n' :: stacked (indent + 2) (entryTexts (indent + 2) (entry :: entries))
      | value => endLine (' ' :: ((scalarText? indent false value).getD []))
    ' ' :: tagText tag ++ inner
  | .sequence (item :: items) =>
    if position = .afterKey then '\n' :: stacked indent (itemTexts indent (item :: items))
    else ' ' :: stackedAfter (indent + 2) (itemTexts (indent + 2) (item :: items))
  | .mapping (entry :: entries) =>
    if position = .afterKey then
      '\n' :: stacked (indent + 2) (entryTexts (indent + 2) (entry :: entries))
    else ' ' :: stackedAfter (indent + 2) (entryTexts (indent + 2) (entry :: entries))
  | value => endLine (' ' :: ((scalarText? indent false value).getD []))

/-- The items of a sequence of `indent` columns. -/
def itemTexts (indent : Nat) : List Value → List Text
  | [] => []
  | item :: rest => ('-' :: valueText indent .item item) :: itemTexts indent rest

/-- The entries of a mapping of `indent` columns. -/
def entryTexts (indent : Nat) : List (Value × Value) → List Text
  | [] => []
  | (key, value) :: rest =>
    (if isShortKey key then
      let keyText := match key with
        | .tagged tag inner => tagText tag ++ ' ' :: (scalarText? indent true inner).getD []
        | key => (scalarText? indent true key).getD []
      keyText ++ ':' :: valueText indent .afterKey value
    else
      '?' :: valueText indent .alone key ++ List.replicate indent ' ' ++
        ':' :: valueText indent .alone value) :: entryTexts indent rest
end

/-! ## Documents -/

/-- Whether a key may be the only one of a mapping that has no tag: a single entry with a key like
the others looks like a tag and its value. -/
def mayStandAlone : Value → Bool
  | .mapping [_] => false
  | .tagged _ _ => false
  | _ => true

mutual
/-- Whether a value can be written; `inTag` tells that it stands in a tag. -/
def canWrite (inTag : Bool) : Value → Bool
  | .sequence items => canWriteItems items
  | .mapping [(key, value)] =>
    (inTag || mayStandAlone key) && canWrite false key && canWrite false value
  | .mapping entries => canWriteEntries entries
  | .tagged _ value => !inTag && canWrite true value
  | _ => true

/-- Whether all items can be written. -/
def canWriteItems : List Value → Bool
  | [] => true
  | item :: items => canWrite false item && canWriteItems items

/-- Whether all keys and values can be written. -/
def canWriteEntries : List (Value × Value) → Bool
  | [] => true
  | (key, value) :: entries =>
    canWrite false key && canWrite false value && canWriteEntries entries
end

/-- A mapping as a document, if it can be written. -/
def printMapping? (entries : List (Value × Value)) : Option Text :=
  if canWrite false (.mapping entries) then
    match entries with
    | [] => some "\x7b\x7d\n".toList
    | entry :: rest => some (stacked 0 (entryTexts 0 (entry :: rest)))
  else none

end DocSite.Yaml
