/-
# DocSite.Template.Token -- tokens of template texts

A template is text with marks in it: `{{ … }}` for values, `{% … %}` for statements and `{# … #}` for
comments. A hyphen on the inner side of a mark takes away the white space
beyond it. A line break at the very end of a template does not count.
-/
import DocSite.Number.Binary64

set_option autoImplicit false

namespace DocSite.Template

open Text

/-- A mark of the expression language. -/
inductive Symbol where
  | plus
  | minus
  | times
  | divide
  | floorDivide
  | remainder
  | power
  | tilde
  | dot
  | comma
  | colon
  | assign
  | equal
  | notEqual
  | less
  | lessEqual
  | greater
  | greaterEqual
  | pipe
  | openParen
  | closeParen
  | openBracket
  | closeBracket
  | openBrace
  | closeBrace
deriving DecidableEq, Repr

/-- A token of a template. -/
inductive Token where
  | data (text : Text)
  | openValue
  | closeValue
  | openBlock
  | closeBlock
  | name (text : Text)
  | string (text : Text)
  | int (value : Nat)
  | float (value : Binary64)
  | symbol (symbol : Symbol)
deriving DecidableEq, Repr

namespace Token

/-! ## Symbols, names, numbers and strings -/

/-- The symbols of two characters. -/
def longSymbols : List (Text × Symbol) :=
  [(['/', '/'], .floorDivide), (['*', '*'], .power), (['=', '='], .equal), (['!', '='], .notEqual),
    (['>', '='], .greaterEqual), (['<', '='], .lessEqual)]

/-- The symbols of one character. -/
def shortSymbols : List (Char × Symbol) :=
  [('+', .plus), ('-', .minus), ('*', .times), ('/', .divide), ('%', .remainder), ('~', .tilde),
    ('.', .dot), (',', .comma), (':', .colon), ('=', .assign), ('<', .less), ('>', .greater),
    ('|', .pipe), ('(', .openParen), (')', .closeParen), ('[', .openBracket),
    (']', .closeBracket), ('\x7b', .openBrace), ('\x7d', .closeBrace)]

/-- The symbol that a text begins with, and what follows it. -/
def symbol? (text : Text) : Option (Symbol × Text) :=
  match longSymbols.lookup (text.take 2) with
  | some found => some (found, text.drop 2)
  | none => match text with
    | [] => none
    | c :: rest => (shortSymbols.lookup c).map (·, rest)

/-- Whether a character may begin a name. -/
def startsName (c : Char) : Bool := c == '_' || c.isAlpha

/-- Whether a character may be in a name. -/
def inName (c : Char) : Bool := c == '_' || c.isAlphanum

/-- The parts of a number that may be read. -/
inductive NumberPart where
  | whole
  | fraction
  | exponent
  | exponentDigits
deriving DecidableEq

/-- The characters of a decimal number, and the part that it ends in. -/
def takeNumber (part : NumberPart) : Text → Text × NumberPart
  | [] => ([], part)
  | c :: rest =>
    let next : Option NumberPart :=
      if (c == 'e' || c == 'E') && (part = .whole || part = .fraction) then some .exponent
      else if c == '.' && part = .whole then some .fraction
      else if (c == '+' || c == '-') && part = .exponent then some .exponentDigits
      else if c.isDigit then some (if part = .exponent then .exponentDigits else part)
      else if c == '_' then some part
      else none
    match next with
    | none => ([], part)
    | some next =>
      let (taken, last) := takeNumber next rest
      (c :: taken, last)

/-- The base that a number is written in, and its digits. -/
def radix (text : Text) : Nat × Text :=
  match text with
  | '0' :: 'b' :: rest => (2, rest)
  | '0' :: 'B' :: rest => (2, rest)
  | '0' :: 'o' :: rest => (8, rest)
  | '0' :: 'O' :: rest => (8, rest)
  | '0' :: 'x' :: rest => (16, rest)
  | '0' :: 'X' :: rest => (16, rest)
  | _ => (10, text)

/-- Reads the number that a text begins with. -/
def number? (text : Text) : Option (Token × Text) :=
  let (base, digits) := radix text
  let (taken, isFloat) :=
    if base = 10 then
      let (taken, last) := takeNumber .whole digits
      (taken, last ≠ .whole)
    else
      (digits.takeWhile fun c =>
        c == '_' || c.isDigit || (base == 16 && (hexValue? c).isSome), false)
  let rest := digits.drop taken.length
  let read := taken.filter (· != '_')
  if taken.getLast? = some '_' then none
  else if isFloat then (Binary64.ofDigits? false read).map fun x => (.float x, rest)
  else ((readBase? base read).filter (· < twoTo 128)).map fun n => (.int n, rest)

/-- The characters that stand for themselves or others after a backslash. -/
def escapes : List (Char × Char) :=
  [('"', '"'), ('\\', '\\'), ('/', '/'), ('\'', '\''), ('b', '\x08'), ('f', '\x0c'), ('n', '\n'),
    ('r', '\r'), ('t', '\t')]

/-- Reads a number of four hexadecimal digits, or of three with a plus sign before them. -/
def unit? (text : Text) : Option (Nat × Text) :=
  let digits := match text.take 4 with
    | '+' :: digits => digits
    | digits => digits
  if text.length < 4 then none
  else (readBase? 16 digits).map (·, text.drop 4)

/-- Reads a string up to the quote that ends it; `fuel` bounds the characters. -/
def string? (quote : Char) : (fuel : Nat) → Text → Option (Text × Text)
  | 0, _ => none
  | _ + 1, [] => none
  | fuel + 1, c :: rest =>
    if c = quote then some ([], rest)
    else if c ≠ '\\' then (string? quote fuel rest).map fun (text, after) => (c :: text, after)
    else match rest with
      | [] => none
      | 'u' :: rest =>
        match unit? rest with
        | none => none
        | some (high, rest) =>
          if 0xD800 ≤ high && high < 0xDC00 then
            match rest with
            | '\\' :: 'u' :: rest =>
              match unit? rest with
              | some (low, rest) =>
                if 0xDC00 ≤ low && low < 0xE000 then
                  (string? quote fuel rest).map fun (text, after) =>
                    (Char.ofNat (0x10000 + (high - 0xD800) * 0x400 + (low - 0xDC00)) :: text, after)
                else none
              | none => none
            | _ => none
          else if 0xDC00 ≤ high && high < 0xE000 then none
          else (string? quote fuel rest).map fun (text, after) => (Char.ofNat high :: text, after)
      | e :: rest =>
        match escapes.lookup e with
        | some c => (string? quote fuel rest).map fun (text, after) => (c :: text, after)
        | none => none

/-! ## Text and marks -/

/-- What a mark begins. -/
inductive Mark where
  | value
  | block
  | comment
deriving DecidableEq, Repr

/-- What a hyphen or a plus sign at a mark says about the white space beyond it. -/
inductive Trim where
  | default
  | keep
  | remove
deriving DecidableEq, Repr

/-- The sign that a text begins with, and what follows it. -/
def trimOf : Text → Trim × Text
  | '-' :: rest => (.remove, rest)
  | '+' :: rest => (.keep, rest)
  | rest => (.default, rest)

/-- The mark that a text begins with. -/
def mark? : Text → Option (Mark × Text)
  | '\x7b' :: '\x7b' :: rest => some (.value, rest)
  | '\x7b' :: '%' :: rest => some (.block, rest)
  | '\x7b' :: '#' :: rest => some (.comment, rest)
  | _ => none

/-- The text before the first mark, and the mark with what follows it. -/
def splitMark : Text → Text × Option (Mark × Text)
  | [] => ([], none)
  | c :: rest =>
    match mark? (c :: rest) with
    | some found => ([], some found)
    | none =>
      let (before, found) := splitMark rest
      (c :: before, found)

/-- White space of ASCII texts. -/
def isSpace (c : Char) : Bool := c == ' ' || c == '\t' || c == '\n' || c == '\r' || c == '\x0c'

/-- What follows a statement that is only a keyword, given what follows the mark that begins it;
also the sign at the mark that ends it. -/
def afterKeyword? (keyword text : Text) : Option (Trim × Text) :=
  (dropPhrase? keyword (text.dropWhile isSpace)).bind fun rest =>
    let (trim, rest) := trimOf (rest.dropWhile isSpace)
    (dropPhrase? ['%', '\x7d'] rest).map (trim, ·)

/-- The text up to the statement `endraw`, the sign at its beginning, and what follows it with the
sign there. -/
def splitRaw? : Text → Option (Text × Trim × Trim × Text)
  | [] => none
  | c :: rest =>
    let here := match dropPhrase? ['\x7b', '%'] (c :: rest) with
      | some inside =>
        let (first, inside) := trimOf inside
        (afterKeyword? "endraw".toList inside).map fun (last, after) => (first, last, after)
      | none => none
    match here with
    | some (first, last, after) => some ([], first, last, after)
    | none => (splitRaw? rest).map fun (text, found) => (c :: text, found)

/-- A text as one token, unless it is empty. -/
def dataTokens (text : Text) : List Token := if text.isEmpty then [] else [.data text]

/-- Where the reader of tokens is. -/
inductive Place where
  | outside (trim : Bool)
  | inside (mark : Mark) (depth : Int)

/-- The end of a mark that a text begins with, and whether white space is taken away after it. -/
def close? (mark : Mark) (text : Text) : Option (Bool × Text) :=
  match mark, text with
  | .value, '-' :: '\x7d' :: '\x7d' :: rest => some (true, rest)
  | .value, '\x7d' :: '\x7d' :: rest => some (false, rest)
  | .block, '-' :: '%' :: '\x7d' :: rest => some (true, rest)
  | .block, '+' :: '%' :: '\x7d' :: rest => some (false, rest)
  | .block, '%' :: '\x7d' :: rest => some (false, rest)
  | _, _ => none

/-- How a symbol changes the number of open brackets. -/
def depthChange : Symbol → Int
  | .openParen => 1
  | .openBracket => 1
  | .openBrace => 1
  | .closeParen => -1
  | .closeBracket => -1
  | .closeBrace => -1
  | _ => 0

/-- The tokens of a text; `fuel` bounds their number and that of the white space between them. -/
def tokensFrom? : (fuel : Nat) → Place → Text → Option (List Token)
  | 0, _, _ => none
  | fuel + 1, .outside trim, text =>
    let (lead, found) := splitMark text
    let lead := if trim then trimStart lead else lead
    match found with
    | none => some (dataTokens lead)
    | some (mark, rest) =>
      let (sign, rest) := trimOf rest
      let lead := dataTokens (if sign = .remove then trimEnd lead else lead)
      match mark with
      | .comment =>
        match splitFirst? ['#', '\x7d'] rest with
        | none => none
        | some (comment, after) =>
          (tokensFrom? fuel (.outside (comment.getLast? == some '-')) after).map (lead ++ ·)
      | .value => (tokensFrom? fuel (.inside .value 0) rest).map fun more => lead ++ .openValue :: more
      | .block =>
        match afterKeyword? "raw".toList rest with
        | none => (tokensFrom? fuel (.inside .block 0) rest).map fun more => lead ++ .openBlock :: more
        | some (first, inside) =>
          match splitRaw? inside with
          | none => none
          | some (raw, second, last, after) =>
            let raw := if first = .remove then trimStart raw else raw
            let raw := if second = .remove then trimEnd raw else raw
            (tokensFrom? fuel (.outside (last == .remove)) after).map fun more =>
              lead ++ .data raw :: more
  | fuel + 1, .inside mark depth, text =>
    match text.dropWhile isSpace with
    | [] => none
    | c :: rest =>
      match if depth = 0 then close? mark (c :: rest) else none with
      | some (trim, after) =>
        (tokensFrom? fuel (.outside trim) after).map fun more =>
          (if mark = .value then .closeValue else .closeBlock) :: more
      | none =>
        match symbol? (c :: rest) with
        | some (found, after) =>
          (tokensFrom? fuel (.inside mark (depth + depthChange found)) after).map (.symbol found :: ·)
        | none =>
          if c == '"' || c == '\'' then
            match string? c (rest.length + 1) rest with
            | some (text, after) =>
              (tokensFrom? fuel (.inside mark depth) after).map (.string text :: ·)
            | none => none
          else if c.isDigit then
            match number? (c :: rest) with
            | some (token, after) => (tokensFrom? fuel (.inside mark depth) after).map (token :: ·)
            | none => none
          else if startsName c then
            let name := c :: rest.takeWhile inName
            (tokensFrom? fuel (.inside mark depth) (rest.dropWhile inName)).map (.name name :: ·)
          else none

/-- A text without the line break at its end. -/
def withoutLastBreak (text : Text) : Text :=
  match text.reverse with
  | '\n' :: '\r' :: rest => rest.reverse
  | '\n' :: rest => rest.reverse
  | '\r' :: rest => rest.reverse
  | _ => text

/-- The tokens of a template, if it is well-formed so far. -/
def ofTemplate? (text : Text) : Option (List Token) :=
  tokensFrom? (text.length + 2) (.outside false) (withoutLastBreak text)

end Token

end DocSite.Template
