/-
# DocSite.Toml.Scalar -- texts, numbers and dates of TOML documents

A text stands in double quotes, where a backslash begins an escape, or in single quotes, where it
means itself; three quotes at either end allow line breaks within. Everything else is a word that
ends before white space, a comma, a closing bracket or a comment. Whole numbers have 64 bits.
-/
import DocSite.Toml.Value

set_option autoImplicit false

namespace DocSite.Toml

open Text

/-! ## White space and comments -/

/-- White space within a line. -/
def isSpace (c : Char) : Bool := c == ' ' || c == '\t'

/-- A text without the white space it begins with. -/
def skipSpace (cs : Text) : Text := cs.dropWhile isSpace

/-- Whether a character may stand in a comment or a text: no control character but the tab. -/
def isPlain (c : Char) : Bool := c == '\t' || (32 ≤ c.toNat && c.toNat != 127)

/-- What follows a line break. -/
def dropBreak? : Text → Option Text
  | '\n' :: rest => some rest
  | '\r' :: '\n' :: rest => some rest
  | _ => none

/-- A text without the line break it may begin with. -/
def skipBreak (cs : Text) : Text := (dropBreak? cs).getD cs

/-- A text without the white space and line breaks it begins with. -/
def skipBreaks : Text → Text
  | ' ' :: rest => skipBreaks rest
  | '\t' :: rest => skipBreaks rest
  | '\n' :: rest => skipBreaks rest
  | '\r' :: '\n' :: rest => skipBreaks rest
  | cs => cs

/-- A text without the white space, line breaks and comments it begins with; `comment` tells that it
begins within a comment. A character that may not stand in a comment stays. -/
def skipRemarks : (comment : Bool) → Text → Text
  | _, '\n' :: rest => skipRemarks false rest
  | _, '\r' :: '\n' :: rest => skipRemarks false rest
  | true, c :: rest => if isPlain c then skipRemarks true rest else c :: rest
  | false, '#' :: rest => skipRemarks true rest
  | false, c :: rest => if isSpace c then skipRemarks false rest else c :: rest
  | _, [] => []

/-- What follows the end of a line, after white space and a comment; the end of the document ends a
line, too. -/
def endLine? (cs : Text) : Option Text :=
  let rest := match skipSpace cs with
    | '#' :: comment => comment.dropWhile isPlain
    | rest => rest
  if rest.isEmpty then some [] else dropBreak? rest

/-! ## Texts in quotes -/

/-- The character of a number of hexadecimal digits, and what follows it. -/
def codePoint? (size : Nat) (cs : Text) : Option (Char × Text) :=
  let digits := cs.take size
  if digits.length = size then
    (readBase? 16 digits).bind fun n =>
      if n.isValidChar then some (Char.ofNat n, cs.drop size) else none
  else none

/-- The character of an escape, after its backslash, and what follows it. -/
def escape? : Text → Option (Char × Text)
  | 'b' :: rest => some ('\x08', rest)
  | 't' :: rest => some ('\t', rest)
  | 'n' :: rest => some ('\n', rest)
  | 'f' :: rest => some ('\x0c', rest)
  | 'r' :: rest => some ('\r', rest)
  | '"' :: rest => some ('"', rest)
  | '\\' :: rest => some ('\\', rest)
  | 'u' :: rest => codePoint? 4 rest
  | 'U' :: rest => codePoint? 8 rest
  | _ => none

/-- A text up to its closing double quote; `fuel` bounds the number of its characters. -/
def basicWithin : (fuel : Nat) → Text → Option (Text × Text)
  | 0, _ => none
  | _ + 1, [] => none
  | fuel + 1, c :: rest =>
    if c = '"' then some ([], rest)
    else if c = '\\' then
      (escape? rest).bind fun (d, rest) =>
        (basicWithin fuel rest).map fun (text, rest) => (d :: text, rest)
    else if isPlain c then (basicWithin fuel rest).map fun (text, rest) => (c :: text, rest)
    else none

/-- A text after its opening double quote. -/
def basic? (cs : Text) : Option (Text × Text) := basicWithin (cs.length + 1) cs

/-- A text after its opening single quote. -/
def literal? (cs : Text) : Option (Text × Text) :=
  let text := cs.takeWhile fun c => isPlain c && c != '\''
  match cs.drop text.length with
  | '\'' :: rest => some (text, rest)
  | _ => none

/-- What three quotes leave to a text that they close: of up to five quotes at its end, those before
the last three are its own. -/
def closing (quote : Char) : Text → Text × Text
  | c :: d :: rest =>
    if c = quote && d = quote then ([c, d], rest)
    else if c = quote then ([c], d :: rest)
    else ([], c :: d :: rest)
  | [c] => if c = quote then ([c], []) else ([], [c])
  | [] => ([], [])

/-- A text of several lines up to its closing double quotes. A backslash at the end of a line takes
away all white space and line breaks after it. `fuel` bounds the number of characters. -/
def longBasicWithin : (fuel : Nat) → Text → Option (Text × Text)
  | 0, _ => none
  | _ + 1, [] => none
  | fuel + 1, c :: rest =>
    let more (d : Char) (rest : Text) : Option (Text × Text) :=
      (longBasicWithin fuel rest).map fun (text, rest) => (d :: text, rest)
    if (c :: rest).take 3 = ['"', '"', '"'] then some (closing '"' (rest.drop 2))
    else if c = '\\' then
      match dropBreak? (skipSpace rest) with
      | some rest => longBasicWithin fuel (skipBreaks rest)
      | none => (escape? rest).bind fun (d, rest) => more d rest
    else match dropBreak? (c :: rest) with
      | some rest => more '\n' rest
      | none => if isPlain c then more c rest else none

/-- A text of several lines up to its closing single quotes. -/
def longLiteral? : Text → Option (Text × Text)
  | '\'' :: '\'' :: '\'' :: rest => some (closing '\'' rest)
  | '\r' :: '\n' :: rest => (longLiteral? rest).map fun (text, rest) => ('\n' :: text, rest)
  | c :: rest =>
    if isPlain c || c = '\n' then (longLiteral? rest).map fun (text, rest) => (c :: text, rest)
    else none
  | [] => none

/-- A text in quotes of either kind, and what follows it. A line break right after three quotes does
not count. -/
def quoted? : Text → Option (Text × Text)
  | '"' :: '"' :: '"' :: rest => longBasicWithin (rest.length + 1) (skipBreak rest)
  | '\'' :: '\'' :: '\'' :: rest => longLiteral? (skipBreak rest)
  | '"' :: rest => basic? rest
  | '\'' :: rest => literal? rest
  | _ => none

/-! ## Numbers -/

/-- Digits without the single underscores that stand between them; there is at least one digit. -/
def ungroup? (digit : Char → Bool) : Text → Option Text
  | [] => none
  | [c] => if digit c then some [c] else none
  | c :: '_' :: rest => if digit c then (ungroup? digit rest).map (c :: ·) else none
  | c :: rest => if digit c then (ungroup? digit rest).map (c :: ·) else none

/-- The digits of a whole number, which begin with a zero only if there is no other. -/
def wholeDigits? (cs : Text) : Option Text :=
  (ungroup? Char.isDigit cs).filter fun digits => digits.length = 1 || digits.head? != some '0'

/-- A word cut after the sign it begins with; whether that is a minus. -/
def cutSign : Text → Bool × Text
  | '-' :: rest => (true, rest)
  | '+' :: rest => (false, rest)
  | word => (false, word)

/-- Whether a whole number has 64 bits. -/
def isWhole (n : Int) : Bool := -(twoTo 63 : Int) ≤ n && n < twoTo 63

/-- The whole number of a base that digits stand for. -/
def based? (base : Nat) (cs : Text) : Option Int :=
  ((ungroup? (fun c => (hexValue? c).isSome) cs).bind (readBase? base)).map Int.ofNat

/-- The whole number that a word stands for. -/
def integer? (word : Text) : Option Int :=
  (match word with
    | '0' :: 'x' :: digits => based? 16 digits
    | '0' :: 'o' :: digits => based? 8 digits
    | '0' :: 'b' :: digits => based? 2 digits
    | _ =>
      let (minus, digits) := cutSign word
      (wholeDigits? digits).map fun digits =>
        let n : Int := readDecimal digits
        if minus then -n else n).filter isWhole

/-- The exponent that a word ends with, as it is read without underscores. -/
def exponent? : Text → Option Text
  | [] => some []
  | e :: rest =>
    if e = 'e' || e = 'E' then
      let (minus, digits) := cutSign rest
      (ungroup? Char.isDigit digits).map fun digits =>
        'e' :: (if minus then '-' :: digits else digits)
    else none

/-- The floating-point number that a word with a fraction or an exponent stands for. One that is too
large is refused, unless it is negative. -/
def float? (word : Text) : Option Binary64 :=
  let (minus, number) := cutSign word
  if number = "inf".toList then some (.infinite minus)
  else if number = "nan".toList then some .nan
  else
    let isGrouped (c : Char) : Bool := c.isDigit || c == '_'
    let whole := number.takeWhile isGrouped
    let rest := number.drop whole.length
    let fraction := match rest with
      | '.' :: after => after.takeWhile isGrouped
      | _ => []
    let tail := match rest with
      | '.' :: after => after.drop fraction.length
      | _ => rest
    let pointed := rest.head? = some '.'
    if rest.isEmpty then none
    else
      (wholeDigits? whole).bind fun whole =>
      (if pointed then ungroup? Char.isDigit fraction else some []).bind fun fraction =>
      (exponent? tail).bind fun exponent =>
        (Binary64.ofDigits? minus (whole ++ (if pointed then '.' :: fraction else []) ++ exponent)).filter
          fun number => minus || number.isFinite

/-! ## Dates and times -/

/-- A number of two digits, and what follows it. -/
def pair? : Text → Option (Nat × Text)
  | a :: b :: rest => if a.isDigit && b.isDigit then some (readDecimal [a, b], rest) else none
  | _ => none

/-- The number of days of a month. -/
def daysIn (year month : Nat) : Nat :=
  if month = 2 then
    if year % 4 = 0 && (year % 100 ≠ 0 || year % 400 = 0) then 29 else 28
  else if month = 4 || month = 6 || month = 9 || month = 11 then 30
  else 31

/-- The day that a word begins with, and what follows it. -/
def day? (word : Text) : Option (Day × Text) :=
  (pair? word).bind fun (century, rest) =>
  (pair? rest).bind fun (years, rest) =>
  (dropPhrase? ['-'] rest).bind fun rest =>
  (pair? rest).bind fun (month, rest) =>
  (dropPhrase? ['-'] rest).bind fun rest =>
  (pair? rest).bind fun (day, rest) =>
    let year := century * 100 + years
    if 1 ≤ month && month ≤ 12 && 1 ≤ day && day ≤ daysIn year month then
      some (⟨year, month, day⟩, rest)
    else none

/-- The nanoseconds of a fraction of a second; digits after the ninth do not count. -/
def nanoseconds (digits : Text) : Nat :=
  readDecimal ((digits ++ List.replicate 9 '0').take 9)

/-- The time of day that a word begins with, up to the hour `lastHour`, and what follows it. A minute
may have a leap second. -/
def clock? (lastHour : Nat) (word : Text) : Option (Clock × Text) :=
  (pair? word).bind fun (hour, rest) =>
  (dropPhrase? [':'] rest).bind fun rest =>
  (pair? rest).bind fun (minute, rest) =>
  (dropPhrase? [':'] rest).bind fun rest =>
  (pair? rest).bind fun (second, rest) =>
    if hour ≤ lastHour && minute ≤ 59 && second ≤ 60 then
      match rest with
      | '.' :: after =>
        let digits := after.takeWhile Char.isDigit
        if digits.isEmpty then none
        else some (⟨hour, minute, second, nanoseconds digits⟩, after.drop digits.length)
      | _ => some (⟨hour, minute, second, 0⟩, rest)
    else none

/-- The offset that a word stands for, if there is any. `fits` tells which hours and minutes it may
have. -/
def offset? (fits : (hour minute : Nat) → Bool) : Text → Option (Option Offset)
  | [] => some none
  | ['Z'] => some (some .universal)
  | ['z'] => some (some .universal)
  | sign :: rest =>
    if sign = '+' || sign = '-' then
      (pair? rest).bind fun (hour, rest) =>
      (dropPhrase? [':'] rest).bind fun rest =>
      (pair? rest).bind fun (minute, rest) =>
        if fits hour minute && rest.isEmpty then
          let ahead : Int := hour * 60 + minute
          some (some (.minutes (if sign = '-' then -ahead else ahead)))
        else none
    else none

/-- The time of day and the offset that a word stands for. -/
def clockOffset? (word : Text) : Option (Clock × Option Offset) :=
  (clock? 23 word).bind fun (clock, rest) =>
    (offset? (fun hour minute => hour ≤ 23 && minute ≤ 59) rest).map fun offset => (clock, offset)

/-- The date or time that a word stands for. -/
def moment? (word : Text) : Option Moment :=
  match day? word with
  | some (day, []) => some ⟨some day, none, none⟩
  | some (day, t :: rest) =>
    if t = 'T' || t = 't' then
      (clockOffset? rest).map fun (clock, offset) => ⟨some day, some clock, offset⟩
    else none
  | none =>
    match clock? 23 word with
    | some (clock, []) => some ⟨none, some clock, none⟩
    | _ => none

/-! ## Words -/

/-- Whether a character ends a word. -/
def endsWord (c : Char) : Bool :=
  isSpace c || c == ',' || c == ']' || c == '\x7d' || c == '#' || c == '\n' || c == '\r'

/-- What a word stands for. -/
def word? (word : Text) : Option Value :=
  if word = "true".toList then some (.bool true)
  else if word = "false".toList then some (.bool false)
  else match moment? word with
    | some value => some (.moment value)
    | none =>
      match float? word with
      | some value => some (.float value)
      | none => (integer? word).map .integer

/-- The word that a text begins with, and what follows it. -/
def cutWord (cs : Text) : Text × Text :=
  let word := cs.takeWhile fun c => !endsWord c
  (word, cs.drop word.length)

/-- The value of one word, or of two if a time of day follows a day after a space. -/
def words? (cs : Text) : Option (Value × Text) :=
  let (first, rest) := cutWord cs
  let one : Option (Value × Text) := (word? first).map fun value => (value, rest)
  match day? first, rest with
  | some (_, []), ' ' :: after =>
    let (second, rest) := cutWord after
    match (moment? (first ++ 'T' :: second)) with
    | some value => some (.moment value, rest)
    | none => one
  | _, _ => one

/-- The value that is neither a list nor a table, and what follows it. -/
def scalar? (cs : Text) : Option (Value × Text) :=
  match cs with
  | '"' :: _ => (quoted? cs).map fun (text, rest) => (.string text, rest)
  | '\'' :: _ => (quoted? cs).map fun (text, rest) => (.string text, rest)
  | _ => words? cs

end DocSite.Toml
