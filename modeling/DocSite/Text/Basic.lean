/-
# DocSite.Text.Basic -- text as a list of characters

Every reader of this library works on lists of characters. This module holds what they share:
white space and trimming, lines, splitting at a character or at the first occurrence of a phrase,
and joining. `lines` and `linesKept` differ in what becomes of the line breaks: the second loses
nothing, so that the pieces concatenate to the text (`flatten_linesKept`).
-/

set_option autoImplicit false

namespace DocSite

/-- A text. -/
abbrev Text := List Char

namespace Text

/-! ## White space -/

/-- White space of every script. -/
def isBlank (c : Char) : Bool :=
  let n := c.toNat
  (9 ≤ n && n ≤ 13) || n == 32 || n == 133 || n == 160 || n == 5760 ||
    (8192 ≤ n && n ≤ 8202) || n == 8232 || n == 8233 || n == 8239 || n == 8287 || n == 12288

/-- Whether a text has no character but white space. -/
def blank (cs : List Char) : Bool := cs.all isBlank

/-- A text without the characters at its end that satisfy `p`. -/
def dropEndWhile (p : Char → Bool) (cs : List Char) : List Char :=
  (cs.reverse.dropWhile p).reverse

/-- A text without its leading white space. -/
def trimStart (cs : List Char) : List Char := cs.dropWhile isBlank

/-- A text without its trailing white space. -/
def trimEnd (cs : List Char) : List Char := dropEndWhile isBlank cs

/-- A text without white space at either end. -/
def trim (cs : List Char) : List Char := trimEnd (trimStart cs)

/-- A text without the carriage returns and line feeds it begins with. -/
def dropBreaks (cs : List Char) : List Char := cs.dropWhile fun c => c == '\r' || c == '\n'

/-! ## Lines -/

/-- The lines of a text, each with the line feed that ends it. -/
def linesKept : List Char → List (List Char)
  | [] => []
  | c :: rest =>
    if c = '\n' then [c] :: linesKept rest
    else match linesKept rest with
      | [] => [[c]]
      | line :: lines => (c :: line) :: lines

/-- The pieces of a text between occurrences of a character; there is always at least one. -/
def splitOn (separator : Char) : List Char → List (List Char)
  | [] => [[]]
  | c :: rest =>
    if c = separator then [] :: splitOn separator rest
    else match splitOn separator rest with
      | [] => [[c]]
      | piece :: pieces => (c :: piece) :: pieces

/-- A line without the line feed, and the carriage return before it, that end it. -/
def dropLineEnd (line : List Char) : List Char :=
  match line.reverse with
  | '\n' :: '\r' :: rest => rest.reverse
  | '\n' :: rest => rest.reverse
  | _ => line

/-- The lines of a text without their line ends. -/
def lines (cs : List Char) : List (List Char) := (linesKept cs).map dropLineEnd

/-! ## Phrases -/

/-- What follows `phrase` in a text that begins with it. -/
def dropPhrase? : (phrase text : List Char) → Option (List Char)
  | [], text => some text
  | _ :: _, [] => none
  | p :: phrase, c :: text => if p = c then dropPhrase? phrase text else none

/-- The text before and after the first occurrence of `phrase`. -/
def splitFirst? (phrase : List Char) : List Char → Option (List Char × List Char)
  | [] => (dropPhrase? phrase []).map ([], ·)
  | c :: rest =>
    match dropPhrase? phrase (c :: rest) with
    | some after => some ([], after)
    | none => (splitFirst? phrase rest).map fun (before, after) => (c :: before, after)

/-- Where `phrase` first occurs. -/
def indexOf? (phrase text : List Char) : Option Nat :=
  (splitFirst? phrase text).map fun (before, _) => before.length

/-- Whether `phrase` occurs in `text`. -/
def containsPhrase (phrase text : List Char) : Bool := (splitFirst? phrase text).isSome

/-- The text before and after the last occurrence of a character. -/
def splitLast? (separator : Char) (cs : List Char) : Option (List Char × List Char) :=
  let after := (cs.reverse.takeWhile (· != separator)).reverse
  if after.length = cs.length then none
  else some (cs.take (cs.length - after.length - 1), after)

/-- Every occurrence of a non-empty phrase replaced, from the left; `fuel` bounds the number of
characters looked at. -/
def replaceWithin (phrase replacement : List Char) : (fuel : Nat) → List Char → List Char
  | 0, cs => cs
  | _ + 1, [] => []
  | fuel + 1, c :: rest =>
    match dropPhrase? phrase (c :: rest) with
    | some after => replacement ++ replaceWithin phrase replacement fuel after
    | none => c :: replaceWithin phrase replacement fuel rest

/-- Every occurrence of a non-empty phrase replaced, from the left. -/
def replace (phrase replacement cs : List Char) : List Char :=
  replaceWithin phrase replacement cs.length cs

/-- Texts joined with a separator between neighbours. -/
def join (separator : List Char) : List (List Char) → List Char
  | [] => []
  | [piece] => piece
  | piece :: pieces => piece ++ separator ++ join separator pieces

/-! ## Bytes -/

/-- The number of bytes of a text in UTF-8. -/
def byteSize : List Char → Nat
  | [] => 0
  | c :: rest => c.utf8Size + byteSize rest

/-! ## Numbers -/

/-- The value of a decimal digit. -/
def digitValue (c : Char) : Nat := c.toNat - 48

/-- The number written by a list of decimal digits. -/
def readDecimal (digits : List Char) : Nat :=
  digits.foldl (fun n c => n * 10 + digitValue c) 0

/-- The value of a hexadecimal digit. -/
def hexValue? (c : Char) : Option Nat :=
  let n := c.toNat
  if 48 ≤ n && n ≤ 57 then some (n - 48)
  else if 97 ≤ n && n ≤ 102 then some (n - 87)
  else if 65 ≤ n && n ≤ 70 then some (n - 55)
  else none

/-- The hexadecimal digit of a value below sixteen, in lower case. -/
def hexDigit (n : Nat) : Char := if n < 10 then Char.ofNat (48 + n) else Char.ofNat (87 + n)

/-- The number written by digits of a base, if each of them is one and there is at least one. -/
def readBase? (base : Nat) (digits : List Char) : Option Nat :=
  if digits.isEmpty then none
  else digits.foldl
    (fun n c => match n, hexValue? c with
      | some n, some d => if d < base then some (n * base + d) else none
      | _, _ => none)
    (some 0)

/-- A number in hexadecimal digits, at least `width` of them; `fuel` bounds their count. -/
def hexDigits (width : Nat) : (fuel n : Nat) → List Char
  | 0, _ => []
  | fuel + 1, n =>
    if n < 16 && width ≤ 1 then [hexDigit n]
    else hexDigits (width - 1) fuel (n / 16) ++ [hexDigit (n % 16)]

/-! ## Small laws -/

theorem flatten_linesKept (cs : List Char) : (linesKept cs).flatten = cs := by
  induction cs with
  | nil => rfl
  | cons c rest ih =>
    unfold linesKept
    split
    · simp [ih]
    · split <;> simp_all

theorem append_of_dropPhrase? {phrase text after : List Char}
    (h : dropPhrase? phrase text = some after) : phrase ++ after = text := by
  fun_induction dropPhrase? phrase text with
  | case1 => simp_all
  | case2 => simp at h
  | case3 p phrase text ih => simp [ih h]
  | case4 => simp at h

theorem append_of_splitFirst? {phrase text before after : List Char}
    (h : splitFirst? phrase text = some (before, after)) :
    before ++ phrase ++ after = text := by
  induction text generalizing before with
  | nil =>
    simp only [splitFirst?, Option.map_eq_some_iff, Prod.mk.injEq] at h
    obtain ⟨_, found, rfl, rfl⟩ := h
    simpa using append_of_dropPhrase? found
  | cons c rest ih =>
    unfold splitFirst? at h
    split at h
    · rename_i found
      simp only [Option.some.injEq, Prod.mk.injEq] at h
      obtain ⟨rfl, rfl⟩ := h
      simpa using append_of_dropPhrase? found
    · simp only [Option.map_eq_some_iff, Prod.mk.injEq, Prod.exists] at h
      obtain ⟨_, _, found, rfl, rfl⟩ := h
      simp [← ih found]

end Text

end DocSite
