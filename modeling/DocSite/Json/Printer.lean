/-
# DocSite.Json.Printer -- JSON texts

A value is written without white space, or with each item on a line of its own.
-/
import DocSite.Json.Value

set_option autoImplicit false

namespace DocSite.Json

open Text

/-- How numbers are laid out. A number that is not finite is written as `null`. -/
def numberLayout : NumberLayout := ⟨-5, 16, ['.', '0'], "null".toList, "null".toList⟩

/-- The text of a number. -/
def numberText (number : Binary64) : Text :=
  if number.isFinite then numberLayout.text number else "null".toList

/-- A character within quotes. -/
def escape (c : Char) : Text :=
  match [('"', '"'), ('\\', '\\'), ('\x08', 'b'), ('\x0c', 'f'), ('\n', 'n'), ('\r', 'r'),
    ('\t', 't')].lookup c with
  | some letter => ['\\', letter]
  | none => if c.toNat < 32 then '\\' :: 'u' :: hexDigits 4 4 c.toNat else [c]

/-- A text in quotes. -/
def quote (text : Text) : Text := '"' :: text.flatMap escape ++ ['"']

/-- The text of a value without parts. -/
def scalarText : Value → Text
  | .null => "null".toList
  | .bool true => "true".toList
  | .bool false => "false".toList
  | .int n => NumberLayout.ofInt n
  | .float number => numberText number
  | .string text => quote text
  | .array _ => ['[', ']']
  | .object _ => ['\x7b', '\x7d']

mutual
/-- The text of a value without white space. -/
def compact : Value → Text
  | .array (item :: items) => '[' :: compact item ++ compactItems items
  | .object ((name, value) :: fields) =>
    '\x7b' :: quote name ++ ':' :: compact value ++ compactFields fields
  | value => scalarText value

/-- The further items of an array. -/
def compactItems : List Value → Text
  | [] => [']']
  | item :: items => ',' :: compact item ++ compactItems items

/-- The further fields of an object. -/
def compactFields : List (Text × Value) → Text
  | [] => ['\x7d']
  | (name, value) :: fields => ',' :: quote name ++ ':' :: compact value ++ compactFields fields
end

/-- A line break and the indentation of a line. -/
def newLine (depth : Nat) : Text := '\n' :: List.replicate (2 * depth) ' '

mutual
/-- The text of a value with each item on a line of its own. -/
def pretty (depth : Nat) : Value → Text
  | .array (item :: items) =>
    '[' :: newLine (depth + 1) ++ pretty (depth + 1) item ++ prettyItems depth items
  | .object ((name, value) :: fields) =>
    '\x7b' :: newLine (depth + 1) ++ quote name ++ ':' :: ' ' :: pretty (depth + 1) value ++
      prettyFields depth fields
  | value => scalarText value

/-- The further items of an array. -/
def prettyItems (depth : Nat) : List Value → Text
  | [] => newLine depth ++ [']']
  | item :: items =>
    ',' :: newLine (depth + 1) ++ pretty (depth + 1) item ++ prettyItems depth items

/-- The further fields of an object. -/
def prettyFields (depth : Nat) : List (Text × Value) → Text
  | [] => newLine depth ++ ['\x7d']
  | (name, value) :: fields =>
    ',' :: newLine (depth + 1) ++ quote name ++ ':' :: ' ' :: pretty (depth + 1) value ++
      prettyFields depth fields
end

end DocSite.Json
