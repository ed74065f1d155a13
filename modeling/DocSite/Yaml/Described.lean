/-
# DocSite.Yaml.Described -- values as messages show them

A value is described by its kind and what it holds. The keys of a mapping that are strings, numbers
or truth values stand there without their kind.
-/
import DocSite.Text.Visible
import DocSite.Yaml.Printer

set_option autoImplicit false

namespace DocSite.Yaml

open Text

/-- The name of a truth value. -/
def boolText (value : Bool) : Text := if value then "true".toList else "false".toList

/-- A name with something in round brackets. -/
def named (name : String) (inside : Text) : Text := name.toList ++ '(' :: inside ++ [')']

/-- Items in a pair of brackets. -/
def bracketed (opening : String) (items : List Text) (closing : Char) : Text :=
  opening.toList ++ join [',', ' '] items ++ [closing]

mutual
/-- The description of a value. -/
def described : Value → Text
  | .null => "Null".toList
  | .bool value => named "Bool" (boolText value)
  | .int n => named "Number" (NumberLayout.ofInt n)
  | .float number => named "Number" (numberText number)
  | .string text => named "String" (quoted text)
  | .sequence items => bracketed "Sequence [" (describedItems items) ']'
  | .mapping entries => bracketed "Mapping \x7b" (describedEntries entries) '\x7d'
  | .tagged tag value =>
    "TaggedValue \x7b tag: ".toList ++ tag ++ ", value: ".toList ++ described value ++ " \x7d".toList

/-- The descriptions of the items of a sequence. -/
def describedItems : List Value → List Text
  | [] => []
  | item :: items => described item :: describedItems items

/-- The descriptions of the entries of a mapping. -/
def describedEntries : List (Value × Value) → List Text
  | [] => []
  | (key, value) :: entries =>
    let key := match key with
      | .bool value => boolText value
      | .int n => NumberLayout.ofInt n
      | .float number => numberText number
      | .string text => quoted text
      | key => described key
    (key ++ [':', ' '] ++ described value) :: describedEntries entries
end

end DocSite.Yaml
