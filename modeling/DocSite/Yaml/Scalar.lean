/-
# DocSite.Yaml.Scalar -- what unquoted texts mean

An unquoted text is nothing, a truth value, a number or a string. Whole numbers may be written in
four bases; those too large for 64 bits are refused. Digits after a leading zero are no number.
-/
import DocSite.Yaml.Value

set_option autoImplicit false

namespace DocSite.Yaml.Scalar

open Text

/-- Whether a text is one of some words. -/
def isOneOf (words : List String) (text : Text) : Bool := words.any fun word => word.toList == text

/-- Whether a text stands for nothing. -/
def isNull (text : Text) : Bool := isOneOf ["null", "Null", "NULL", "~"] text

/-- The truth value that a text stands for. -/
def bool? (text : Text) : Option Bool :=
  if isOneOf ["true", "True", "TRUE"] text then some true
  else if isOneOf ["false", "False", "FALSE"] text then some false
  else none

/-- A text without the sign it begins with. -/
def dropSign : Text → Text
  | '-' :: rest => rest
  | '+' :: rest => rest
  | text => text

/-- Whether a text begins with a sign. -/
def hasSign (text : Text) : Bool :=
  match text with
  | '-' :: _ => true
  | '+' :: _ => true
  | _ => false

/-- Whether a text consists of digits that begin with a zero and are no number. -/
def hasLeadingZero (text : Text) : Bool :=
  match dropSign text with
  | '0' :: d :: rest => (d :: rest).all Char.isDigit
  | _ => false

/-- The number that digits after the mark of their base stand for. -/
def based? : Text → Option Nat
  | '0' :: 'x' :: digits => readBase? 16 digits
  | '0' :: 'o' :: digits => readBase? 8 digits
  | '0' :: 'b' :: digits => readBase? 2 digits
  | _ => none

/-- The whole number that a text stands for, of any size. -/
def int? (text : Text) : Option Int :=
  match text with
  | '-' :: rest =>
    match based? rest with
    | some n => some (-(n : Int))
    | none => if hasLeadingZero text then none else (readBase? 10 rest).map fun n => -(n : Int)
  | _ =>
    let rest := match text with
      | '+' :: rest => rest
      | _ => text
    match based? rest with
    | some n => some n
    | none => if hasLeadingZero text then none else (readBase? 10 rest).map fun n => (n : Int)

/-- Whether a whole number can be kept. -/
def isKept (n : Int) : Bool := -(twoTo 63 : Int) ≤ n && n < twoTo 64

/-- Whether a whole number is so large that it is read as a floating-point number. -/
def isHuge (n : Int) : Bool := n < -(twoTo 127 : Int) || (twoTo 128 : Int) ≤ n

/-- The floating-point number that a text stands for. -/
def float? (text : Text) : Option Binary64 :=
  if isOneOf [".inf", ".Inf", ".INF", "+.inf", "+.Inf", "+.INF"] text then some (.infinite false)
  else if isOneOf ["-.inf", "-.Inf", "-.INF"] text then some (.infinite true)
  else if isOneOf [".nan", ".NaN", ".NAN"] text then some .nan
  else match Binary64.ofText? text with
    | some number => if number.isFinite then some number else none
    | none => none

/-- The value of an unquoted text. -/
def resolve? (text : Text) : Option Value :=
  if text.isEmpty || isNull text then some .null
  else match bool? text with
    | some b => some (.bool b)
    | none =>
      match (int? text).filter fun n => !isHuge n with
      | some n => if isKept n then some (.int n) else none
      | none =>
        if hasLeadingZero text then some (.string text)
        else match float? text with
          | some number => some (.float number)
          | none => some (.string text)

/-- The names of the tags that every document knows. -/
def knownTag (name : String) : Text := ("tag:yaml.org,2002:" ++ name).toList

/-- The value of a text with a tag that is not the document's own; `plain` tells that it stands
without quotes. -/
def resolveTagged? (tag text : Text) (plain : Bool) : Option Value :=
  if tag = knownTag "bool" then (bool? text).map .bool
  else if tag = knownTag "int" then
    (int? text).bind fun n => if isKept n then some (.int n) else none
  else if tag = knownTag "float" then (float? text).map .float
  else if tag = knownTag "null" then if isNull text then some .null else none
  else if plain && tag.head? == some '!' then resolve? text
  else some (.string text)

end DocSite.Yaml.Scalar
