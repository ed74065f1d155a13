/-
# DocSite.Json.Value -- JSON values

The fields of an object are kept in the order of their names, each name once.
-/
import DocSite.Number.Binary64
import DocSite.Text.Order

set_option autoImplicit false

namespace DocSite.Json

/-- A JSON value. Whole numbers and others are told apart. -/
inductive Value where
  | null
  | bool (value : Bool)
  | int (value : Int)
  | float (value : Binary64)
  | string (value : Text)
  | array (items : List Value)
  | object (fields : List (Text × Value))
deriving Repr, Inhabited

/-- The fields of an object. -/
abbrev Fields := List (Text × Value)

namespace Fields

/-- The value of a field. -/
def get? (name : Text) : Fields → Option Value
  | [] => none
  | (n, value) :: rest => if n = name then some value else get? name rest

/-- Gives a field a value, in the order of names. -/
def insert (name : Text) (value : Value) : Fields → Fields
  | [] => [(name, value)]
  | (n, old) :: rest =>
    match Text.compare name n with
    | .lt => (name, value) :: (n, old) :: rest
    | .eq => (name, value) :: rest
    | .gt => (n, old) :: insert name value rest

/-- The fields given by pairs; the last one of a name counts. -/
def ofPairs (pairs : List (Text × Value)) : Fields :=
  pairs.foldl (fun fields (name, value) => insert name value fields) []

end Fields

namespace Value

/-- An object from pairs. -/
def ofPairs (pairs : List (Text × Value)) : Value := .object (Fields.ofPairs pairs)

/-- An object from pairs with fixed names. -/
def record (pairs : List (String × Value)) : Value :=
  ofPairs (pairs.map fun (name, value) => (name.toList, value))

/-- The value of a field, if the value is an object. -/
def get? (name : Text) : Value → Option Value
  | .object fields => Fields.get? name fields
  | _ => none

/-- The text of a string. -/
def string? : Value → Option Text
  | .string text => some text
  | _ => none

/-- The items of an array. -/
def items? : Value → Option (List Value)
  | .array items => some items
  | _ => none

/-- A text, or nothing. -/
def ofText? (text : Option Text) : Value :=
  match text with
  | some text => .string text
  | none => .null

mutual
/-- Whether two values are equal; a missing number equals nothing. -/
def same : Value → Value → Bool
  | .null, .null => true
  | .bool a, .bool b => a == b
  | .int a, .int b => a == b
  | .float a, .float b => a.same b
  | .string a, .string b => a == b
  | .array a, .array b => sameItems a b
  | .object a, .object b => sameFields a b
  | _, _ => false

/-- Whether two lists have equal items. -/
def sameItems : List Value → List Value → Bool
  | [], [] => true
  | a :: as, b :: bs => same a b && sameItems as bs
  | _, _ => false

/-- Whether two lists have equal fields. -/
def sameFields : List (Text × Value) → List (Text × Value) → Bool
  | [], [] => true
  | (m, a) :: as, (n, b) :: bs => m == n && same a b && sameFields as bs
  | _, _ => false
end

end Value

end DocSite.Json
