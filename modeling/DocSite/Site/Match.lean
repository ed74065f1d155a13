/-
# DocSite.Site.Match -- finding doclets

A predicate is matched against a part of a doclet: an object against an object that has all its
fields, a list against a list that has all its items, and a text, in place of an object, against an
object in which the field of that name is neither missing nor empty.
-/
import DocSite.Json.Value

set_option autoImplicit false

namespace DocSite.Site

/-- Whether a value is neither missing nor empty. -/
def isTruthy : Json.Value → Bool
  | .null => false
  | .bool value => value
  | .int n => n != 0
  | .float number => !number.same (.finite false 0 Binary64.minExponent) && number != .nan
  | .string text => !text.isEmpty
  | .array items => !items.isEmpty
  | .object fields => !fields.isEmpty

mutual
/-- Whether a value matches an expected one. -/
def valueMatches (actual : Json.Value) : (expected : Json.Value) → Bool
  | .object fields => fieldsMatch actual fields
  | .array wanted =>
    match actual with
    | .array items => itemsMatch items wanted
    | _ => false
  | .null => actual.same .null
  | .bool value => actual.same (.bool value)
  | .int n => actual.same (.int n)
  | .float number => actual.same (.float number)
  | .string text => actual.same (.string text)

/-- Whether a value has all of some fields with values that match. -/
def fieldsMatch (actual : Json.Value) : (fields : List (Text × Json.Value)) → Bool
  | [] => true
  | (name, expected) :: rest =>
    (actual.get? name).any (fun value => valueMatches value expected) && fieldsMatch actual rest

/-- Whether each wanted item matches some item. -/
def itemsMatch (items : List Json.Value) : (wanted : List Json.Value) → Bool
  | [] => true
  | expected :: rest =>
    items.any (fun item => valueMatches item expected) && itemsMatch items rest
end

/-- Whether a doclet matches a predicate. Nothing as a predicate accepts every doclet. -/
def matchesPredicate (doclet predicate : Json.Value) : Bool :=
  match predicate with
  | .null => true
  | .object fields => fieldsMatch doclet fields
  | .string name => (doclet.get? name).any isTruthy
  | _ => false

end DocSite.Site
