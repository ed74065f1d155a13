/-
# DocSite.Yaml.Value -- values of YAML documents

A mapping keeps its entries in the order of the document. Two mappings are the same if they have
the same entries in any order; a missing number is the same as another one.
-/
import DocSite.Number.Binary64

set_option autoImplicit false

namespace DocSite.Yaml

/-- A value of a YAML document. -/
inductive Value where
  | null
  | bool (value : Bool)
  | int (value : Int)
  | float (value : Binary64)
  | string (value : Text)
  | sequence (items : List Value)
  | mapping (entries : List (Value × Value))
  | tagged (tag : Text) (value : Value)
deriving Repr, Inhabited

/-- The entries of a mapping. -/
abbrev Entries := List (Value × Value)

namespace Value

/-- Whether two numbers count as the same. -/
def sameFloat : Binary64 → Binary64 → Bool
  | .nan, .nan => true
  | a, b => a.same b

mutual
/-- Whether two values are the same. -/
def same : Value → Value → Bool
  | .null, .null => true
  | .bool a, .bool b => a == b
  | .int a, .int b => a == b
  | .float a, .float b => sameFloat a b
  | .string a, .string b => a == b
  | .sequence a, .sequence b => sameItems a b
  | .mapping a, .mapping b => a.length == b.length && hasEntries b a
  | .tagged t a, .tagged u b => t == u && same a b
  | _, _ => false

/-- Whether two sequences have the same items. -/
def sameItems : List Value → List Value → Bool
  | [], [] => true
  | a :: as, b :: bs => same a b && sameItems as bs
  | _, _ => false

/-- Whether each of the second entries is among the first ones. -/
def hasEntries (entries : List (Value × Value)) : List (Value × Value) → Bool
  | [] => true
  | (key, value) :: rest =>
    entries.any (fun entry => same key entry.1 && same value entry.2) && hasEntries entries rest
end

/-- The text of a string, whether it is tagged or not. -/
def string? : Value → Option Text
  | .string text => some text
  | .tagged _ value => string? value
  | _ => none

/-- The whole number that a value is, whether it is tagged or not. -/
def int? : Value → Option Int
  | .int n => some n
  | .tagged _ value => int? value
  | _ => none

/-- The entries of a mapping, whether it is tagged or not. -/
def mapping? : Value → Option Entries
  | .mapping entries => some entries
  | .tagged _ value => mapping? value
  | _ => none

/-- A value without its tag. -/
def untagged : Value → Value
  | .tagged _ value => untagged value
  | value => value

end Value

namespace Entries

/-- The value of the first entry whose key is the string `key`. -/
def get? (key : Text) : Entries → Option Value
  | [] => none
  | (k, value) :: rest =>
    match k with
    | .string text => if text = key then some value else get? key rest
    | _ => get? key rest

/-- Gives the string `key` a value; a new key comes last. -/
def insert (key : Text) (value : Value) : Entries → Entries
  | [] => [(.string key, value)]
  | (k, old) :: rest =>
    match k with
    | .string text =>
      if text = key then (k, value) :: rest else (k, old) :: insert key value rest
    | _ => (k, old) :: insert key value rest

end Entries

end DocSite.Yaml
