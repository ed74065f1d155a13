/-
# DocSite.Template.Value -- values that templates work with

Besides numbers, texts, lists and mappings there is the missing value that a wrong name gives, and
there are values that only the renderer makes: series, which are gone through like lists but need
not know how long they are, groups of items, the helpers of a page, the place within a loop,
macros, name spaces and what a template gives to others. A text may be safe: then it is written
without escapes.

The entries of a mapping are kept in the order of their keys, each key once. Values of different
kinds are ordered by kind, but truth values count as numbers where two values are compared for
equality.
-/
import DocSite.Json.Value
import DocSite.Number.RealPower
import DocSite.Text.Visible
import DocSite.Yaml.Value

set_option autoImplicit false

namespace DocSite.Template

open Text

/-- Where a loop is: the turn, counted from zero, how many loops it lies in, how many turns there
are, and whether that was known beforehand. -/
structure Turn where
  index : Nat
  depth : Nat
  length : Nat
  sized : Bool
deriving DecidableEq, Repr, Inhabited

/-- A value of a template. -/
inductive Value where
  | undefined
  | none
  | bool (value : Bool)
  | int (value : Int)
  | float (value : Binary64)
  | text (value : Text) (safe : Bool)
  | list (items : List Value)
  | series (items : List Value) (sized : Bool)
  | group (key : Value) (items : List Value)
  | map (entries : List (Value × Value))
  | module (entries : List (Value × Value)) (content : Text)
  | helpers (summary : Text)
  | loop (place : Turn) (previous next : Value)
  | callable (macroId : Nat) (name : Text) (parameters : List Text) (asksCaller : Bool)
  | space (id : Nat) (entries : List (Value × Value))
  | function (name : Text)
deriving Repr, Inhabited

namespace Value

/-- A text that is escaped where it is written. -/
def plain (value : Text) : Value := .text value false

/-- The text of a text value. -/
def text? : Value → Option Text
  | .text value _ => some value
  | _ => Option.none

/-! ## Kinds -/

/-- The kind of a value. -/
inductive Kind where
  | undefined
  | none
  | bool
  | number
  | text
  | list
  | map
  | series
  | plain
deriving DecidableEq, Repr

/-- The kind of a value. -/
def kind : Value → Kind
  | .undefined => .undefined
  | .none => .none
  | .bool _ => .bool
  | .int _ => .number
  | .float _ => .number
  | .text _ _ => .text
  | .list _ => .list
  | .group _ _ => .list
  | .series _ _ => .series
  | .map _ => .map
  | .module _ _ => .map
  | .loop _ _ _ => .map
  | .space _ _ => .map
  | .helpers _ => .plain
  | .callable _ _ _ _ => .plain
  | .function _ => .plain

/-- The place of a kind among the others. -/
def Kind.rank : Kind → Nat
  | .undefined => 0
  | .none => 1
  | .bool => 2
  | .number => 3
  | .text => 4
  | .list => 5
  | .map => 6
  | .series => 7
  | .plain => 8

/-- Whether a value is missing. -/
def isUndefined : Value → Bool
  | .undefined => true
  | _ => false

/-- Whether a value counts as true: it is not missing, not zero and not known to be empty. -/
def isTrue : Value → Bool
  | .undefined => false
  | .none => false
  | .bool value => value
  | .int n => n != 0
  | .float x => !x.isZero
  | .text value _ => !value.isEmpty
  | .list items => !items.isEmpty
  | .series items sized => !(sized && items.isEmpty)
  | .map entries => !entries.isEmpty
  | .module entries _ => !entries.isEmpty
  | .space _ entries => !entries.isEmpty
  | _ => true

/-! ## Numbers -/

/-- The whole number that a value is; truth values count as zero and one. -/
def int? : Value → Option Int
  | .int n => some n
  | .bool b => some (if b then 1 else 0)
  | .float x => x.toInt?
  | _ => Option.none

/-- The number that a value is; truth values count as zero and one. -/
def float? : Value → Option Binary64
  | .float x => some x
  | .int n => some (.ofInt n)
  | .bool b => some (.ofInt (if b then 1 else 0))
  | _ => Option.none

/-- The number that a value is exactly. -/
def exactFloat? (value : Value) : Option Binary64 :=
  match value with
  | .int n => if (Binary64.ofInt n).toInt? = some n then some (.ofInt n) else Option.none
  | value => value.float?

/-- Two values that are compared as values of one kind. -/
inductive Pair where
  | ints (a b : Int)
  | floats (a b : Binary64)
  | texts (a b : Text)

/-- The pair that two values make, if they can be seen as values of one kind. If `lossy`, whole
numbers may be rounded. -/
def pair? (lossy : Bool) (a b : Value) : Option Pair :=
  let float? (v : Value) := if lossy then v.float? else v.exactFloat?
  match a, b with
  | .text a _, .text b _ => some (.texts a b)
  | .float x, b => (float? b).map fun y => .floats x y
  | a, .float y => (float? a).map fun x => .floats x y
  | a, b =>
    match a.int?, b.int? with
    | some m, some n => some (.ints m n)
    | _, _ => Option.none

/-! ## Equality and order -/

mutual
/-- Whether two values are equal. -/
def same : Value → Value → Bool
  | .undefined, .undefined => true
  | .none, .none => true
  | .list a, .list b => sameItems a b
  | .list a, .series b _ => sameItems a b
  | .series a _, .list b => sameItems a b
  | .series a _, .series b _ => sameItems a b
  | .group k a, .group l b => same k l && sameItems a b
  | .map a, .map b => sameEntries a b
  | .space i _, .space j _ => i == j
  | .helpers a, .helpers b => a == b
  | .callable i _ _ _, .callable j _ _ _ => i == j
  | .function a, .function b => a == b
  | a, b =>
    match pair? false a b with
    | some (.ints m n) => m == n
    | some (.floats x y) => x.same y
    | some (.texts s t) => s == t
    | Option.none => false

/-- Whether two lists have equal items. -/
def sameItems : List Value → List Value → Bool
  | [], [] => true
  | a :: as, b :: bs => same a b && sameItems as bs
  | _, _ => false

/-- Whether two lists have equal entries. -/
def sameEntries : List (Value × Value) → List (Value × Value) → Bool
  | [], [] => true
  | (k, a) :: as, (l, b) :: bs => same k l && same a b && sameEntries as bs
  | _, _ => false
end

mutual
/-- How two values compare. -/
def compare : Value → Value → Ordering
  | .list a, .list b => compareItems a b
  | .series a _, .series b _ => compareItems a b
  | .group k a, .group l b =>
    match compare k l with
    | .eq => compareItems a b
    | other => other
  | .map a, .map b => compareEntries a b
  | a, b =>
    if a.kind.rank < b.kind.rank then .lt
    else if b.kind.rank < a.kind.rank then .gt
    else match pair? false a b with
      | some (.ints m n) => if m < n then .lt else if n < m then .gt else .eq
      | some (.floats x y) => Binary64.compare x y
      | some (.texts s t) => Text.compare s t
      | Option.none => .eq

/-- How two lists compare. -/
def compareItems : List Value → List Value → Ordering
  | [], [] => .eq
  | [], _ :: _ => .lt
  | _ :: _, [] => .gt
  | a :: as, b :: bs =>
    match compare a b with
    | .eq => compareItems as bs
    | other => other

/-- How two lists of entries compare. -/
def compareEntries : List (Value × Value) → List (Value × Value) → Ordering
  | [], [] => .eq
  | [], _ :: _ => .lt
  | _ :: _, [] => .gt
  | (k, a) :: as, (l, b) :: bs =>
    match compare k l with
    | .eq => match compare a b with
      | .eq => compareEntries as bs
      | other => other
    | other => other
end

/-! ## Mappings -/

/-- Gives a key a value, in the order of keys. A key that is there stays as it is. -/
def insertEntry (key value : Value) : List (Value × Value) → List (Value × Value)
  | [] => [(key, value)]
  | (k, old) :: rest =>
    match compare key k with
    | .lt => (key, value) :: (k, old) :: rest
    | .eq => (k, value) :: rest
    | .gt => (k, old) :: insertEntry key value rest

/-- The entries given by pairs; the last one of a key counts. -/
def entriesOf (pairs : List (Value × Value)) : List (Value × Value) :=
  pairs.foldl (fun entries (key, value) => insertEntry key value entries) []

/-- The value of a key. -/
def lookupKey? (key : Value) : List (Value × Value) → Option Value
  | [] => Option.none
  | (k, value) :: rest =>
    match compare key k with
    | .eq => some value
    | _ => lookupKey? key rest

/-- A mapping from names. -/
def ofNames (pairs : List (Text × Value)) : Value :=
  .map (entriesOf (pairs.map fun (name, value) => (plain name, value)))

/-- A mapping from fixed names. -/
def record (pairs : List (String × Value)) : Value :=
  ofNames (pairs.map fun (name, value) => (name.toList, value))

/-! ## Texts -/

/-- How numbers are written. -/
def numberLayout : NumberLayout := ⟨-400, 400, ['.', '0'], "inf".toList, "NaN".toList⟩

/-- How numbers within lists are written. -/
def innerLayout : NumberLayout := ⟨-4, 16, ['.', '0'], "inf".toList, "NaN".toList⟩

/-- The name of a truth value. -/
def boolText (value : Bool) : Text := if value then "True".toList else "False".toList

mutual
/-- The text of a value within a list or a mapping. -/
def described : Value → Text
  | .undefined => "undefined".toList
  | .none => "None".toList
  | .bool value => boolText value
  | .int n => NumberLayout.ofInt n
  | .float x => innerLayout.text x
  | .text value _ => quoted value
  | .list items => '[' :: describedItems items ++ [']']
  | .series items true => '[' :: describedItems items ++ [']']
  | .series _ false => "Iterable".toList
  | .group key items => '[' :: described key ++ ',' :: ' ' :: '[' :: describedItems items ++ [']', ']']
  | .module _ content => content
  | .map entries => '\x7b' :: describedEntries entries ++ ['\x7d']
  | .space _ entries => '\x7b' :: describedEntries entries ++ ['\x7d']
  | .helpers summary => summary
  | .loop turn _ _ =>
    "<loop ".toList ++ NumberLayout.ofNat turn.index ++ '/' :: NumberLayout.ofNat turn.length ++ ['>']
  | .callable _ name _ _ => "<macro ".toList ++ name ++ ['>']
  | .function name => name

/-- The texts of items, with commas between them. -/
def describedItems : List Value → Text
  | [] => []
  | [item] => described item
  | item :: items => described item ++ ',' :: ' ' :: describedItems items

/-- The texts of entries, with commas between them. -/
def describedEntries : List (Value × Value) → Text
  | [] => []
  | [(key, value)] => described key ++ ':' :: ' ' :: described value
  | (key, value) :: entries =>
    described key ++ ':' :: ' ' :: described value ++ ',' :: ' ' :: describedEntries entries
end

/-- The text that a value is written as, before escapes. -/
def display : Value → Text
  | .undefined => []
  | .float x => numberLayout.text x
  | .text value _ => value
  | value => described value

/-- A character with its escape in HTML texts. -/
def escapeChar (c : Char) : Text :=
  match [('<', "&lt;"), ('>', "&gt;"), ('&', "&amp;"), ('"', "&quot;"), ('\'', "&#x27;"),
    ('/', "&#x2f;")].lookup c with
  | some escaped => escaped.toList
  | Option.none => [c]

/-- A text with escapes for HTML. -/
def escape (value : Text) : Text := value.flatMap escapeChar

/-- The text that a value is written as where HTML is escaped. -/
def displayEscaped : Value → Text
  | .text value true => value
  | value =>
    match value.kind with
    | .undefined => value.display
    | .none => value.display
    | .bool => value.display
    | .number => value.display
    | _ => escape value.display

/-! ## Other values -/

mutual
/-- The value of a JSON value. -/
def ofJson : Json.Value → Value
  | .null => .none
  | .bool value => .bool value
  | .int n => .int n
  | .float x => .float x
  | .string value => plain value
  | .array items => .list (ofJsonItems items)
  | .object fields => .map (ofJsonFields fields)

/-- The values of JSON values. -/
def ofJsonItems : List Json.Value → List Value
  | [] => []
  | item :: items => ofJson item :: ofJsonItems items

/-- The entries of fields, which are in the order of their names. -/
def ofJsonFields : List (Text × Json.Value) → List (Value × Value)
  | [] => []
  | (name, value) :: fields => (plain name, ofJson value) :: ofJsonFields fields
end

mutual
/-- The value of a YAML value; a tag becomes the only key of a mapping. -/
def ofYaml : Yaml.Value → Value
  | .null => .none
  | .bool value => .bool value
  | .int n => .int n
  | .float x => .float x
  | .string value => plain value
  | .sequence items => .list (ofYamlItems items)
  | .mapping entries => .map (entriesOf (ofYamlEntries entries))
  | .tagged tag value => .map [(plain tag, ofYaml value)]

/-- The values of YAML values. -/
def ofYamlItems : List Yaml.Value → List Value
  | [] => []
  | item :: items => ofYaml item :: ofYamlItems items

/-- The entries of a YAML mapping. -/
def ofYamlEntries : List (Yaml.Value × Yaml.Value) → List (Value × Value)
  | [] => []
  | (key, value) :: entries => (ofYaml key, ofYaml value) :: ofYamlEntries entries
end

/-- The name that a key becomes in a JSON object. -/
def fieldName? : Value → Option Text
  | .text value _ => some value
  | .int n => some (NumberLayout.ofInt n)
  | .bool true => some "true".toList
  | .bool false => some "false".toList
  | .float x => if x.isFinite then some (innerLayout.text x) else Option.none
  | _ => Option.none

mutual
/-- The JSON value of a value. There is none for a mapping with keys that cannot be names. -/
def toJson? : Value → Option Json.Value
  | .undefined => some .null
  | .none => some .null
  | .bool value => some (.bool value)
  | .int n => some (.int n)
  | .float x => some (if x.isFinite then .float x else .null)
  | .text value _ => some (.string value)
  | .list items => (toJsonItems? items).map .array
  | .series items _ => (toJsonItems? items).map .array
  | .group key items =>
    match toJson? key, toJsonItems? items with
    | some key, some items => some (.array [key, .array items])
    | _, _ => Option.none
  | .map entries => (toJsonFields? entries).map .ofPairs
  | .module entries _ => (toJsonFields? entries).map .ofPairs
  | .space _ entries => (toJsonFields? entries).map .ofPairs
  | value => some (.string (described value))

/-- The JSON values of values. -/
def toJsonItems? : List Value → Option (List Json.Value)
  | [] => some []
  | item :: items =>
    match toJson? item, toJsonItems? items with
    | some item, some items => some (item :: items)
    | _, _ => Option.none

/-- The fields of entries. -/
def toJsonFields? : List (Value × Value) → Option (List (Text × Json.Value))
  | [] => some []
  | (key, value) :: entries =>
    match fieldName? key, toJson? value, toJsonFields? entries with
    | some name, some value, some entries => some ((name, value) :: entries)
    | _, _, _ => Option.none
end

/-! ## Values written over several lines

Each item and each entry stands on a line of its own, further to the right than what it belongs to, and has
a comma behind it. -/

/-- The blanks before a line. -/
def margin (depth : Nat) : Text := List.replicate (4 * depth) ' '

/-- Parts between two brackets, a line for each. -/
def block (opening closing : Char) (depth : Nat) (parts : List Text) : Text :=
  if parts.isEmpty then [opening, closing]
  else opening :: '\n' ::
    (parts.flatMap fun part => margin (depth + 1) ++ part ++ [',', '\n']) ++ margin depth ++ [closing]

mutual
/-- The text of a value whose parts stand `depth` steps to the right. -/
def pretty (depth : Nat) : Value → Text
  | .list items => block '[' ']' depth (prettyItems (depth + 1) items)
  | .series items true => block '[' ']' depth (prettyItems (depth + 1) items)
  | .group key items =>
    block '[' ']' depth
      [pretty (depth + 1) key, block '[' ']' (depth + 1) (prettyItems (depth + 2) items)]
  | .map entries => block '\x7b' '\x7d' depth (prettyEntries (depth + 1) entries)
  | .space _ entries => block '\x7b' '\x7d' depth (prettyEntries (depth + 1) entries)
  | value => described value

/-- The texts of items. -/
def prettyItems (depth : Nat) : List Value → List Text
  | [] => []
  | item :: items => pretty depth item :: prettyItems depth items

/-- The texts of entries. -/
def prettyEntries (depth : Nat) : List (Value × Value) → List Text
  | [] => []
  | (key, value) :: entries =>
    (pretty depth key ++ ':' :: ' ' :: pretty depth value) :: prettyEntries depth entries
end

end Value

end DocSite.Template
