/-
# DocSite.Template.Test -- tests

A test tells something about a value and is found by its name. Most tests ask nothing but the
value; the others compare it with an argument.
-/
import DocSite.Template.Arguments
import DocSite.Text.Case

set_option autoImplicit false

namespace DocSite.Template

open Text

/-- A test of a value with arguments. -/
abbrev Test := Value → Arguments → Result Bool

namespace Test

/-- A test that takes no arguments. -/
def alone (holds : Value → Bool) : Test := fun value a => do
  a.upTo 0
  return holds value

/-- A test of a text that takes no arguments. -/
def ofText (holds : Text → Bool) : Test := fun value a => do
  a.upTo 0
  match value with
  | .text text _ => return holds text
  | _ => .error .invalidOperation

/-- A test that takes one argument. -/
def against (holds : Value → Value → Bool) : Test := fun value a => do
  a.upTo 1
  return holds value (← a.value 0)

/-- A test of the text of a value against another text. -/
def againstText (holds : Text → Text → Bool) : Test := fun value a => do
  a.upTo 1
  return holds value.display (← a.text 0)

/-- Whether a text is safe. -/
def isSafe : Value → Bool
  | .text _ safe => safe
  | _ => false

/-- Whether a value is kept as a whole number. -/
def isWhole : Value → Bool
  | .int _ => true
  | _ => false

/-- Whether a value is kept as a number with a fraction. -/
def isFraction : Value → Bool
  | .float _ => true
  | _ => false

/-- Whether a value is a certain truth value. -/
def isBool (wanted : Bool) : Value → Bool
  | .bool b => b == wanted
  | _ => false

/-- Whether a number can be divided by another one. -/
def divides (a b : Value) : Bool :=
  match Value.pair? false a b with
  | some (.ints m n) => n != 0 && m % n == 0
  | some (.floats x y) => (x.rem y).isZero
  | _ => false

/-- Whether two values are equal and of one kind; whole numbers and others are of two. -/
def isSame (a b : Value) : Bool := a.kind = b.kind && isWhole a == isWhole b && a.same b

/-- Whether a value is found in a container. Nothing is found in what is no container. -/
def isFoundIn (value container : Value) : Bool :=
  match value.isIn container with
  | .ok found => found
  | .error _ => false

/-- The names of all filters. -/
def filterNames : List String :=
  ["abs", "attr", "batch", "bool", "capitalize", "chain", "count", "d", "default", "dictsort", "e",
    "escape", "first", "float", "groupby", "indent", "int", "items", "join", "last", "length", "lines",
    "list", "lower", "map", "max", "min", "pprint", "reject", "rejectattr", "replace", "reverse",
    "round", "safe", "select", "selectattr", "slice", "sort", "split", "string", "sum", "title", "trim",
    "unique", "upper", "zip"]

/-- The tests that ask nothing but the value. -/
def simple : List (String × Test) :=
  [("undefined", alone Value.isUndefined), ("defined", alone (!·.isUndefined)),
    ("none", alone (·.kind = .none)), ("safe", alone isSafe), ("escaped", alone isSafe),
    ("boolean", alone (·.kind = .bool)), ("true", alone (isBool true)), ("false", alone (isBool false)),
    ("number", alone (·.kind = .number)), ("integer", alone isWhole), ("int", alone isWhole),
    ("float", alone isFraction), ("odd", alone fun value => value.int?.any fun n => n % 2 != 0),
    ("even", alone fun value => value.int?.any fun n => n % 2 == 0),
    ("string", alone (·.kind = .text)), ("sequence", alone (·.kind = .list)),
    ("iterable", alone (·.items?.isSome)), ("mapping", alone (·.kind = .map)),
    ("lower", ofText (·.all isSmall)), ("upper", ofText (·.all isCapital)),
    ("filter", ofText fun text => filterNames.any (·.toList == text))]

/-- The tests that compare the value with an argument. -/
def binary : List (List String × Test) :=
  [(["eq", "equalto", "=="], against Value.same), (["ne", "!="], against (!Value.same · ·)),
    (["lt", "lessthan", "<"], against (Value.compare · · == .lt)),
    (["le", "<="], against (Value.compare · · != .gt)),
    (["gt", "greaterthan", ">"], against (Value.compare · · == .gt)),
    (["ge", ">="], against (Value.compare · · != .lt)), (["sameas"], against isSame),
    (["in"], against isFoundIn), (["divisibleby"], against divides),
    (["startingwith"], againstText fun text phrase => (dropPhrase? phrase text).isSome),
    (["endingwith"], againstText fun text phrase =>
      (dropPhrase? phrase.reverse text.reverse).isSome)]

/-- The test of a name, apart from the one that asks for tests. -/
def known? (name : String) : Option Test :=
  match simple.lookup name with
  | some test => some test
  | none => (binary.find? fun (names, _) => names.contains name).map Prod.snd

/-- The test of a name. -/
def named? (name : Text) : Option Test :=
  let name := String.ofList name
  if name = "test" then
    some (ofText fun text => let name := String.ofList text; name = "test" || (known? name).isSome)
  else known? name

/-- Applies the test of a name. -/
def applied (name : Text) (value : Value) (a : Arguments) : Result Bool :=
  match named? name with
  | some test => test value a
  | none => .error .unknownName

end Test

end DocSite.Template
