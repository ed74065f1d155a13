/-
# DocSite.Template.Arguments -- what a call is given

A call has values in a row and values with names. Whoever does not ask for names gets those with
names as one more value, a mapping behind the others; it counts as a value, but not as a text.
-/
import DocSite.Template.Operation

set_option autoImplicit false

namespace DocSite.Template

open Text

/-- The arguments of a call. -/
structure Arguments where
  values : List Value
  named : List (Text × Value)

/-- The value, unless it is missing or none. -/
def Value.given? (value : Value) : Option Value :=
  match value with
  | .undefined => Option.none
  | .none => Option.none
  | value => some value

namespace Arguments

/-- No arguments. -/
def empty : Arguments := ⟨[], []⟩

/-- The arguments as values; those with names become a mapping that comes last. -/
def all (a : Arguments) : List Value :=
  if a.named.isEmpty then a.values else a.values ++ [Value.ofNames a.named]

/-- Fails if there are more than `n` arguments. -/
def upTo (n : Nat) (a : Arguments) : Result Unit :=
  if n < a.all.length then .error .tooManyArguments else .ok ()

/-! ## Arguments by place -/

/-- The argument at a place, if it is given. -/
def value? (place : Nat) (a : Arguments) : Option Value := (a.all[place]?).bind Value.given?

/-- The argument at a place, which may be anything. -/
def value (place : Nat) (a : Arguments) : Result Value :=
  match a.all[place]? with
  | some value => .ok value
  | none => .error .missingArgument

/-- The text of the argument at a place. The arguments with names have none. -/
def text (place : Nat) (a : Arguments) : Result Text :=
  match a.values[place]? with
  | some value => .ok value.display
  | none => .error (if a.all.length ≤ place then .missingArgument else .invalidOperation)

/-- The text of the argument at a place, if it is given. -/
def text? (place : Nat) (a : Arguments) : Result (Option Text) :=
  match a.value? place with
  | some _ => (a.text place).map some
  | none => .ok none

/-- The whole number at a place, if one is given. -/
def int? (place : Nat) (a : Arguments) : Result (Option Int) :=
  match a.value? place with
  | some value => match value.int? with
    | some n => .ok (some n)
    | none => .error .invalidOperation
  | none => .ok none

/-- The natural number at a place. -/
def count (place : Nat) (a : Arguments) : Result Nat := do
  match (← a.value place).count? with
  | some n => .ok n
  | none => .error .invalidOperation

/-- Whether an argument is true. One that is not given is not. -/
def isSet (value : Option Value) : Result Bool :=
  match value.bind Value.given? with
  | some (.bool b) => .ok b
  | some _ => .error .invalidOperation
  | none => .ok false

/-- Whether the argument at a place is true. -/
def flag (place : Nat) (a : Arguments) : Result Bool := isSet (a.value? place)

/-! ## Arguments by name -/

/-- The argument of a name, if it is given. -/
def name? (text : String) (a : Arguments) : Option Value :=
  (a.named.lookup text.toList).bind Value.given?

/-- Whether the argument of a name is true. -/
def flagNamed (text : String) (a : Arguments) : Result Bool := isSet (a.name? text)

/-- The argument of a name, which must be a text if it is given. -/
def textNamed? (text : String) (a : Arguments) : Result (Option Text) :=
  match a.name? text with
  | some (.text value _) => .ok (some value)
  | some _ => .error .invalidOperation
  | none => .ok none

/-- Fails if there are more than `n` arguments without names, or with other names than some. -/
def onlyNames (n : Nat) (names : List String) (a : Arguments) : Result Unit :=
  if n < a.values.length then .error .tooManyArguments
  else if a.named.all fun (name, _) => names.any fun n => n.toList == name then .ok ()
  else .error .tooManyArguments

end Arguments

end DocSite.Template
