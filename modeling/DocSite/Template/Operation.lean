/-
# DocSite.Template.Operation -- operations on the values of templates

Numbers are added as whole numbers as long as both are whole, texts and lists are put together,
and everything can be compared. An operation that has no meaning fails.
-/
import DocSite.Template.Node

set_option autoImplicit false

namespace DocSite.Template

open Text

/-- Why a template cannot be rendered. -/
inductive Failure where
  | missingTemplate
  | malformedTemplate
  | undefinedValue
  | unknownName
  | unknownMethod
  | missingArgument
  | tooManyArguments
  | invalidOperation
deriving DecidableEq, Repr

/-- What evaluation gives. -/
abbrev Result (α : Type) := Except Failure α

namespace Value

/-- A whole number of at most 128 bits. -/
def whole (n : Int) : Result Value :=
  if -(twoTo 127 : Int) ≤ n && n < twoTo 127 then .ok (.int n) else .error .invalidOperation

/-- An operation on numbers; an absent result makes it fail. -/
def arithmetic (ints : Int → Int → Option Int) (floats : Binary64 → Binary64 → Binary64)
    (a b : Value) : Result Value :=
  match pair? true a b with
  | some (.ints m n) => match ints m n with
    | some result => whole result
    | Option.none => .error .invalidOperation
  | some (.floats x y) => .ok (.float (floats x y))
  | _ => .error .invalidOperation

/-- The items of a list or a series. -/
def sequence? : Value → Option (List Value)
  | .list items => some items
  | .series items _ => some items
  | .group key items => some [key, .series items true]
  | _ => Option.none

/-- Whether it is known how many items a value has. Only a series may not tell. -/
def isSized : Value → Bool
  | .series _ sized => sized
  | _ => true

/-- The sum of numbers, or texts put together, or the series of the items of two lists. -/
def add (a b : Value) : Result Value :=
  match a.sequence?, b.sequence? with
  | some as, some bs => .ok (.series (as ++ bs) (a.isSized && b.isSized))
  | _, _ => match a, b with
    | .text s _, .text t _ => .ok (plain (s ++ t))
    | a, b => arithmetic (fun m n => some (m + n)) Binary64.add a b

/-- How often something is to be repeated. -/
def count? (value : Value) : Option Nat :=
  value.int?.bind fun n => if 0 ≤ n then some n.toNat else Option.none

/-- Items put together with themselves a number of times. -/
def repeated {α : Type} (items : List α) (times : Value) (make : List α → Value) : Result Value :=
  match times.count? with
  | some n => .ok (make (List.replicate n items).flatten)
  | Option.none => .error .invalidOperation

/-- A list or a series repeated. One whose size is not known is refused. -/
def repeatedSequence (value : Value) (items : List Value) (times : Value) : Result Value :=
  if value.isSized then repeated items times (.series · true) else .error .invalidOperation

/-- The product of numbers, or a text or list repeated. -/
def multiply (a b : Value) : Result Value :=
  match a.text?, b.text? with
  | some s, _ => repeated s b plain
  | _, some s => repeated s a plain
  | _, _ => match a.sequence?, b.sequence? with
    | some items, _ => repeatedSequence a items b
    | _, some items => repeatedSequence b items a
    | _, _ => arithmetic (fun m n => some (m * n)) Binary64.mul a b

/-- The quotient of numbers, which is never kept as a whole number. -/
def divide (a b : Value) : Result Value :=
  match a.float?, b.float? with
  | some x, some y => .ok (.float (x.div y))
  | _, _ => .error .invalidOperation

/-- How often one number goes into another one, so that what is left is not negative. -/
def floorDivide (a b : Value) : Result Value :=
  arithmetic (fun m n => if n = 0 then Option.none else some (m / n)) Binary64.divFloor a b

/-- What is left of a number after a division. -/
def remainder (a b : Value) : Result Value :=
  arithmetic (fun m n => if n = 0 then Option.none else some (m % n)) Binary64.rem a b

/-- A power; whole numbers have natural exponents. -/
def power (a b : Value) : Result Value :=
  match pair? true a b with
  | some (.ints m n) =>
    if n < 0 || (2 ≤ m.natAbs && 128 < n) then .error .invalidOperation
    else if m.natAbs ≤ 1 then whole (Int.pow m (n % 2 + if n = 0 then 0 else 2).toNat)
    else whole (Int.pow m n.toNat)
  | some (.floats x y) => .ok (.float (x.powReal y))
  | _ => .error .invalidOperation

/-- A number with the other sign. -/
def negated : Value → Result Value
  | .int n => whole (-n)
  | .float x => .ok (.float x.neg)
  | _ => .error .invalidOperation

/-! ## Parts -/

/-- The fields of the place within a loop. How many turns there are is told only if it was known
beforehand. -/
def loopFields (turn : Turn) (previous next : Value) : List (String × Value) :=
  let told (n : Int) : Value := if turn.sized then .int n else .undefined
  [("index0", .int turn.index), ("index", .int (turn.index + 1)), ("length", told turn.length),
    ("revindex", told (turn.length - turn.index)),
    ("revindex0", told (turn.length - turn.index - 1)),
    ("first", .bool (turn.index == 0)), ("last", .bool (turn.index + 1 == turn.length)),
    ("depth", .int (turn.depth + 1)), ("depth0", .int turn.depth), ("previtem", previous),
    ("nextitem", next)]

/-- The entries of a value that has some. -/
def entries? : Value → Option (List (Value × Value))
  | .map entries => some entries
  | .module entries _ => some entries
  | .space _ entries => some entries
  | .loop turn previous next =>
    some (entriesOf ((loopFields turn previous next).map fun (name, value) =>
      (plain name.toList, value)))
  | .callable _ name parameters asksCaller =>
    some (entriesOf [(plain "name".toList, plain name),
      (plain "arguments".toList, .list (parameters.map plain)),
      (plain "caller".toList, .bool asksCaller)])
  | _ => Option.none

/-- The item of a list at a place; a negative place is counted from the end. -/
def itemAt? (items : List Value) (place : Int) : Option Value :=
  if 0 ≤ place then items[place.toNat]?
  else if place.natAbs ≤ items.length then items[items.length - place.natAbs]?
  else Option.none

/-- The item of a series at a place; a place is counted from the end only if the size is known. -/
def seriesItem? (items : List Value) (sized : Bool) (place : Int) : Option Value :=
  if place < 0 && !sized then Option.none else itemAt? items place

/-- The part of a value that a key leads to, if it has one. The parts of a group have names. -/
def part? (value key : Value) : Option Value :=
  match value with
  | .list items => key.int?.bind (itemAt? items)
  | .series items sized => key.int?.bind (seriesItem? items sized)
  | .group common items =>
    let parts := [common, .series items true]
    match key.text? with
    | some name => ([("grouper".toList, common), ("list".toList, .series items true)]).lookup name
    | Option.none => key.int?.bind (itemAt? parts)
  | .text s _ => key.int?.bind (itemAt? (s.map fun c => plain [c]))
  | value => value.entries?.bind (lookupKey? key)

/-- The items of a value that can be gone through. -/
def items? : Value → Option (List Value)
  | .undefined => some []
  | .none => some []
  | .text s _ => some (s.map fun c => plain [c])
  | .callable _ _ _ _ => Option.none
  | value => match value.sequence? with
    | some items => some items
    | Option.none => value.entries?.map fun entries => entries.map Prod.fst

/-- The items of a value, or a failure. -/
def items (value : Value) : Result (List Value) :=
  match value.items? with
  | some items => .ok items
  | Option.none => .error .invalidOperation

/-- The values that a value is taken apart into where several things are assigned. -/
def unpacked? : Value → Option (List Value)
  | .undefined => Option.none
  | .none => Option.none
  | .text _ _ => Option.none
  | value => value.items?

/-- The number of characters, items or entries of a value, if it is known. -/
def length? : Value → Option Nat
  | .undefined => Option.none
  | .none => Option.none
  | value => if value.isSized then value.items?.map List.length else Option.none

/-- A value the other way round. -/
def reversed (value : Value) : Result Value :=
  match value with
  | .undefined => .ok .undefined
  | .none => .ok .none
  | .text s _ => .ok (plain s.reverse)
  | value => do
    let items ← value.items
    .ok (.series items.reverse true)

/-- Whether a value is found in a container. -/
def isIn (value container : Value) : Result Bool :=
  match container with
  | .undefined => .ok false
  | .text s _ => .ok (containsPhrase value.display s)
  | .helpers _ => .ok false
  | .function _ => .ok false
  | container => match container.sequence?, container.entries? with
    | some items, _ => .ok (items.any fun item => item.same value)
    | _, some entries => .ok (lookupKey? value entries).isSome
    | _, _ => .error .invalidOperation

/-- The places from a start on in equal steps, below a stop or above it for steps backwards;
`fuel` bounds their number. -/
def places (stop step : Int) : (fuel : Nat) → (start : Int) → List Int
  | 0, _ => []
  | fuel + 1, start =>
    if (0 < step && start < stop) || (step < 0 && stop < start) then
      start :: places stop step fuel (start + step)
    else []

/-- The items of a range of a list. -/
def sliceItems {α : Type} (items : List α) (start stop : Option Int) (step : Int) : List α :=
  let size : Int := items.length
  let bound (n : Int) : Int := if n < 0 then n + size else n
  let chosen :=
    if 0 < step then
      let first := max 0 (min size (bound (start.getD 0)))
      let last := max 0 (min size (bound (stop.getD size)))
      places last step items.length first
    else
      let first := min (size - 1) (bound (start.getD (size - 1)))
      let last := match stop with
        | some n => max (-1) (bound n)
        | Option.none => -1
      places last step items.length first
  chosen.filterMap fun i => if 0 ≤ i then items[i.toNat]? else Option.none

/-- A bound of a range: a whole number, or nothing. -/
def bound (value : Value) : Result (Option Int) :=
  match value with
  | .none => .ok Option.none
  | value => match value.int? with
    | some n => .ok (some n)
    | Option.none => .error .invalidOperation

/-- A range of a text or a list. -/
def slice (value start stop step : Value) : Result Value := do
  let start ← start.bound
  let stop ← stop.bound
  let step := (← step.bound).getD 1
  if step = 0 then .error .invalidOperation
  else match value with
    | .none => .ok (.list [])
    | .undefined => .ok (.list [])
    | .text s _ => .ok (plain (sliceItems s start stop step))
    | value => match value.sequence? with
      | some items => .ok (.series (sliceItems items start stop step) value.isSized)
      | Option.none => .error .invalidOperation

/-! ## Operators -/

/-- Applies an operator to two values; `and` and `or` choose one of them. -/
def apply (operator : Operator) (a b : Value) : Result Value :=
  match operator with
  | .add => add a b
  | .subtract => arithmetic (fun m n => some (m - n)) Binary64.sub a b
  | .multiply => multiply a b
  | .divide => divide a b
  | .floorDivide => floorDivide a b
  | .remainder => remainder a b
  | .power => power a b
  | .concatenate => .ok (plain (a.display ++ b.display))
  | .equal => .ok (.bool (a.same b))
  | .notEqual => .ok (.bool (!a.same b))
  | .less => .ok (.bool (compare a b == .lt))
  | .lessEqual => .ok (.bool (compare a b != .gt))
  | .greater => .ok (.bool (compare a b == .gt))
  | .greaterEqual => .ok (.bool (compare a b != .lt))
  | .isIn => (isIn a b).map .bool
  | .and => .ok (if a.isTrue then b else a)
  | .or => .ok (if a.isTrue then a else b)

end Value

end DocSite.Template
