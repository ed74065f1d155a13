/-
# DocSite.Toml.Value -- values of TOML documents

A value is a text, a number, a truth value, a date or time, a list or a table. In JSON, where there
are no dates, a date is an object with one field of a fixed name.
-/
import DocSite.Json.Value

set_option autoImplicit false

namespace DocSite.Toml

open Text

/-- A day of the calendar. -/
structure Day where
  year : Nat
  month : Nat
  day : Nat
deriving DecidableEq, Repr

/-- A time of day. -/
structure Clock where
  hour : Nat
  minute : Nat
  second : Nat
  nanosecond : Nat
deriving DecidableEq, Repr

/-- How far a time is ahead of universal time. -/
inductive Offset where
  | universal
  | minutes (ahead : Int)
deriving DecidableEq, Repr

/-- A day, a time of day, or both. -/
structure Moment where
  day : Option Day
  clock : Option Clock
  offset : Option Offset
deriving DecidableEq, Repr

/-- A value of a TOML document. -/
inductive Value where
  | string (value : Text)
  | integer (value : Int)
  | float (value : Binary64)
  | bool (value : Bool)
  | moment (value : Moment)
  | array (items : List Value)
  | table (entries : List (Text × Value))
deriving Repr, Inhabited

/-- The entries of a table. -/
abbrev Entries := List (Text × Value)

/-! ## Dates and times as text -/

/-- A number with zeros before it, at least `width` digits. -/
def padded (width n : Nat) : Text :=
  let digits := NumberLayout.ofNat n
  List.replicate (width - digits.length) '0' ++ digits

/-- The text of a day. -/
def Day.text (d : Day) : Text := padded 4 d.year ++ '-' :: padded 2 d.month ++ '-' :: padded 2 d.day

/-- The text of a time of day; a fraction of a second ends with no zero. -/
def Clock.text (c : Clock) : Text :=
  padded 2 c.hour ++ ':' :: padded 2 c.minute ++ ':' :: padded 2 c.second ++
    if c.nanosecond = 0 then []
    else '.' :: dropEndWhile (· == '0') (padded 9 c.nanosecond)

/-- The text of an offset. -/
def Offset.text : Offset → Text
  | universal => ['Z']
  | minutes ahead =>
    (if ahead < 0 then '-' else '+') :: padded 2 (ahead.natAbs / 60) ++
      ':' :: padded 2 (ahead.natAbs % 60)

/-- The text of a date or time. -/
def Moment.text (m : Moment) : Text :=
  let day := (m.day.map Day.text).getD []
  let clock := (m.clock.map Clock.text).getD []
  let offset := (m.offset.map Offset.text).getD []
  day ++ (if m.day.isSome && m.clock.isSome then ['T'] else []) ++ clock ++ offset

/-! ## Values as JSON -/

/-- The name of the field that holds a date where there are no dates. -/
def momentField : Text := "$__toml_private_datetime".toList

namespace Value

mutual
/-- A value as JSON. -/
def json : Value → Json.Value
  | .string value => .string value
  | .integer value => .int value
  | .float value => if value.isFinite then .float value else .null
  | .bool value => .bool value
  | .moment value => .object [(momentField, .string value.text)]
  | .array items => .array (jsonItems items)
  | .table entries => .object (jsonFields entries)

/-- Values as JSON. -/
def jsonItems : List Value → List Json.Value
  | [] => []
  | item :: rest => item.json :: jsonItems rest

/-- The entries of a table as JSON, in the order of their names. -/
def jsonFields : List (Text × Value) → Json.Fields
  | [] => []
  | (name, value) :: rest => Json.Fields.insert name value.json (jsonFields rest)
end

end Value

end DocSite.Toml
