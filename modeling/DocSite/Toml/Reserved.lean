/-
# DocSite.Toml.Reserved -- dates that are written as tables

Where any value may stand, a table whose first name is the reserved one stands for the date or time
that its text gives, and its other entries do not count. The rules for this text are wider than those
for dates in a document: midnight may be the end of a day, a space may stand before the time, and an
offset has up to a whole day in hours and minutes.
-/
import DocSite.Toml.Scalar

set_option autoImplicit false

namespace DocSite.Toml

/-- The date or time that a text stands for in a table. -/
def reservedMoment? (text : Text) : Option Moment :=
  if text[2]? = some ':' then
    match clock? 24 text with
    | some (clock, []) => some ⟨none, some clock, none⟩
    | _ => none
  else
    match day? text with
    | none => none
    | some (day, []) => some ⟨some day, none, none⟩
    | some (day, t :: rest) =>
      if t = 'T' || t = 't' || t = ' ' then
        (clock? 24 rest).bind fun (clock, rest) =>
          (offset? (fun hour minute => hour * 60 + minute ≤ 24 * 60) rest).map fun offset =>
            ⟨some day, some clock, offset⟩
      else none

mutual
/-- A value with dates in place of the tables that stand for them. -/
def withMoments? : Value → Option Value
  | .array items => (itemsWithMoments? items).map .array
  | .table entries =>
    match entries with
    | (name, value) :: _ =>
      if name = momentField then
        match value with
        | .string text => (reservedMoment? text).map .moment
        | _ => none
      else (entriesWithMoments? entries).map .table
    | [] => some (.table [])
  | value => some value

/-- Values with dates in place of tables. -/
def itemsWithMoments? : List Value → Option (List Value)
  | [] => some []
  | item :: items =>
    (withMoments? item).bind fun item =>
      (itemsWithMoments? items).map fun items => item :: items

/-- Entries whose values have dates in place of tables. -/
def entriesWithMoments? : List (Text × Value) → Option Entries
  | [] => some []
  | (name, value) :: entries =>
    (withMoments? value).bind fun value =>
      (entriesWithMoments? entries).map fun entries => (name, value) :: entries
end

end DocSite.Toml
