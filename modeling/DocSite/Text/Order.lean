/-
# DocSite.Text.Order -- the order of texts

Texts are compared character by character, and a text comes before those that go on from it.
-/
import DocSite.Text.Basic

set_option autoImplicit false

namespace DocSite.Text

/-- How two texts compare. -/
def compare : Text → Text → Ordering
  | [], [] => .eq
  | [], _ :: _ => .lt
  | _ :: _, [] => .gt
  | a :: as, b :: bs =>
    if a.toNat < b.toNat then .lt else if b.toNat < a.toNat then .gt else compare as bs

/-- Whether one text comes before another one. -/
def before (a b : Text) : Bool := compare a b == .lt

/-- Puts a value into a list that is sorted by the order `before`; it comes after its equals. -/
def insertSorted {α : Type} (before : α → α → Bool) (x : α) : List α → List α
  | [] => [x]
  | y :: rest => if before x y then x :: y :: rest else y :: insertSorted before x rest

/-- A list sorted by an order; equals keep their places. -/
def sortBy {α : Type} (before : α → α → Bool) (xs : List α) : List α :=
  xs.foldl (fun sorted x => insertSorted before x sorted) []

end DocSite.Text
