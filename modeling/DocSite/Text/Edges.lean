/-
# DocSite.Text.Edges -- sets of characters by their edges

Sets of characters given by their edges: the ascending code points at which membership changes,
beginning with the first member. A code point belongs to the set when an odd number of edges is
at most as large.
-/
set_option autoImplicit false

namespace DocSite.Text

/-- The number of entries of an ascending table that are at most `n`, searched for between
`low` and `high` in at most `fuel` halvings. -/
def rankBetween (table : Array Nat) (n : Nat) : (fuel low high : Nat) → Nat
  | 0, low, _ => low
  | fuel + 1, low, high =>
    if low < high then
      let middle := (low + high) / 2
      if table.getD middle 0 ≤ n then rankBetween table n fuel (middle + 1) high
      else rankBetween table n fuel low middle
    else low

/-- The number of entries of an ascending table of fewer than 2 ^ 20 entries that are at most
`n`. -/
def rank (table : Array Nat) (n : Nat) : Nat := rankBetween table n 21 0 table.size

/-- Whether `n` lies in the set with these edges. -/
def within (edges : Array Nat) (n : Nat) : Bool := rank edges n % 2 == 1

end DocSite.Text
