/-
# DocSite.Number.Power -- powers of two and ten

The bases in which numbers are kept and written.
-/
set_option autoImplicit false

namespace DocSite

/-- Two multiplied by itself. -/
def twoTo (n : Nat) : Nat := Nat.pow 2 n

/-- Ten multiplied by itself. -/
def tenTo (n : Nat) : Nat := Nat.pow 10 n

end DocSite
