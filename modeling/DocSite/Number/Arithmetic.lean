/-
# DocSite.Number.Arithmetic -- operations on floating-point numbers

Every operation works on the exact values of its arguments and takes the nearest number of the
format. Where the exact result is zero, its sign is the one that the format asks for.
-/
import DocSite.Number.Binary64

set_option autoImplicit false

namespace DocSite.Binary64

/-- The zero of a sign. -/
def zero (negative : Bool) : Binary64 := finite negative 0 minExponent

/-- Whether a number has the sign of negative numbers. -/
def isNegative : Binary64 → Bool
  | finite negative _ _ => negative
  | infinite negative => negative
  | nan => false

/-- Whether a number is one of the two zeros. -/
def isZero : Binary64 → Bool
  | finite _ m _ => m == 0
  | _ => false

/-- A number with the other sign. -/
def neg : Binary64 → Binary64
  | finite negative m e => finite (!negative) m e
  | infinite negative => infinite (!negative)
  | nan => nan

/-- A number without its sign. -/
def abs : Binary64 → Binary64
  | finite _ m e => finite false m e
  | infinite _ => infinite false
  | nan => nan

/-- A mantissa with a sign. -/
def signed (negative : Bool) (m : Nat) : Int := if negative then -(m : Int) else m

/-- The number nearest to `n * 2 ^ e`; `negativeZero` tells which zero is meant by zero. -/
def ofScaled (n e : Int) (negativeZero : Bool) : Binary64 :=
  if n = 0 then zero negativeZero
  else if 0 ≤ e then ofRatio (n < 0) (n.natAbs * twoTo e.toNat) 1
  else ofRatio (n < 0) n.natAbs (twoTo (-e).toNat)

/-- The sum of two numbers. -/
def add : Binary64 → Binary64 → Binary64
  | finite s m e, finite t n f =>
    let least := min e f
    ofScaled (signed s m * twoTo (e - least).toNat + signed t n * twoTo (f - least).toNat) least (s && t)
  | infinite s, infinite t => if s = t then infinite s else nan
  | infinite s, finite _ _ _ => infinite s
  | finite _ _ _, infinite t => infinite t
  | _, _ => nan

/-- The difference of two numbers. -/
def sub (a b : Binary64) : Binary64 := add a (neg b)

/-- The product of two numbers. -/
def mul : Binary64 → Binary64 → Binary64
  | finite s m e, finite t n f => ofScaled (signed (s != t) (m * n)) (e + f) (s != t)
  | infinite s, infinite t => infinite (s != t)
  | infinite s, finite t n _ => if n = 0 then nan else infinite (s != t)
  | finite s m _, infinite t => if m = 0 then nan else infinite (s != t)
  | _, _ => nan

/-- The quotient of two numbers. -/
def div : Binary64 → Binary64 → Binary64
  | finite s m e, finite t n f =>
    if n = 0 then (if m = 0 then nan else infinite (s != t))
    else if m = 0 then zero (s != t)
    else
      let (a, b) := ratio m e
      let (c, d) := ratio n f
      ofRatio (s != t) (a * d) (b * c)
  | infinite s, finite t _ _ => infinite (s != t)
  | finite s _ _, infinite t => zero (s != t)
  | _, _ => nan

/-- What is left of a number after a whole number of times another one; it has the sign of the
first. -/
def rem : Binary64 → Binary64 → Binary64
  | finite s m e, finite _ n f =>
    if n = 0 then nan
    else
      let least := min e f
      let left := (m * twoTo (e - least).toNat) % (n * twoTo (f - least).toNat)
      ofScaled (signed s left) least s
  | finite s m e, infinite _ => finite s m e
  | _, _ => nan

/-- The whole number next to a number in the direction of zero, if it is finite. -/
def whole? : Binary64 → Option Int
  | finite s m e =>
    let (a, b) := ratio m e
    some (signed s (a / b))
  | _ => none

/-- A number without its fraction. -/
def trunc (x : Binary64) : Binary64 :=
  match whole? x with
  | some n => ofScaled n 0 x.isNegative
  | none => x

/-- The nearest whole number; a half goes away from zero. -/
def round : Binary64 → Binary64
  | finite s m e =>
    let (a, b) := ratio m e
    ofScaled (signed s ((2 * a + b) / (2 * b))) 0 s
  | x => x

/-- How many times a number goes into another one, so that what is left is not negative. -/
def divFloor (a b : Binary64) : Binary64 :=
  let q := trunc (div a b)
  if less (rem a b) (zero false) then
    (if less (zero false) b then sub q (ofInt 1) else add q (ofInt 1))
  else q

/-- A power with a natural exponent. -/
def powNat (x : Binary64) (n : Nat) : Binary64 :=
  match x with
  | finite s m e =>
    let negative := s && n % 2 == 1
    ofScaled (signed negative (Nat.pow m n : Nat)) (e * n) negative
  | infinite s => if n = 0 then ofInt 1 else infinite (s && n % 2 == 1)
  | nan => if n = 0 then ofInt 1 else nan

/-- A power with a whole exponent. -/
def pow (x : Binary64) (n : Int) : Binary64 :=
  if 0 ≤ n then powNat x n.toNat else div (ofInt 1) (powNat x n.natAbs)

/-- How two numbers compare, with a missing number above all others. -/
def compare (a b : Binary64) : Ordering :=
  match a, b with
  | nan, nan => .eq
  | nan, _ => .gt
  | _, nan => .lt
  | a, b =>
    if less a b then .lt
    else if less b a then .gt
    else if a.isNegative == b.isNegative then .eq
    else if a.isNegative then .lt else .gt

end DocSite.Binary64
