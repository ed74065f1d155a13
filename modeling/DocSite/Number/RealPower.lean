/-
# DocSite.Number.RealPower -- powers with any exponent

A power with a whole exponent that is not too great is worked out exactly and then rounded. Any
other power is two to the exponent times the binary logarithm of the base. Logarithm and power are
worked out in whole numbers that count very small fractions, so that the one rounding at the end
gives the nearest number.
-/
import DocSite.Number.Arithmetic

set_option autoImplicit false

namespace DocSite.Binary64

/-- The number one. -/
def one : Binary64 := ofInt 1

/-- The binary places that logarithms are worked out to. -/
def logPlaces : Nat := 256

/-- The binary places of the squares that logarithms are taken from. -/
def squarePlaces : Nat := 600

/-- The next places of the binary logarithm of `y`, a number from one up to two. It is one half or
more where the square of `y` is two or more. -/
def logFraction : (places : Nat) → (y found : Nat) → Nat
  | 0, _, found => found
  | places + 1, y, found =>
    let square := y * y / twoTo squarePlaces
    if 2 * twoTo squarePlaces ≤ square then logFraction places (square / 2) (2 * found + 1)
    else logFraction places square (2 * found)

/-- The binary logarithm of `m * 2 ^ e`, which is positive. -/
def logScaled (m : Nat) (e : Int) : Int :=
  let size := Nat.log2 m
  (size + e) * twoTo logPlaces + logFraction logPlaces (m * twoTo squarePlaces / twoTo size) 0

/-- The natural logarithm of two, as the sum of `1 / (k * 2 ^ k)`. -/
def logOfTwo : Nat :=
  (List.range logPlaces).foldl (fun total k => total + twoTo logPlaces / ((k + 1) * twoTo (k + 1))) 0

/-- The sum of further terms of the exponential function at `z`, the first of which is `term`. -/
def exponentialTerms (z : Nat) : (count : Nat) → (k term : Nat) → Nat
  | 0, _, _ => 0
  | count + 1, k, term =>
    term + exponentialTerms z count (k + 1) (term * z / (twoTo logPlaces * (k + 1)))

/-- Two to a fraction. -/
def twoToFraction (fraction : Nat) : Nat :=
  exponentialTerms (fraction * logOfTwo / twoTo logPlaces) 100 0 (twoTo logPlaces)

/-- The absolute value of the power of `m * 2 ^ e` with the exponent `n * 2 ^ f`, by logarithms. -/
def powByLog (negative : Bool) (m : Nat) (e n f : Int) : Binary64 :=
  let product := n * logScaled m e * twoTo f.toNat
  let unit : Int := twoTo (logPlaces + (-f).toNat)
  let whole := product / unit
  let fraction := product % unit / twoTo (-f).toNat
  if 1100 < whole then infinite negative
  else if whole < -1200 then zero negative
  else ofScaled (signed negative (twoToFraction fraction.toNat)) (whole - logPlaces) negative

/-- A power with a whole exponent, rounded once. -/
def powWhole (negative : Bool) (m : Nat) (e : Int) (n : Int) : Binary64 :=
  let (num, den) := ratio m e
  if 0 ≤ n then ofRatio negative (Nat.pow num n.toNat) (Nat.pow den n.toNat)
  else ofRatio negative (Nat.pow den n.natAbs) (Nat.pow num n.natAbs)

/-- Whether a number is whole and odd. -/
def isOdd (x : Binary64) : Bool := x.toInt?.any fun n => n % 2 == 1

/-- A power. Anything to the power of zero is one, and one to any power is one. -/
def powReal (x y : Binary64) : Binary64 :=
  if y.isZero || x.same one then one
  else match x, y with
    | nan, _ => nan
    | _, nan => nan
    | finite _ m e, infinite t =>
      let size := finite false m e
      if size.same one then one
      else if less one size == !t then infinite false
      else zero false
    | infinite _, infinite t => if t then zero false else infinite false
    | infinite s, finite t _ _ =>
      let negative := s && y.isOdd
      if t then zero negative else infinite negative
    | finite s m e, finite t n f =>
      let negative := s && y.isOdd
      if m = 0 then (if t then infinite negative else zero negative)
      else match y.toInt? with
        | some k => if k.natAbs ≤ 1100 then powWhole negative m e k else powByLog negative m e (signed t n) f
        | none => if s then nan else powByLog false m e (signed t n) f

end DocSite.Binary64
