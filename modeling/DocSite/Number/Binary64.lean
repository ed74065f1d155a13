/-
# DocSite.Number.Binary64 -- floating-point numbers of 64 bits

A finite number is a whole number times a power of two, in the one form that the format has for
it. Decimal numbers are read to the nearest number of the format, exactly; a number is written
with the fewest digits that are read as the same number again.
-/
import DocSite.Number.Power
import DocSite.Text.Basic

set_option autoImplicit false

namespace DocSite

open Text

/-- A floating-point number: `mantissa * 2 ^ exponent` with a sign, or a value that is not
finite. -/
inductive Binary64 where
  | finite (negative : Bool) (mantissa : Nat) (exponent : Int)
  | infinite (negative : Bool)
  | nan
deriving DecidableEq, Repr

namespace Binary64

/-- The exponent of the smallest numbers. -/
def minExponent : Int := -1074

/-- The exponent of the greatest numbers. -/
def maxExponent : Int := 971

/-- The least mantissa of a number that is not one of the smallest. -/
def normal : Nat := twoTo 52

/-- A quotient rounded to the nearest whole number, a half to the even one. -/
def roundDiv (num den : Nat) : Nat :=
  let q := num / den
  let r := num % den
  if 2 * r < den then q
  else if den < 2 * r then q + 1
  else if q % 2 = 0 then q else q + 1

/-- The number nearest to a positive quotient. -/
def ofRatio (negative : Bool) (num den : Nat) : Binary64 :=
  if num = 0 then finite negative 0 minExponent
  else
    let guess : Int := (Nat.log2 num : Int) - Nat.log2 den - 53
    let scaled (e : Int) : Nat × Nat :=
      if 0 ≤ e then (num, den * twoTo e.toNat) else (num * twoTo (-e).toNat, den)
    let fits (e : Int) : Bool := (scaled e).1 / (scaled e).2 < 2 * normal
    let e := if fits guess then guess else guess + 1
    let e := max e minExponent
    let m := roundDiv (scaled e).1 (scaled e).2
    let (m, e) := if m = 2 * normal then (normal, e + 1) else (m, e)
    if maxExponent < e then infinite negative else finite negative m e

/-- The number nearest to `digits * 10 ^ exponent`. -/
def ofDecimal (negative : Bool) (digits : Nat) (exponent : Int) : Binary64 :=
  if digits = 0 then finite negative 0 minExponent
  else
    let size : Int := (Nat.toDigits 10 digits).length + exponent
    if 400 < size then infinite negative
    else if size < -400 then finite negative 0 minExponent
    else if 0 ≤ exponent then ofRatio negative (digits * tenTo exponent.toNat) 1
    else ofRatio negative digits (tenTo (-exponent).toNat)

/-- The number nearest to a whole number. -/
def ofInt (n : Int) : Binary64 := ofRatio (n < 0) n.natAbs 1

/-- Whether a number is neither infinite nor missing. -/
def isFinite : Binary64 → Bool
  | finite _ _ _ => true
  | _ => false

/-- Equality as numbers: the two zeros are the same, and a missing number equals nothing. -/
def same : Binary64 → Binary64 → Bool
  | nan, _ => false
  | _, nan => false
  | finite _ 0 _, finite _ 0 _ => true
  | a, b => a = b

/-- The whole number that a number is, if it is one. -/
def toInt? : Binary64 → Option Int
  | finite negative m e =>
    let magnitude? : Option Nat :=
      if 0 ≤ e then some (m * twoTo e.toNat)
      else if m % twoTo (-e).toNat = 0 then some (m / twoTo (-e).toNat) else none
    magnitude?.map fun n => if negative then -(n : Int) else n
  | _ => none

/-- The numerator and denominator of the absolute value of a finite number. -/
def ratio (m : Nat) (e : Int) : Nat × Nat :=
  if 0 ≤ e then (m * twoTo e.toNat, 1) else (m, twoTo (-e).toNat)

/-- Whether one finite number is smaller than another. -/
def less : Binary64 → Binary64 → Bool
  | finite n₁ m₁ e₁, finite n₂ m₂ e₂ =>
    let (a, b) := ratio m₁ e₁
    let (c, d) := ratio m₂ e₂
    let x : Int := (if n₁ then -1 else 1) * (a * d : Nat)
    let y : Int := (if n₂ then -1 else 1) * (c * b : Nat)
    x < y
  | infinite n₁, infinite n₂ => n₁ && !n₂
  | infinite n₁, finite _ _ _ => n₁
  | finite _ _ _, infinite n₂ => !n₂
  | _, _ => false

/-! ## Shortest decimals -/

/-- The power of ten that the first digit of a positive number counts; `fuel` bounds the search
from `guess` upwards. -/
def leadingPower (num den : Nat) : (fuel : Nat) → (guess : Int) → Int
  | 0, guess => guess
  | fuel + 1, guess =>
    let next := guess + 1
    let reached : Bool :=
      if 0 ≤ next then den * tenTo next.toNat ≤ num else den ≤ num * tenTo (-next).toNat
    if reached then leadingPower num den fuel next else guess

/-- The decimal of `size` digits nearest to `m * 2 ^ e` that is read as this number, as its digits
and the power of ten of the last of them. -/
def decimalOf? (m : Nat) (e : Int) (leading : Int) (size : Nat) : Option (Nat × Int) :=
  let unit : Int := leading - size + 1
  let quarter : Int := e - 2
  let a := (if 0 ≤ unit then tenTo unit.toNat else 1) * (if quarter < 0 then twoTo (-quarter).toNat else 1)
  let b := (if 0 ≤ quarter then twoTo quarter.toNat else 1) * (if unit < 0 then tenTo (-unit).toNat else 1)
  let value := 4 * m * b
  let low := (if m = normal && minExponent < e then 4 * m - 1 else 4 * m - 2) * b
  let high := (4 * m + 2) * b
  let inside (c : Nat) : Bool :=
    if m % 2 = 0 then low ≤ c * a && c * a ≤ high else low < c * a && c * a < high
  let below := value / a
  let above := below + 1
  match inside below, inside above with
  | true, true =>
    let toBelow := value - below * a
    let toAbove := above * a - value
    some (if toBelow < toAbove || (toBelow = toAbove && below % 2 = 0) then below else above, unit)
  | true, false => some (below, unit)
  | false, true => some (above, unit)
  | false, false => none

/-- The first of the decimals with `size`, `size + 1`, … digits that is read as `m * 2 ^ e`. -/
def shortestFrom (m : Nat) (e : Int) (leading : Int) : (fuel size : Nat) → Nat × Int
  | 0, size => ((decimalOf? m e leading size).getD (0, 0))
  | fuel + 1, size =>
    match decimalOf? m e leading size with
    | some found => found
    | none => shortestFrom m e leading fuel (size + 1)

/-- A decimal without the zeros at its end; `fuel` bounds their number. -/
def dropZeros : (fuel : Nat) → Nat × Int → Nat × Int
  | 0, d => d
  | fuel + 1, (digits, power) =>
    if digits ≠ 0 && digits % 10 = 0 then dropZeros fuel (digits / 10, power + 1)
    else (digits, power)

/-- The shortest decimal that is read as the positive number `m * 2 ^ e`: its digits, and the
power of ten of the last of them. -/
def shortest (m : Nat) (e : Int) : Nat × Int :=
  let (num, den) := ratio m e
  let estimate : Int := (((Nat.log2 num : Int) - Nat.log2 den) * 1233) / 4096
  let leading := leadingPower num den 5 (estimate - 2)
  dropZeros 20 (shortestFrom m e leading 17 1)

end Binary64

/-! ## Layouts -/

/-- How numbers are laid out: which places of the decimal point are written out, what is appended
to whole numbers, and the texts of values that are not finite. The place of the decimal point is
counted from the first digit. -/
structure NumberLayout where
  leastPlace : Int
  greatestPlace : Int
  wholeSuffix : Text
  infinity : Text
  missing : Text

namespace NumberLayout

/-- `n` zeros. -/
def zeros (n : Nat) : Text := List.replicate n '0'

/-- A whole number in decimal digits. -/
def ofNat (n : Nat) : Text := Nat.toDigits 10 n

/-- A whole number in decimal digits, with a sign if it is negative. -/
def ofInt (n : Int) : Text := if n < 0 then '-' :: ofNat n.natAbs else ofNat n.natAbs

/-- A positive decimal. -/
def decimal (layout : NumberLayout) (digits : Nat) (power : Int) : Text :=
  let text := ofNat digits
  let size : Int := text.length
  let place := size + power
  if layout.leastPlace < place && place ≤ layout.greatestPlace then
    if 0 ≤ power then text ++ zeros power.toNat ++ layout.wholeSuffix
    else if 0 < place then text.take place.toNat ++ '.' :: text.drop place.toNat
    else '0' :: '.' :: zeros (-place).toNat ++ text
  else
    let exponent := 'e' :: ofInt (place - 1)
    match text with
    | [d] => d :: exponent
    | d :: rest => d :: '.' :: rest ++ exponent
    | [] => exponent

/-- A number as text. -/
def text (layout : NumberLayout) : Binary64 → Text
  | .nan => layout.missing
  | .infinite negative => (if negative then ['-'] else []) ++ layout.infinity
  | .finite negative m e =>
    (if negative then ['-'] else []) ++
      (if m = 0 then '0' :: layout.wholeSuffix
        else
          let (digits, power) := Binary64.shortest m e
          layout.decimal digits power)

end NumberLayout

/-! ## Reading -/

namespace Binary64

/-- Reads the digits of a decimal number with an optional point and exponent, without a sign. At
least one digit stands before the exponent. -/
def ofDigits? (negative : Bool) (cs : Text) : Option Binary64 :=
  let whole := cs.takeWhile Char.isDigit
  let rest := cs.drop whole.length
  let (fraction, rest) := match rest with
    | '.' :: after =>
      let fraction := after.takeWhile Char.isDigit
      (fraction, after.drop fraction.length)
    | _ => ([], rest)
  if whole.isEmpty && fraction.isEmpty then none
  else
    let exponent? : Option Int := match rest with
      | [] => some 0
      | e :: after =>
        if e = 'e' || e = 'E' then
          let (minus, digits) := match after with
            | '-' :: digits => (true, digits)
            | '+' :: digits => (false, digits)
            | digits => (false, digits)
          if digits.isEmpty || !digits.all Char.isDigit then none
          else
            let n : Int := readDecimal (digits.dropWhile (· == '0') |>.take 6)
            let n := if 6 < (digits.dropWhile (· == '0')).length then 1000000 else n
            some (if minus then -n else n)
        else none
    exponent?.map fun exponent =>
      ofDecimal negative (readDecimal (whole ++ fraction)) (exponent - fraction.length)

/-- Reads a decimal number with an optional sign. -/
def ofText? : Text → Option Binary64
  | '-' :: rest => ofDigits? true rest
  | '+' :: rest => ofDigits? false rest
  | cs => ofDigits? false cs

end Binary64

end DocSite
