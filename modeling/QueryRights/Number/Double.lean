/-!
# Double-precision numbers

The finite numbers of the 64-bit binary format, exactly.  Every magnitude is a whole number of
*units* of 2^-1074, the smallest positive double, so all arithmetic here is on natural numbers
followed by one rounding.

Infinities and what is not a number have no place in this type.  Where an operation would lead
beyond the largest double there is no result, and it is for the caller to say what that means.  The
bits of a double are not modelled either: sign, significand and exponent say the same, and they are
in a form in which every number but zero can be written in one way only.

## What is here

* `Double`: sign, significand and exponent in the one canonical form, so that equality of doubles
  is equality of what they are made of; the two zeros are different.
* `Double.same`: equality as numbers, for which the two zeros are the same.
* `roundDiv`: a quotient rounded to the nearest integer, a half going to the even neighbour.
* `Double.nearest`: the double nearest to a quotient of units, or none beyond the largest double.
* `Double.ofNat?`, `Double.mul?`, `Double.div?`, each correctly rounded, and `Double.ofDecimal`,
  the nearest double to a decimal.
-/

set_option autoImplicit false

namespace QueryRights

/-- The integer nearest to `num / den`; a half goes to the even neighbour. -/
def roundDiv (num den : Nat) : Nat :=
  let q := num / den
  let r := num % den
  if den < 2 * r then q + 1
  else if 2 * r = den then q + q % 2
  else q

/-- Two to the power of 52, the least significand of a normal number. -/
abbrev Double.leastNormal : Nat := 4503599627370496

/-- Fifty-three bits, the first of them set unless the number is subnormal, and an exponent up to
that of the largest double. -/
abbrev Double.Canonical (significand exponent : Nat) : Prop :=
  significand < 2 * Double.leastNormal ∧ exponent ≤ 2045 ∧
    (exponent = 0 ∨ Double.leastNormal ≤ significand)

/-- A finite double: `significand * 2 ^ exponent` units of 2^-1074, with a sign. -/
structure Double where
  negative : Bool
  significand : Nat
  exponent : Nat
  canonical : Double.Canonical significand exponent
  deriving DecidableEq

namespace Double

/-- The magnitude in units of 2^-1074. -/
def units (x : Double) : Nat := x.significand <<< x.exponent

/-- The two zeros. -/
def zero (negative : Bool) : Double := ⟨negative, 0, 0, ⟨by decide, by decide, .inl rfl⟩⟩

/-- Whether the number is one of the zeros. -/
def isZero (x : Double) : Bool := x.significand == 0

/-- The number with the other sign. -/
def neg (x : Double) : Double := { x with negative := !x.negative }

/-- Equality as numbers: the two zeros are the same. -/
def same (x y : Double) : Bool := (x.isZero && y.isZero) || decide (x = y)

/-- The double nearest to `num / den` units, a half going to the even significand; none where
that would be beyond the largest double. -/
def nearest (negative : Bool) (num den : Nat) : Option Double :=
  let shift := (num / den).log2 - 52
  let m := roundDiv num (den <<< shift)
  let significand := if m = 2 * leastNormal then leastNormal else m
  let exponent := if m = 2 * leastNormal then shift + 1 else shift
  if h : Canonical significand exponent then
    some ⟨negative, significand, exponent, h⟩
  else none

/-- The double nearest to a natural number. -/
def ofNat? (n : Nat) : Option Double := nearest false (n <<< 1074) 1

/-- The rounded product. -/
def mul? (x y : Double) : Option Double :=
  nearest (x.negative != y.negative) (x.units * y.units) (1 <<< 1074)

/-- The rounded quotient, for a divisor other than zero. -/
def div? (x y : Double) : Option Double :=
  nearest (x.negative != y.negative) (x.units <<< 1074) y.units

/-- The number of decimal digits of a natural number. -/
def digitCount (n : Nat) : Nat := (Nat.toDigits 10 n).length

/-- The double nearest to `digits * 10 ^ exponent`, or none beyond the largest double.  Decimals
too large or too small for any double are settled by the count of their digits, before a power of
ten is formed. -/
def ofDecimal (negative : Bool) (digits : Nat) (exponent : Int) : Option Double :=
  if digits = 0 then some (zero negative)
  else if exponent + digitCount digits < -330 then some (zero negative)
  else if 310 < exponent + digitCount digits then none
  else if 0 ≤ exponent then nearest negative ((digits * Nat.pow 10 exponent.toNat) <<< 1074) 1
  else nearest negative (digits <<< 1074) (Nat.pow 10 (-exponent).toNat)

end Double
end QueryRights
