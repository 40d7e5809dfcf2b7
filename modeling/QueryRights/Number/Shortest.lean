import QueryRights.Number.Double

/-!
# The shortest decimal of a double

A double is written with the fewest decimal digits that read back to it, and of those decimals with
the nearest one.

The digits are found by search, from coarse decimal grids to finer ones, in exact arithmetic on
natural numbers.  That the search comes to an end after seventeen digits is a fact about the format
that nothing here depends on.  It is also not said that a reader of JSON gets the double back from
its decimal, since that reader does not round correctly (`QueryRights.Json.Numeral`).

## What is here

* `Double.rounds`: whether a decimal lies in the interval of numbers that round to a double.
* `Double.shortest`: the digits and the exponent of the shortest decimal.  For one digit, two
  digits, and so on, the two neighbours of the double on that decimal grid are tried; seventeen
  digits always suffice.
* `NumberFormat` and `Double.text`: where a point or an exponent is written.
-/

set_option autoImplicit false

namespace QueryRights
namespace Double

/-- The exponent of the leading decimal digit of a number other than zero. -/
def leadingExponent (x : Double) : Int :=
  if 1 <<< 1074 ≤ x.units then digitCount (x.units >>> 1074) - 1
  else -(digitCount (((1 <<< 1074) + x.units - 1) / x.units - 1) : Int)

/-- The interval of numbers that round to `x`, in quarters of a unit: half a step to each side,
and below a power of two only a quarter. -/
def interval (x : Double) : Nat × Nat :=
  let step := 1 <<< x.exponent
  let below := if x.significand = leastNormal ∧ x.exponent ≠ 0 then step else 2 * step
  (4 * x.units - below, 4 * x.units + 2 * step)

/-- Whether `digits * 10 ^ exponent` rounds to `x`.  The ends of the interval do when the
significand is even. -/
def rounds (x : Double) (digits : Nat) (exponent : Int) : Bool :=
  let point := (digits * Nat.pow 10 exponent.toNat) <<< 1076
  let scale := Nat.pow 10 (-exponent).toNat
  let low := x.interval.1 * scale
  let high := x.interval.2 * scale
  if x.significand % 2 = 0 then decide (low ≤ point) && decide (point ≤ high)
  else decide (low < point) && decide (point < high)

/-- The distance of `digits * 10 ^ exponent` from the magnitude of `x`, on the scale of that
exponent. -/
def distance (x : Double) (digits : Nat) (exponent : Int) : Nat :=
  let point := (digits * Nat.pow 10 exponent.toNat) <<< 1074
  let value := x.units * Nat.pow 10 (-exponent).toNat
  (point - value) + (value - point)

/-- The decimal with the given exponent that rounds to `x`: of the two neighbours of `x` the
nearer one, and the even one when both are as near. -/
def onGrid? (x : Double) (exponent : Int) : Option Nat :=
  let below := (x.units * Nat.pow 10 (-exponent).toNat) / ((Nat.pow 10 exponent.toNat) <<< 1074)
  let above := below + 1
  match x.rounds below exponent, x.rounds above exponent with
  | true, true =>
    let db := x.distance below exponent
    let da := x.distance above exponent
    some (if db < da then below else if da < db then above else below + below % 2)
  | true, false => some below
  | false, true => some above
  | false, false => none

/-- The first decimal grid, from `exponent` downwards, with a decimal that rounds to `x`. -/
def firstGrid (x : Double) : Nat → Int → Nat × Int
  | 0, exponent => (0, exponent)
  | fuel + 1, exponent =>
    match x.onGrid? exponent with
    | some digits => (digits, exponent)
    | none => firstGrid x fuel (exponent - 1)

/-- The decimal without zeros at its end. -/
def stripZeros : Nat → Nat → Int → Nat × Int
  | 0, digits, exponent => (digits, exponent)
  | fuel + 1, digits, exponent =>
    if digits ≠ 0 ∧ digits % 10 = 0 then stripZeros fuel (digits / 10) (exponent + 1)
    else (digits, exponent)

/-- Digits and exponent of the shortest decimal that rounds to `x`; for the zeros, zero. -/
def shortest (x : Double) : Nat × Int :=
  if x.isZero then (0, 0)
  else
    let (digits, exponent) := firstGrid x 18 x.leadingExponent
    stripZeros 18 digits exponent

end Double

/-- How a decimal is laid out. -/
structure NumberFormat where
  /-- A point is written when the leading digit stands at most this many places left of it … -/
  mostWhole : Nat
  /-- … or when fewer than this many zeros stand between it and the first digit. -/
  mostZeros : Nat
  /-- What follows a whole number that is written with a point. -/
  wholeEnd : String
  /-- What marks an exponent that is not negative. -/
  exponentMark : String
  /-- What marks a negative exponent. -/
  negativeExponentMark : String

/-- Numbers in JSON texts have a point below 10^16 and above 10^-6, and whole numbers end in
`.0`. -/
def NumberFormat.json : NumberFormat := ⟨16, 5, ".0", "e+", "e-"⟩

namespace Double

/-- The digits of a number laid out by a format. -/
def layout (f : NumberFormat) (digits : Nat) (exponent : Int) : String :=
  let ds := Nat.toDigits 10 digits
  let point : Int := ds.length + exponent
  if 0 ≤ exponent ∧ point ≤ f.mostWhole then
    String.ofList (ds ++ List.replicate exponent.toNat '0') ++ f.wholeEnd
  else if 0 < point ∧ point ≤ f.mostWhole then
    String.ofList (ds.take point.toNat ++ '.' :: ds.drop point.toNat)
  else if point ≤ 0 ∧ -point < f.mostZeros then
    String.ofList ('0' :: '.' :: List.replicate (-point).toNat '0' ++ ds)
  else
    let mantissa := match ds with
      | [] => []
      | [d] => [d]
      | d :: rest => d :: '.' :: rest
    String.ofList mantissa ++
      (if 0 ≤ point - 1 then f.exponentMark else f.negativeExponentMark) ++
      toString (point - 1).natAbs

/-- The text of a number: its shortest decimal. -/
def text (f : NumberFormat) (x : Double) : String :=
  let (digits, exponent) := x.shortest
  (if x.negative then "-" else "") ++ layout f digits exponent

end Double
end QueryRights
