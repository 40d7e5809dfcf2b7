import QueryRights.Json.Basic
import QueryRights.Text.Digits
import QueryRights.Text.Symbol

/-!
# Numbers in JSON texts

## What is here

* `Numeral`: a number as it is written, and `Numeral.scan`, which takes one off the front of a
  text.
* `Numeral.number?`: the number it denotes.  A numeral without fraction and exponent is an integer
  if 64 bits hold it.  Any other numeral is a double, found in two steps: the leading digits that
  64 bits hold are rounded to a double, and this is multiplied or divided by a power of ten, with
  one more rounding.  Digits beyond those 64 bits only count as places.  The answer can therefore
  differ in its last bits from the double nearest to the numeral; it is none beyond the largest
  double.
-/

set_option autoImplicit false

namespace QueryRights

/-- A number as a JSON text writes it. -/
structure Numeral where
  negative : Bool
  /-- The digits before the point, at least one. -/
  whole : List Char
  /-- The digits after the point, if there is a point. -/
  fraction : Option (List Char)
  /-- The exponent, if there is one. -/
  exponent : Option Int
  deriving DecidableEq

namespace Numeral

/-! ## Scanning -/

/-- The digits in front of a text, and what follows them. -/
def digits : List Symbol → List Char × List Symbol
  | .char c :: rest =>
    if Text.isDigit c then
      let (ds, s) := digits rest
      (c :: ds, s)
    else ([], .char c :: rest)
  | s => ([], s)

/-- The digits before the point: zero, or digits that do not begin with zero. -/
def scanWhole (s : List Symbol) : Option (List Char × List Symbol) :=
  match digits s with
  | ([], _) => none
  | (c :: d :: ds, rest) => if c = '0' then none else some (c :: d :: ds, rest)
  | (ds, rest) => some (ds, rest)

/-- A point and the digits after it, if there is a point. -/
def scanFraction : List Symbol → Option (Option (List Char) × List Symbol)
  | .char '.' :: s =>
    match digits s with
    | ([], _) => none
    | (ds, rest) => some (some ds, rest)
  | s => some (none, s)

/-- The digits of an exponent, after its sign. -/
def scanExponentDigits (negative : Bool) (s : List Symbol) : Option (Option Int × List Symbol) :=
  match digits s with
  | ([], _) => none
  | (ds, rest) =>
    let n : Int := Text.valueOf ds
    some (some (if negative then -n else n), rest)

/-- An exponent, if there is one. -/
def scanExponent : List Symbol → Option (Option Int × List Symbol)
  | .char c :: s =>
    if c = 'e' ∨ c = 'E' then
      match s with
      | .char '+' :: s => scanExponentDigits false s
      | .char '-' :: s => scanExponentDigits true s
      | s => scanExponentDigits false s
    else some (none, .char c :: s)
  | s => some (none, s)

/-- The sign in front of a number. -/
def scanSign : List Symbol → Bool × List Symbol
  | .char '-' :: s => (true, s)
  | s => (false, s)

/-- Takes a numeral off the front of a text. -/
def scan (s : List Symbol) : Option (Numeral × List Symbol) := do
  let (negative, s) := scanSign s
  let (whole, s) ← scanWhole s
  let (fraction, s) ← scanFraction s
  let (exponent, s) ← scanExponent s
  return (⟨negative, whole, fraction, exponent⟩, s)

/-! ## The number denoted -/

/-- Appends digits before the point to a significand as long as 64 bits hold it.  The result says
how many digits were left over. -/
def takeWhole (significand : Nat) : List Char → Nat × Nat
  | [] => (significand, 0)
  | c :: rest =>
    let next := significand * 10 + Text.digitValue c
    if next < Word.limit then takeWhole next rest else (significand, rest.length + 1)

/-- Appends digits after the point to a significand as long as 64 bits hold it.  The result says
how many were appended. -/
def takeFraction (significand : Nat) : List Char → Nat × Nat
  | [] => (significand, 0)
  | c :: rest =>
    let next := significand * 10 + Text.digitValue c
    if next < Word.limit then
      let (total, taken) := takeFraction next rest
      (total, taken + 1)
    else (significand, 0)

/-- The largest exponent of a power of ten that is a finite double. -/
def largestPower : Nat := 308

/-- The double nearest to a power of ten up to the largest. -/
def powerOfTen? (n : Nat) : Option Double := Double.ofNat? (Nat.pow 10 n)

/-- A double times a power of ten, rounding once for each power of ten that is needed; none
beyond the largest double. -/
def scale (x : Double) (exponent : Int) : Option Double :=
  if exponent.natAbs ≤ largestPower then do
    let p ← powerOfTen? exponent.natAbs
    if 0 ≤ exponent then x.mul? p else x.div? p
  else if x.isZero then some x
  else if _h : 0 ≤ exponent then none
  else do
    let p ← powerOfTen? largestPower
    let y ← x.div? p
    scale y (exponent + largestPower)
termination_by exponent.natAbs
decreasing_by simp only [largestPower] at *; omega

/-- The double that a numeral denotes. -/
def double? (n : Numeral) : Option Double := do
  let (significand, left) := takeWhole 0 n.whole
  let (significand, taken) := takeFraction significand (n.fraction.getD [])
  let x ← Double.ofNat? significand
  let y ← scale x (n.exponent.getD 0 + left - taken)
  return if n.negative then y.neg else y

/-- The integer that a numeral denotes, if it is written as an integer and 64 bits hold it.
Minus zero is no integer. -/
def integer? (n : Numeral) : Option Int :=
  if n.fraction.isNone && n.exponent.isNone then
    let m := Text.valueOf n.whole
    if n.negative then
      if 0 < m ∧ m ≤ Word.signedLimit then some (-(m : Int)) else none
    else if m < Word.limit then some m else none
  else none

/-- The number that a numeral denotes; none if it is beyond the largest double. -/
def number? (n : Numeral) : Option Number :=
  match n.integer? with
  | some m => some (.integer m)
  | none => n.double?.map .double

end Numeral
end QueryRights
