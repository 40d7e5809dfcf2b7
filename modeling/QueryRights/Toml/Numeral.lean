import QueryRights.Number.Word
import QueryRights.Text.Digits
import QueryRights.Toml.Basic

/-!
# Numbers of TOML

Integers have 64 bits and a sign, in bases ten, sixteen, eight and two.  A number with a fraction
or an exponent is a float, read with correct rounding.  Digits may be grouped by underscores, each
of which stands between two digits.

Which kind of number it is can only be told at its end, so the kinds are tried one after the other:
a float first, then the names of the special floats, and integers last.  A numeral that is a float
in form but lies beyond all doubles is not tried again as something else.

## What is here

* `scanDecimal`: a sign and digits, with underscores between digits.
* `scanFloatParts`, `scanSpecial`: floats, and the infinities with what is not a number.
* `scanNumber`: a number of any kind as an item.
-/

set_option autoImplicit false

namespace QueryRights
namespace Toml

/-- Digits that satisfy a test, with single underscores between them. -/
def scanGrouped (test : Char → Bool) : List Char → List Char × List Char
  | '_' :: c :: s =>
    if test c then
      let (ds, rest) := scanGrouped test s
      (c :: ds, rest)
    else ([], '_' :: c :: s)
  | c :: s =>
    if test c then
      let (ds, rest) := scanGrouped test s
      (c :: ds, rest)
    else ([], c :: s)
  | [] => ([], [])

/-- Digits with single underscores between them, at least one digit. -/
def scanDigits (test : Char → Bool) : List Char → Option (List Char × List Char)
  | c :: s =>
    if test c then
      let (ds, rest) := scanGrouped test s
      some (c :: ds, rest)
    else none
  | [] => none

/-- A sign if there is one. -/
def scanSign : List Char → Bool × List Char
  | '-' :: s => (true, s)
  | '+' :: s => (false, s)
  | s => (false, s)

/-- A decimal integer: its sign and its digits, which do not begin with zero unless it is zero. -/
def scanDecimal (s : List Char) : Option ((Bool × List Char) × List Char) :=
  let (negative, s) := scanSign s
  match s with
  | '0' :: s => some ((negative, ['0']), s)
  | s => (scanDigits Text.isDigit s).map fun (ds, s) => ((negative, ds), s)

/-- The infinities and what is not a number. -/
def scanSpecial (s : List Char) : Option (List Char) :=
  match (scanSign s).2 with
  | 'i' :: 'n' :: 'f' :: s => some s
  | 'n' :: 'a' :: 'n' :: s => some s
  | _ => none

/-- The exponent of a float. -/
def scanExponent : List Char → Option (Int × List Char)
  | c :: s =>
    if c = 'e' ∨ c = 'E' then do
      let (negative, s) := scanSign s
      let (ds, s) ← scanDigits Text.isDigit s
      let n : Int := Text.valueOf ds
      return (if negative then -n else n, s)
    else none
  | [] => none

/-- The digits after the point of a float. -/
def scanFraction : List Char → Option (List Char × List Char)
  | '.' :: s => scanDigits Text.isDigit s
  | _ => none

/-- A float: a decimal integer, and a fraction or an exponent or both. -/
def scanFloatParts (s : List Char) : Option ((Bool × List Char × Int) × List Char) := do
  let ((negative, whole), s) ← scanDecimal s
  match scanFraction s with
  | some (fraction, s) =>
    match scanExponent s with
    | some (e, s) => return ((negative, whole ++ fraction, e - fraction.length), s)
    | none => return ((negative, whole ++ fraction, -(fraction.length : Int)), s)
  | none =>
    let (e, s) ← scanExponent s
    return ((negative, whole, e), s)

/-- The item that a float denotes.  A positive float beyond the largest double is refused, a
negative one is an infinity. -/
def floatItem? (negative : Bool) (digits : List Char) (exponent : Int) : Option Item :=
  match Double.ofDecimal negative (Text.valueOf digits) exponent with
  | some x => some (.float (some x))
  | none => if negative then some (.float none) else none

/-- An integer of 64 bits with a sign. -/
def integerItem? (n : Int) : Option Item :=
  if Word.FitsSigned n then some (.integer n) else none

/-- Digits of an integer in a base other than ten. -/
def scanBase (base : Nat) (s : List Char) : Option (Item × List Char) := do
  let (ds, s) ← scanDigits (fun c => (Text.digitValue? base c).isSome) s
  let i ← integerItem? (Text.valueFrom base 0 ds)
  return (i, s)

/-- A number. -/
def scanNumber (s : List Char) : Option (Item × List Char) :=
  match scanFloatParts s with
  | some ((negative, digits, exponent), rest) =>
    (floatItem? negative digits exponent).map fun i => (i, rest)
  | none =>
    match scanSpecial s with
    | some rest => some (.float none, rest)
    | none =>
      match s with
      | '0' :: 'x' :: s => scanBase 16 s
      | '0' :: 'o' :: s => scanBase 8 s
      | '0' :: 'b' :: s => scanBase 2 s
      | s => do
        let ((negative, ds), s) ← scanDecimal s
        let n : Int := Text.valueOf ds
        let i ← integerItem? (if negative then -n else n)
        return (i, s)

end Toml
end QueryRights
