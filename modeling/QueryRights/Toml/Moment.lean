import QueryRights.Calendar.Date

/-!
# Dates and times of TOML

Dates and times are checked, and written out again in one form.  That they are checked means that
the day exists in the calendar and that the numbers of a time are in range.  The form is the same
however a moment was written: with capital letters, and with the fraction of a second cut after
nine digits and without zeros at its end.

A date, a time, and a date with a time are different things in TOML, and they stay different here;
only a date with a time can have an offset.

## What is here

* `scanDate`, `scanTime`, `scanOffset`.
* `scanMoment`: a date, a time, or both.
-/

set_option autoImplicit false

namespace QueryRights
namespace Toml

/-- A number of exactly `n` digits and at most `limit`. -/
def scanFixed (n limit : Nat) (s : List Char) : Option (Nat × List Char) :=
  let ds := s.take n
  if ds.length = n ∧ ds.all Text.isDigit ∧ Text.valueOf ds ≤ limit then
    some (Text.valueOf ds, s.drop n)
  else none

/-- Drops one given character. -/
def skipMark (mark : Char) : List Char → Option (List Char)
  | c :: s => if c = mark then some s else none
  | [] => none

/-- A date, written out again. -/
def scanDate (s : List Char) : Option (String × List Char) := do
  let (year, s) ← scanFixed 4 9999 s
  let s ← skipMark '-' s
  let (month, s) ← scanFixed 2 12 s
  let s ← skipMark '-' s
  let (day, s) ← scanFixed 2 31 s
  let d ← Date.ofParts? year month day
  return (d.text, s)

/-- The fraction of a second, nine digits at most, without zeros at its end. -/
def fractionText (digits : List Char) : String :=
  let ds := (digits.take 9).reverse.dropWhile (· == '0')
  if ds.isEmpty then "" else String.ofList ('.' :: ds.reverse)

/-- A time of day, written out again. -/
def scanTime (s : List Char) : Option (String × List Char) := do
  let (hour, s) ← scanFixed 2 23 s
  let s ← skipMark ':' s
  let (minute, s) ← scanFixed 2 59 s
  let s ← skipMark ':' s
  let (second, s) ← scanFixed 2 60 s
  let clock := Text.padded 2 hour ++ ":" ++ Text.padded 2 minute ++ ":" ++ Text.padded 2 second
  match s with
  | '.' :: rest =>
    let ds := rest.takeWhile Text.isDigit
    if ds.isEmpty then return (clock, s) else return (clock ++ fractionText ds, rest.drop ds.length)
  | _ => return (clock, s)

/-- The offset of a time if there is one, written out again. -/
def scanOffset : List Char → Option (String × List Char)
  | c :: s =>
    if c = 'Z' ∨ c = 'z' then some ("Z", s)
    else if c = '+' ∨ c = '-' then do
      let (hour, s) ← scanFixed 2 23 s
      let s ← skipMark ':' s
      let (minute, s) ← scanFixed 2 59 s
      let sign := if c = '-' ∧ hour * 60 + minute ≠ 0 then "-" else "+"
      return (sign ++ Text.padded 2 hour ++ ":" ++ Text.padded 2 minute, s)
    else some ("", c :: s)
  | [] => some ("", [])

/-- A date, a time, or a date with a time and perhaps an offset.  A blank after a date belongs to
it only if a time follows. -/
def scanMoment (s : List Char) : Option (String × List Char) :=
  match scanDate s with
  | none => scanTime s
  | some (date, s) =>
    match s with
    | c :: rest =>
      if c = 'T' ∨ c = 't' ∨ c = ' ' then
        match scanTime rest with
        | some (time, s) =>
          (scanOffset s).map fun (offset, s) => (date ++ "T" ++ time ++ offset, s)
        | none => some (date, c :: rest)
      else some (date, c :: rest)
    | [] => some (date, [])

end Toml
end QueryRights
