import QueryRights.Json.Basic

/-!
# Refresh intervals

How often a query or a dashboard is refreshed, in whole seconds of 64 bits.

Intervals are numbers with a bound, and they are nothing but that: zero is an interval, and so is a
span of many years.  Whether one is offered to a user is for the configuration and the policy to
say.

## What is here

* `Interval`, and `Interval.ofInt?`, which draws the line at 64 bits.
* `Interval.ofJson?`, `Interval.toValue`: an interval in a payload, where it is a number.
* `Interval.longest?`: the longest of some intervals.
-/

set_option autoImplicit false

namespace QueryRights

/-- A refresh interval. -/
structure Interval where
  seconds : UInt64
  deriving DecidableEq

namespace Interval

/-- The interval of so many seconds, if 64 bits hold their number. -/
def ofInt? (n : Int) : Option Interval :=
  if Word.FitsUnsigned n then some ⟨UInt64.ofNat n.toNat⟩ else none

/-- An interval in a payload. -/
def ofJson? (j : Json) : Option Interval := j.integer?.bind ofInt?

/-- An interval as it is written to a payload. -/
def toValue (i : Interval) : Value := .int i.seconds.toNat

/-- The longest of some intervals. -/
def longest? : List Interval → Option Interval
  | [] => none
  | i :: rest =>
    match longest? rest with
    | none => some i
    | some j => some (if i.seconds.toNat ≤ j.seconds.toNat then j else i)

end Interval
end QueryRights
