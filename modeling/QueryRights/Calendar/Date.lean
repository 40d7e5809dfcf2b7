import QueryRights.Text.Digits

/-!
# Calendar dates

Days of the proleptic Gregorian calendar, in the years -9999 to 9999.

A date carries the proof that its day exists, so there is no 30th of February to be found anywhere,
and no year or month out of range.  The order goes by year, month and day, and it decides between
any two dates that are different.  That it is the order in which the days pass is proved in
`QueryRights.Proofs.Calendar.Days`.

## What is here

* `isLeap`, `daysInMonth`, and `Date`, whose fields always name a day that exists.
* `Date.before`: the order of dates, by year, month and day.
* `Date.text`: a date as it is written.
-/

set_option autoImplicit false

namespace QueryRights

/-- Whether a year has a 29th of February. -/
def isLeap (year : Int) : Bool :=
  year % 4 == 0 && (year % 100 != 0 || year % 400 == 0)

/-- The number of days of a month. -/
def daysInMonth (year : Int) (month : Nat) : Nat :=
  if month = 2 then (if isLeap year then 29 else 28)
  else if month = 4 ∨ month = 6 ∨ month = 9 ∨ month = 11 then 30
  else 31

/-- A day of the calendar. -/
structure Date where
  year : Int
  month : Nat
  day : Nat
  exists_day : (-9999 ≤ year ∧ year ≤ 9999) ∧ (1 ≤ month ∧ month ≤ 12) ∧
    (1 ≤ day ∧ day ≤ daysInMonth year month)
  deriving DecidableEq

namespace Date

/-- The date with the given year, month and day, if there is such a day. -/
def ofParts? (year : Int) (month day : Nat) : Option Date :=
  if h : (-9999 ≤ year ∧ year ≤ 9999) ∧ (1 ≤ month ∧ month ≤ 12) ∧
      (1 ≤ day ∧ day ≤ daysInMonth year month) then
    some ⟨year, month, day, h⟩
  else none

/-- Whether the first date is earlier than the second. -/
def before (a b : Date) : Bool :=
  decide (a.year < b.year) ||
    (decide (a.year = b.year) &&
      (decide (a.month < b.month) || (decide (a.month = b.month) && decide (a.day < b.day))))

/-- Of two different dates one is the earlier. -/
theorem eq_of_unordered {a b : Date} (hab : a.before b = false) (hba : b.before a = false) :
    a = b := by
  obtain ⟨y, m, d, _⟩ := a
  obtain ⟨y', m', d', _⟩ := b
  simp only [before, Bool.or_eq_false_iff, Bool.and_eq_false_iff, decide_eq_false_iff_not]
    at hab hba
  obtain ⟨rfl, rfl, rfl⟩ : y = y' ∧ m = m' ∧ d = d' := by omega
  rfl

/-- A date as it is written: four digits of the year, or for a year before zero a sign and six
digits; then month and day. -/
def text (d : Date) : String :=
  (if d.year < 0 then "-" ++ Text.padded 6 d.year.natAbs else Text.padded 4 d.year.natAbs) ++
    "-" ++ Text.padded 2 d.month ++ "-" ++ Text.padded 2 d.day

end Date
end QueryRights
