import Mathlib.Algebra.BigOperators.Intervals
import Mathlib.Algebra.Order.BigOperators.Group.Finset
import QueryRights.Calendar.Date

/-!
# Counting days

Dates are compared by year, month and day.  That this is the order of the days in the calendar is a
fact about the calendar: however long the months and years between two dates are, the later date is
reached from the earlier one by going on from day to day.

The next day is defined by what everybody knows of it.  The day goes up by one within a month;
after the last day of a month comes the first of the next month, and after the 31st of December the
first of January.  No formula is involved, and `DaysLater` just repeats it.  What connects this
with the comparison is a numbering of the days, and here the rule for leap years comes in: the days
before a year are counted by it, and the days before a month are a sum of the lengths of months.

That the numbering is right is `number_next`: the next day has the next number.  Within a year this
is a property of sums.  At the end of a year the two ways to count meet, and it has to be seen that
the twelve months add up to the year (`daysBeforeYear_succ`), in leap years and in others.  The
same holds for years before zero, since division is by floors.

From there the numbers do the work.  They go up with the order of dates, and they tell dates apart,
so everything about the order and about going on is arithmetic.  What arithmetic does not give is
that there is a next day to go on to: the calendar ends with the year 9999, and `exists_next` uses
that a later date is known.

## What is here

* `Date.Next`: the day after a day, and `Date.DaysLater`: going on so many times.
* `daysBeforeYear` and `Date.number`: days numbered through, by the rule for leap years.
* `Date.number_next`: **the next day has the next number**, across the ends of months and years.
* `Date.daysLater_iff_number`: the days between two dates are the difference of their numbers.
* `Date.before_iff_daysLater`: **the earlier of two dates is the one from which the other is
  reached by going on**.
-/

set_option autoImplicit false

namespace QueryRights

/-! ## Going on from day to day

The calendar as it hangs on the wall.  Nothing in these two definitions counts days or compares
dates. -/

namespace Date

/-- The second date is the day after the first. -/
inductive Next : Date → Date → Prop
  | inMonth {a b : Date} (hyear : b.year = a.year) (hmonth : b.month = a.month)
      (hday : b.day = a.day + 1) : Next a b
  | monthEnd {a b : Date} (hlast : a.day = daysInMonth a.year a.month) (hyear : b.year = a.year)
      (hmonth : b.month = a.month + 1) (hday : b.day = 1) : Next a b
  | yearEnd {a b : Date} (hlast : a.month = 12 ∧ a.day = 31) (hyear : b.year = a.year + 1)
      (hmonth : b.month = 1) (hday : b.day = 1) : Next a b

/-- `DaysLater n a b`: going on `n` times to the next day leads from `a` to `b`. -/
inductive DaysLater : Nat → Date → Date → Prop
  | same (a : Date) : DaysLater 0 a a
  | onward {n : Nat} {a b c : Date} (hnext : Next a b) (hrest : DaysLater n b c) :
      DaysLater (n + 1) a c

end Date

/-! ## Numbering the days

The number of a day is made of its year, its month and its day.  For each of the three it has to be
seen that the number grows with it, and by how much at the end of what comes before. -/

/-- The number of days from the beginning of year zero to the beginning of a year; negative for a
year before.  Every fourth year has a day more, not so every hundredth, and again every four
hundredth. -/
def daysBeforeYear (year : Int) : Int :=
  365 * year + (year + 3) / 4 - (year + 99) / 100 + (year + 399) / 400

/-- The number of days of a year before a month. -/
def daysBeforeMonth (year : Int) (month : Nat) : Nat :=
  ∑ m ∈ Finset.Ico 1 month, daysInMonth year m

theorem daysBeforeMonth_succ (year : Int) {month : Nat} (h : 1 ≤ month) :
    daysBeforeMonth year (month + 1) = daysBeforeMonth year month + daysInMonth year month :=
  Finset.sum_Ico_succ_top h _

theorem daysBeforeMonth_thirteen (year : Int) :
    daysBeforeMonth year 13 = if isLeap year then 366 else 365 := by
  simp only [daysBeforeMonth, daysInMonth]
  cases isLeap year <;> rfl

/-- **The months of a year make up the year**, by the rule for leap years. -/
theorem daysBeforeYear_succ (year : Int) :
    daysBeforeYear (year + 1) = daysBeforeYear year + daysBeforeMonth year 13 := by
  have hleap : isLeap year = true ↔ year % 4 = 0 ∧ (year % 100 ≠ 0 ∨ year % 400 = 0) := by
    simp [isLeap]
  rw [daysBeforeMonth_thirteen, daysBeforeYear, daysBeforeYear]
  split <;> rename_i h <;> rw [hleap] at h <;> omega

theorem daysBeforeYear_mono {y z : Int} (h : y ≤ z) : daysBeforeYear y ≤ daysBeforeYear z := by
  simp only [daysBeforeYear]
  omega

theorem daysBeforeMonth_mono (year : Int) {m n : Nat} (h : m ≤ n) :
    daysBeforeMonth year m ≤ daysBeforeMonth year n :=
  Finset.sum_le_sum_of_subset (Finset.Ico_subset_Ico_right h)

namespace Date

/-- The number of a day, counted from the first day of year zero. -/
def number (d : Date) : Int :=
  daysBeforeYear d.year + daysBeforeMonth d.year d.month + d.day - 1

variable {a b c : Date} {n : Nat}

/-- The last day of a year is numbered last in it. -/
theorem number_of_lastDay (hmonth : a.month = 12) (hday : a.day = 31) :
    a.number + 1 = daysBeforeYear (a.year + 1) := by
  have hmonths : daysBeforeMonth a.year 13 = daysBeforeMonth a.year 12 + 31 :=
    daysBeforeMonth_succ a.year (by decide)
  rw [daysBeforeYear_succ, number, hmonth, hday]
  omega

/-- **The next day has the next number.** -/
theorem number_next (h : Next a b) : b.number = a.number + 1 := by
  cases h with
  | inMonth hyear hmonth hday =>
    rw [number, number, hyear, hmonth, hday]
    omega
  | monthEnd hlast hyear hmonth hday =>
    have hmonths := daysBeforeMonth_succ a.year a.exists_day.2.1.1
    rw [number, number, hyear, hmonth, hday]
    omega
  | yearEnd hlast hyear hmonth hday =>
    have hfirst : daysBeforeMonth (a.year + 1) 1 = 0 := rfl
    rw [number_of_lastDay hlast.1 hlast.2, number, hyear, hmonth, hday, hfirst]
    omega

/-- A day lies before the months after it, -/
theorem number_lt_month (a : Date) {month : Nat} (h : a.month < month) :
    a.number < daysBeforeYear a.year + daysBeforeMonth a.year month := by
  have hmonths := daysBeforeMonth_succ a.year a.exists_day.2.1.1
  have hmono := daysBeforeMonth_mono a.year (show a.month + 1 ≤ month from h)
  have hday := a.exists_day.2.2.2
  rw [number]
  omega

/-- and before the years after it. -/
theorem number_lt_year (a : Date) {year : Int} (h : a.year < year) :
    a.number < daysBeforeYear year := by
  have hlt := a.number_lt_month (show a.month < 13 from Nat.lt_succ_of_le a.exists_day.2.1.2)
  have hyears := daysBeforeYear_succ a.year
  have hmono := daysBeforeYear_mono (show a.year + 1 ≤ year from h)
  omega

/-- Earlier dates have smaller numbers. -/
theorem number_lt_of_before (h : a.before b = true) : a.number < b.number := by
  have hday := b.exists_day.2.2.1
  have hb : b.number = daysBeforeYear b.year + daysBeforeMonth b.year b.month + b.day - 1 := rfl
  simp only [before, Bool.or_eq_true, Bool.and_eq_true, decide_eq_true_eq] at h
  obtain hyear | ⟨hyear, hmonth | ⟨hmonth, hdays⟩⟩ := h
  · have hlt := a.number_lt_year hyear
    omega
  · have hlt := a.number_lt_month hmonth
    rw [hyear] at hlt
    omega
  · rw [number, hyear, hmonth]
    omega

theorem before_iff_number_lt : a.before b = true ↔ a.number < b.number := by
  refine ⟨number_lt_of_before, fun h => ?_⟩
  by_contra hab
  cases hba : b.before a with
  | true => exact absurd (number_lt_of_before hba) (by omega)
  | false =>
    cases eq_of_unordered (Bool.eq_false_iff.2 hab) hba
    omega

theorem number_injective (h : a.number = b.number) : a = b := by
  refine eq_of_unordered (Bool.eq_false_iff.2 fun hab => ?_) (Bool.eq_false_iff.2 fun hba => ?_)
  · exact absurd (number_lt_of_before hab) (by omega)
  · exact absurd (number_lt_of_before hba) (by omega)

/-! ## The order of the days

Going on is compared with the numbers, and through the numbers with the order.  For one direction
every step adds one; for the other a day that has a later one has a next one, which is no further
away. -/

theorem one_le_daysInMonth (year : Int) (month : Nat) : 1 ≤ daysInMonth year month := by
  rw [daysInMonth]
  repeat' split
  all_goals decide

/-- There is a next day, as long as there are later ones. -/
theorem exists_next (h : a.before b = true) : ∃ c, Next a c := by
  obtain ⟨hyears, hmonths, hdays⟩ := a.exists_day
  rcases Nat.lt_or_eq_of_le hdays.2 with hday | hday
  · exact ⟨⟨a.year, a.month, a.day + 1, hyears, hmonths, by omega, hday⟩, .inMonth rfl rfl rfl⟩
  rcases Nat.lt_or_eq_of_le hmonths.2 with hmonth | hmonth
  · exact ⟨⟨a.year, a.month + 1, 1, hyears, ⟨by omega, hmonth⟩, Nat.le_refl 1,
      one_le_daysInMonth _ _⟩, .monthEnd hday rfl rfl rfl⟩
  have hlast : a.day = 31 := by rw [hday, hmonth]; rfl
  have hyear : a.year < 9999 := by
    -- The last day of year 9999 would have no later day.
    by_contra hge
    have hend : a.year + 1 = 10000 := by omega
    have hnumber := hend ▸ number_of_lastDay hmonth hlast
    have hb := b.number_lt_year (show b.year < 10000 by have := b.exists_day.1; omega)
    have hab := number_lt_of_before h
    omega
  exact ⟨⟨a.year + 1, 1, 1, ⟨by omega, hyear⟩, by decide, Nat.le_refl 1, one_le_daysInMonth _ _⟩,
    .yearEnd ⟨hmonth, hlast⟩ rfl rfl rfl⟩

/-- **The days between two dates are the difference of their numbers.** -/
theorem daysLater_iff_number : DaysLater n a b ↔ b.number = a.number + n := by
  constructor
  · intro h
    induction h with
    | same => simp
    | onward hnext _ ih =>
      have hstep := number_next hnext
      omega
  · intro h
    induction n generalizing a with
    | zero =>
      have hab : a = b := number_injective (by omega)
      exact hab ▸ .same a
    | succ n ih =>
      obtain ⟨c, hc⟩ := exists_next (before_iff_number_lt.2 (show a.number < b.number by omega))
      have hstep := number_next hc
      exact .onward hc (ih (by omega))

theorem DaysLater.trans {m : Nat} (hab : DaysLater m a b) (hbc : DaysLater n b c) :
    DaysLater (m + n) a c := by
  rw [daysLater_iff_number] at *
  omega

/-- Going on never leads back. -/
theorem DaysLater.eq_zero (h : DaysLater n a a) : n = 0 := by
  rw [daysLater_iff_number] at h
  omega

/-- **The earlier of two dates is the one from which the other is reached by going on.** -/
theorem before_iff_daysLater : a.before b = true ↔ ∃ n, 1 ≤ n ∧ DaysLater n a b := by
  simp only [before_iff_number_lt, daysLater_iff_number]
  constructor
  · intro h
    exact ⟨(b.number - a.number).toNat, by omega, by omega⟩
  · rintro ⟨n, hn, h⟩
    omega

end Date
end QueryRights
