import Mathlib.Algebra.Group.Nat.Defs
import Mathlib.Data.List.Basic
import QueryRights.Calendar.Reader
import QueryRights.Proofs.Json.Tokens

/-!
# Dates written and read again

A date may be given in many texts: its year with four digits, or with a sign and six; with hyphens
between its parts or without; and with a time of day behind it, to which an offset from universal
time may be added.  All of them are read as the date, since what stands behind the day is checked
and dropped.  The text that is written for the date is one of them.

The texts are described first, with no word about reading: for each part of a date there is an
inductive predicate with one case for each way to write it.  They are put together in the order in
which the parts stand in the text.  The reader is a sequence of scanners, each of which takes
something off the front of a text and leaves the rest, and the proof goes part by part along with
it: each scanner takes just what its predicate describes, *whatever follows it*.  The last words
are the point.  Without them the lemmas about parts could not be put together.

For parts that may be cut short they are not quite true.  After the hours of a time there may be
minutes or nothing, so a text that goes on with a digit or a colon would be taken for more of the
time.  Such lemmas ask that the text ends there or goes on with something else (`Calendar.Ends`).
Numbers of a fixed length have no such problem, and this is why the parts of a date can follow each
other without hyphens.

Annotations in brackets may follow a date as well, for a time zone or a calendar.  They are no part
of what is described here.  Nor is it said that no other texts are read as the date; what matters
is that every spelling of the kinds above is read, and as that date and no other.

## What is here

* `Calendar.scanNumber_padded`: a number with zeros in front of it is read as the number.
* `Calendar.SpellsYear`, `SpellsDay`, `SpellsAfterHours`, `SpellsTime`, `SpellsOffset`: the parts
  of the texts of dates.
* `Date.Spells`: the texts of a date, and `Date.spells_text`: it is written as one of them.
* `Date.ofText?_of_spells`: **every one of them is read as the date**.
-/

set_option autoImplicit false

namespace QueryRights

/-! ## Numbers of a fixed length

Numbers are padded with zeros to a width that is known.  So it is known how many digits to take,
and what follows them may be a digit too. -/

namespace Text

theorem valueFrom_zeros (k : Nat) : valueFrom 10 0 (List.replicate k '0') = 0 := by
  induction k with
  | zero => rfl
  | succ k ih => exact ih

/-- Zeros in front of a number do not change it. -/
theorem valueOf_padded (width n : Nat) : valueOf (padded width n).toList = n := by
  rw [padded, String.toList_ofList, valueOf, valueFrom_append, valueFrom_zeros]
  exact valueOf_toDigits n

theorem isDigit_of_mem_padded {width n : Nat} {c : Char} (h : c ∈ (padded width n).toList) :
    isDigit c = true := by
  rw [padded, String.toList_ofList, List.mem_append] at h
  rcases h with h | h
  · rw [(List.mem_replicate.1 h).2]
    decide
  · exact isDigit_of_mem_toDigits h

theorem length_padded (width n : Nat) (hwidth : 0 < width) (h : n < 10 ^ width) :
    (padded width n).toList.length = width := by
  have hle : (Nat.toDigits 10 n).length ≤ width :=
    (Nat.length_toDigits_le_iff (by decide) hwidth).2 h
  rw [padded, String.toList_ofList, List.length_append, List.length_replicate,
    Nat.sub_add_cancel hle]

end Text

namespace Calendar

/-- A number with as many digits as are expected is read, whatever follows it. -/
theorem scanNumber_padded (width n : Nat) (hwidth : 0 < width) (h : n < 10 ^ width)
    (rest : List Char) :
    scanNumber width ((Text.padded width n).toList ++ rest) = some (n, rest) := by
  have hlength := Text.length_padded width n hwidth h
  have hdigits : (Text.padded width n).toList.all Text.isDigit = true :=
    List.all_eq_true.2 fun c hc => Text.isDigit_of_mem_padded hc
  rw [scanNumber, List.take_left' hlength, List.drop_left' hlength, if_pos ⟨hlength, hdigits⟩,
    Text.valueOf_padded]

/-! ## The texts of dates

One predicate for each part.  Bounds are part of the predicates where the reader checks them, and
only there: the month and the day come from a date, which exists. -/

/-- Two digits. -/
def two (n : Nat) : List Char := (Text.padded 2 n).toList

/-- What stands between two parts of a time. -/
def colon (extended : Bool) : List Char := if extended then [':'] else []

/-- The texts of a year. -/
inductive SpellsYear : Int → List Char → Prop
  | plain {n : Nat} (h : n ≤ 9999) : SpellsYear n (Text.padded 4 n).toList
  | plus {n : Nat} (h : n ≤ 9999) : SpellsYear n ('+' :: (Text.padded 6 n).toList)
  | minus {n : Nat} (hpos : 0 < n) (h : n ≤ 9999) :
      SpellsYear (-n) ('-' :: (Text.padded 6 n).toList)

/-- The texts of a day. -/
inductive SpellsDay (d : Date) : List Char → Prop
  | extended {year : List Char} (hyear : SpellsYear d.year year) :
      SpellsDay d (year ++ '-' :: (two d.month ++ '-' :: two d.day))
  | compact {year : List Char} (hyear : SpellsYear d.year year) :
      SpellsDay d (year ++ (two d.month ++ two d.day))

/-- A fraction of a second with at most nine digits, or none. -/
inductive SpellsFraction : List Char → Prop
  | none : SpellsFraction []
  | digits {mark : Char} {ds : List Char} (hmark : mark = '.' ∨ mark = ',')
      (hdigits : ∀ c ∈ ds, Text.isDigit c = true) (hlength : 1 ≤ ds.length ∧ ds.length ≤ 9) :
      SpellsFraction (mark :: ds)

/-- What may stand behind the hours: nothing, minutes, or minutes and seconds. -/
inductive SpellsAfterHours (lastSecond : Nat) : List Char → Prop
  | hours : SpellsAfterHours lastSecond []
  | minutes (extended : Bool) {minute : Nat} (hminute : minute ≤ 59) :
      SpellsAfterHours lastSecond (colon extended ++ two minute)
  | seconds (extended : Bool) {minute second : Nat} {fraction : List Char}
      (hminute : minute ≤ 59) (hsecond : second ≤ lastSecond)
      (hfraction : SpellsFraction fraction) :
      SpellsAfterHours lastSecond
        (colon extended ++ two minute ++ (colon extended ++ two second ++ fraction))

/-- The texts of times of day.  A minute may have a leap second. -/
inductive SpellsTime : List Char → Prop
  | mk {hour : Nat} {after : List Char} (hhour : hour ≤ 23) (hafter : SpellsAfterHours 60 after) :
      SpellsTime (two hour ++ after)

/-- The texts of offsets in numbers, and none at all. -/
inductive SpellsOffset : List Char → Prop
  | none : SpellsOffset []
  | numeric {sign : Char} {hour : Nat} {after : List Char} (hsign : sign = '+' ∨ sign = '-')
      (hhour : hour ≤ 25) (hafter : SpellsAfterHours 59 after) :
      SpellsOffset (sign :: (two hour ++ after))

end Calendar

open Calendar

/-- The texts of a date. -/
inductive Date.Spells (d : Date) : List Char → Prop
  | day {text : List Char} (hday : SpellsDay d text) : Spells d text
  | moment {text time offset : List Char} {mark : Char} (hday : SpellsDay d text)
      (hmark : mark = 'T' ∨ mark = 't' ∨ mark = ' ') (htime : SpellsTime time)
      (hoffset : SpellsOffset offset) : Spells d (text ++ mark :: (time ++ offset))

/-! ## Reading days

The year tells by its first character how many digits it has, and the character behind it whether
there are hyphens.  Everything else is of fixed length. -/

theorem Date.day_le (d : Date) : d.day ≤ 31 := by
  have hdays : daysInMonth d.year d.month ≤ 31 := by
    rw [daysInMonth]
    repeat' split
    all_goals omega
  exact Nat.le_trans d.exists_day.2.2.2 hdays

namespace Calendar

/-- Two digits are digits, and two of them. -/
theorem exists_two {n : Nat} (h : n < 100) :
    ∃ c d, two n = [c, d] ∧ Text.isDigit c = true ∧ Text.isDigit d = true := by
  have hlength := Text.length_padded 2 n (by decide) h
  obtain ⟨c, d, hcd⟩ := List.length_eq_two.1 hlength
  refine ⟨c, d, hcd, ?_, ?_⟩
  · exact Text.isDigit_of_mem_padded (hcd ▸ List.mem_cons_self)
  · exact Text.isDigit_of_mem_padded (hcd ▸ List.mem_cons_of_mem c List.mem_cons_self)

/-- Two digits do not begin with anything but a digit. -/
theorem head?_two {n : Nat} (h : n < 100) {mark : Char} (hmark : Text.isDigit mark = false)
    (rest : List Char) : ((two n ++ rest).head? == some mark) = false := by
  obtain ⟨c, d, hcd, hc, -⟩ := exists_two h
  have hne : c ≠ mark := by
    rintro rfl
    exact absurd (hc.symm.trans hmark) (by decide)
  simp [hcd, hne]

theorem scanNumber_two {n : Nat} (h : n < 100) (rest : List Char) :
    scanNumber 2 (two n ++ rest) = some (n, rest) :=
  scanNumber_padded 2 n (by decide) h rest

theorem scanTwo_two {limit n : Nat} (h : n ≤ limit) (hlimit : limit < 100) (rest : List Char) :
    scanTwo limit (two n ++ rest) = some (n, rest) := by
  rw [scanTwo, scanNumber_two (by omega)]
  exact if_pos h

theorem scanYear_of_isDigit {c : Char} (hc : Text.isDigit c = true) (s : List Char) :
    scanYear (c :: s) = (scanNumber 4 (c :: s)).map fun p => ((p.1 : Int), p.2) := by
  have hne : ∀ d, Text.isDigit d = false → c ≠ d := by
    rintro d hd rfl
    rw [hc] at hd
    cases hd
  rw [scanYear]
  · cases scanNumber 4 (c :: s) <;> rfl
  · exact fun _ h => hne '+' (by decide) (List.cons.inj h).1
  · exact fun _ h => hne '-' (by decide) (List.cons.inj h).1

/-- Every text of a year is read as the year, whatever follows it. -/
theorem scanYear_spelled {year : Int} {text : List Char} (h : SpellsYear year text)
    (rest : List Char) : scanYear (text ++ rest) = some (year, rest) := by
  cases h with
  | @plain n h =>
    have hscan := scanNumber_padded 4 n (by decide) (by omega) rest
    have hlength := Text.length_padded 4 n (by decide) (by omega)
    obtain ⟨c, ds, hds⟩ := List.exists_cons_of_length_eq_add_one hlength
    have hc : Text.isDigit c = true := Text.isDigit_of_mem_padded (hds ▸ List.mem_cons_self)
    rw [hds, List.cons_append] at hscan ⊢
    rw [scanYear_of_isDigit hc, hscan, Option.map_some]
  | plus h =>
    rw [List.cons_append, scanYear, scanNumber_padded 6 _ (by decide) (by omega) rest]
    rfl
  | minus hpos h =>
    rw [List.cons_append, scanYear, scanNumber_padded 6 _ (by decide) (by omega) rest]
    exact if_neg (Nat.ne_of_gt hpos)

/-- In the compact form there is nothing to skip. -/
theorem skipHyphen_two {n : Nat} (h : n < 100) (rest : List Char) :
    skipHyphen false (two n ++ rest) = some (two n ++ rest) := by
  have hhead := head?_two h (show Text.isDigit '-' = false by decide) rest
  rw [skipHyphen.eq_def]
  split
  · rename_i heq
    rw [heq] at hhead
    simp at hhead
  · rfl

/-- **Every text of a day is read as the day**, whatever follows it. -/
theorem scanDate_spelled {d : Date} {text : List Char} (h : SpellsDay d text)
    (rest : List Char) : scanDate (text ++ rest) = some (d, rest) := by
  have hmonth : d.month < 100 := by have := d.exists_day.2.1; omega
  have hday : d.day < 100 := by have := d.day_le; omega
  have hparts : Date.ofParts? d.year d.month d.day = some d := by
    rw [Date.ofParts?, dif_pos d.exists_day]
  cases h with
  | extended hyear =>
    rw [List.append_assoc, scanDate, scanYear_spelled hyear]
    simp [skipHyphen, scanNumber_two hmonth, scanNumber_two hday, hparts]
  | compact hyear =>
    have hhead := head?_two hmonth (show Text.isDigit '-' = false by decide) (two d.day ++ rest)
    rw [List.append_assoc, List.append_assoc, scanDate, scanYear_spelled hyear]
    simp only [Option.bind_eq_bind, Option.bind_some, hhead, skipHyphen_two hmonth,
      skipHyphen_two hday, scanNumber_two hmonth, scanNumber_two hday, hparts]
    rfl

/-! ## Skipping times

What is skipped is checked, but its value is dropped.  Each part is skipped up to its end, under
the condition that the rest does not go on with more of it. -/

/-- The text does not go on with what belongs to a time. -/
def Ends (rest : List Char) : Prop :=
  ∀ c s, rest = c :: s → Text.isDigit c = false ∧ c ≠ ':' ∧ c ≠ '.' ∧ c ≠ ','

theorem ends_nil : Ends [] := fun _ _ h => by cases h

theorem ends_cons {c : Char} (h : Text.isDigit c = false ∧ c ≠ ':' ∧ c ≠ '.' ∧ c ≠ ',')
    (s : List Char) : Ends (c :: s) := fun _ _ heq => by
  cases heq
  exact h

theorem nextPart?_of_ends {rest : List Char} (h : Ends rest) (extended : Bool) :
    nextPart? extended rest = none := by
  cases rest with
  | nil => rfl
  | cons c s =>
    obtain ⟨hdigit, hcolon, -, -⟩ := h c s rfl
    cases extended with
    | true => exact if_neg hcolon
    | false => cases s <;> simp [nextPart?, hdigit]

/-- Another part of a time is found behind its mark. -/
theorem nextPart?_two (extended : Bool) {n : Nat} (h : n < 100) (rest : List Char) :
    nextPart? extended (colon extended ++ (two n ++ rest)) = some (two n ++ rest) := by
  obtain ⟨c, d, hcd, hc, hd⟩ := exists_two h
  cases extended with
  | true => rfl
  | false => simp [colon, nextPart?, hcd, hc, hd]

/-- The first mark tells the form of a time. -/
theorem head?_colon (extended : Bool) {n : Nat} (h : n < 100) (rest : List Char) :
    ((colon extended ++ (two n ++ rest)).head? == some ':') = extended := by
  cases extended with
  | true => rfl
  | false => exact head?_two h (by decide) rest

theorem skipFraction_spelled {fraction : List Char} (h : SpellsFraction fraction)
    {rest : List Char} (hrest : Ends rest) : skipFraction (fraction ++ rest) = some rest := by
  cases h with
  | none =>
    cases rest with
    | nil => rfl
    | cons c s =>
      obtain ⟨-, -, hpoint, hcomma⟩ := hrest c s rfl
      exact if_neg (not_or.2 ⟨hpoint, hcomma⟩)
  | @digits mark ds hmark hdigits hlength =>
    have htake : (ds ++ rest).takeWhile Text.isDigit = ds := by
      rw [List.takeWhile_append_of_pos hdigits]
      cases rest with
      | nil => exact List.append_nil ds
      | cons c s => rw [List.takeWhile_cons_of_neg (by simp [(hrest c s rfl).1]), List.append_nil]
    have hne : ds.isEmpty = false := by
      rw [List.isEmpty_eq_false_iff, ← List.length_pos_iff]
      exact hlength.1
    rw [List.cons_append, skipFraction, if_pos hmark]
    simp only [htake, hne, Bool.false_eq_true, if_false, Nat.min_eq_left hlength.2,
      List.drop_left]

/-- **What stands behind the hours is skipped.** -/
theorem skipAfterHours_spelled {last : Nat} {after : List Char} (h : SpellsAfterHours last after)
    (hlast : last < 100) {rest : List Char} (hrest : Ends rest) :
    skipAfterHours last (after ++ rest) = some rest := by
  cases h with
  | hours => simp only [List.nil_append, skipAfterHours, nextPart?_of_ends hrest]
  | @minutes extended minute hminute =>
    have hm : minute < 100 := by omega
    simp only [List.append_assoc, skipAfterHours, head?_colon extended hm,
      nextPart?_two extended hm, scanTwo_two hminute (by decide), Option.bind_eq_bind,
      Option.bind_some, nextPart?_of_ends hrest, Option.pure_def]
  | @seconds extended minute second fraction hminute hsecond hfraction =>
    have hm : minute < 100 := by omega
    have hs : second < 100 := by omega
    simp only [List.append_assoc, skipAfterHours, head?_colon extended hm,
      nextPart?_two extended hm, nextPart?_two extended hs, scanTwo_two hminute (by decide),
      scanTwo_two hsecond hlast, Option.bind_eq_bind, Option.bind_some,
      skipFraction_spelled hfraction hrest]

theorem skipTime_spelled {time : List Char} (h : SpellsTime time) {rest : List Char}
    (hrest : Ends rest) : skipTime (time ++ rest) = some rest := by
  obtain ⟨hhour, hafter⟩ := h
  rw [List.append_assoc, skipTime, scanTwo_two hhour (by decide)]
  exact skipAfterHours_spelled hafter (by decide) hrest

theorem skipOffset_spelled {offset : List Char} (h : SpellsOffset offset) :
    skipOffset offset = some [] := by
  cases h with
  | none => rfl
  | @numeric sign hour after hsign hhour hafter =>
    have hzulu : ¬(sign = 'Z' ∨ sign = 'z') := by
      rintro (rfl | rfl) <;> exact absurd hsign (by decide)
    have hskip := skipAfterHours_spelled hafter (by decide) ends_nil
    rw [List.append_nil] at hskip
    rw [skipOffset, if_neg hzulu, if_pos hsign, scanTwo_two hhour (by decide)]
    exact hskip

/-- An offset does not go on with what belongs to the time before it. -/
theorem SpellsOffset.ends {offset : List Char} (h : SpellsOffset offset) : Ends offset := by
  cases h with
  | none => exact ends_nil
  | numeric hsign =>
    refine ends_cons ?_ _
    rcases hsign with rfl | rfl <;> decide

end Calendar

/-! ## Reading dates

The mark between day and time decides which case it is.  In the end nothing may be left over. -/

namespace Date

/-- **Every text of a date is read as the date.** -/
theorem ofText?_of_spells {d : Date} {text : String} (h : d.Spells text.toList) :
    ofText? text = some d := by
  generalize hchars : text.toList = chars at h
  rw [ofText?, hchars]
  cases h with
  | day hday =>
    rw [← List.append_nil chars, scanDate_spelled hday]
    rfl
  | moment hday hmark htime hoffset =>
    rw [scanDate_spelled hday]
    simp only [Option.bind_eq_bind, Option.bind_some, if_pos hmark,
      skipTime_spelled htime hoffset.ends, skipOffset_spelled hoffset]
    rfl

/-- A date is written as one of its texts: in the form with hyphens, with nothing behind the day. -/
theorem spells_text (d : Date) : d.Spells d.text.toList := by
  have hyear : SpellsYear d.year (if d.year < 0 then "-" ++ Text.padded 6 d.year.natAbs
      else Text.padded 4 d.year.natAbs).toList := by
    have hrange := d.exists_day.1
    split
    · have hspells := SpellsYear.minus (n := d.year.natAbs) (by omega) (by omega)
      rw [show -(d.year.natAbs : Int) = d.year by omega] at hspells
      rwa [String.toList_append]
    · have hspells := SpellsYear.plain (n := d.year.natAbs) (by omega)
      rwa [show (d.year.natAbs : Int) = d.year by omega] at hspells
  have hday := SpellsDay.extended (d := d) hyear
  refine .day ?_
  simp only [text, String.toList_append, List.append_assoc]
  exact hday

/-- **A written date is read as the date.** -/
theorem ofText?_text (d : Date) : ofText? d.text = some d := ofText?_of_spells d.spells_text

end Date
end QueryRights
