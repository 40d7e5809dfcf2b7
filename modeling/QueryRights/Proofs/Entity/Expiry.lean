import QueryRights.Proofs.Calendar.Days
import QueryRights.Proofs.Entity.Written

/-!
# When schedules expire

A schedule runs up to its last day and no further.  So from the day after it on it is expired,
however the last day was spelled in the payload that the schedule comes from, and however often the
schedule was sent on since.

Two things can go wrong with a last day, and they have nothing to do with each other.  One is the
comparison: whether a date is over is decided by year, month and day, and nobody wants to know
about that order, but about days that pass.  `QueryRights.Proofs.Calendar.Days` says that the two
are the same, so expiry can be stated with no numbers at all: it is what happens on the days that
are reached from the last one by going on.  From that form it is plain that expiry never ends.

The other is the text.  A last day travels as a string, which may be written in several ways, in an
object with other members around it or in an array.  `Schedule.Respells` relates two payloads that
differ in that string only, and all that has to be proved is that the other members are passed over
in the same way.  For objects this is so for any kind of thing that has a schema
(`Schema.ReadBy.object_replace`).  An array is read by position, and there the four places are
written out.

What day it is today is given from outside.  A day in one time zone is another day in another, and
nothing is said about how a moment becomes a day; a last day that is given in universal time is no
date for that very reason, and a payload with it describes no schedule.

## What is here

* `Schedule.isExpired_iff`: a schedule is expired on the days that come after its last one.
* `Schedule.Respells`: payloads that are alike but for the text of the last day.
* `Schedule.ofJson?_of_respells`: they describe the same schedule.
* `Schedule.expiry_follows_calendar`: **all of it, for the payloads of schedules**.
-/

set_option autoImplicit false

namespace QueryRights

namespace Schedule

open Calendar

/-! ## Expiry and the calendar -/

variable {s : Schedule}

theorem isExpired_iff {today : Date} :
    s.isExpired today = true ↔ ∃ d, s.lastDay = some d ∧ d.before today = true := by
  rw [isExpired]
  cases s.lastDay with
  | none => simp
  | some d => simp

/-! ## Texts of the last day

The last day may be null or missing as well, and neither is a text of a date.  So only a payload
that does give a date can be respelled, and the schedule that it describes has a last day. -/

/-- The first part of a payload is read as a date, and the second is one of its texts. -/
def RespellsDate (j j' : Json) : Prop :=
  ∃ d q text, dateOfJson? j = some d ∧ j' = .string q ∧ q.text? = some text ∧
    d.Spells text.toList

/-- Payloads of schedules that give the last day in different texts, and are alike otherwise. -/
inductive Respells : Json → Json → Prop
  | object {before after : List (Quoted × Json)} {key : Quoted} {j j' : Json}
      (hkey : key.text? = some "until") (hdate : RespellsDate j j') :
      Respells (.object (before ++ (key, j) :: after)) (.object (before ++ (key, j') :: after))
  | array {interval time dayOfWeek j j' : Json} (hdate : RespellsDate j j') :
      Respells (.array [interval, time, dayOfWeek, j]) (.array [interval, time, dayOfWeek, j'])

variable {j j' : Json}

theorem RespellsDate.optional?_eq (h : RespellsDate j j') :
    Json.optional? dateOfJson? j' = Json.optional? dateOfJson? j := by
  obtain ⟨d, q, text, hj, rfl, hq, hspells⟩ := h
  have hj' : dateOfJson? (.string q) = some d := by
    rw [dateOfJson?, Json.string?, hq, Option.bind_some, Date.ofText?_of_spells hspells]
  have hnull : j ≠ .null := by
    rintro rfl
    cases hj
  rw [Json.optional?_of_ne_null _ hnull, hj, Json.optional?_of_ne_null _ Json.noConfusion, hj']

/-- **The text of the last day makes no difference to the schedule.** -/
theorem ofJson?_of_respells (h : Respells j j') (hs : ofJson? j = some s) :
    ofJson? j' = some s := by
  cases h with
  | @object before after key j j' hkey hdate =>
    refine readBy_schema.object_replace hkey (fun f hf hname => ?_) hs
    have huntil : f.name = "until" := Option.some.inj (hname.symm.trans (by decide))
    simp only [schema, List.mem_cons, List.not_mem_nil, or_false] at hf
    rcases hf with rfl | rfl | rfl | rfl
    · exact absurd huntil (by decide)
    · exact absurd huntil (by decide)
    · exact absurd huntil (by decide)
    · exact hdate.optional?_eq
  | @array a b c j j' hdate =>
    have hrecord : ∀ j, Record.ofJson? shape (.array [a, b, c, j]) =
        some [("interval", a), ("time", b), ("day_of_week", c), ("until", j)] := fun _ => rfl
    rw [ofJson?, hrecord] at hs ⊢
    simp [Record.field?, Record.get?, findEntry, hdate.optional?_eq] at hs ⊢
    exact hs

/-! ## All together -/

/-- The schedule that the text of a payload describes. -/
def ofText? (text : String) : Option Schedule := (Json.ofText? text).bind ofJson?

/-- The second text is that of a payload which only gives the last day in another text. -/
def RespelledAs (text text' : String) : Prop :=
  ∃ j j', Json.ofText? text = some j ∧ Json.ofText? text' = some j' ∧ Respells j j'

theorem ofText?_of_respelledAs {text text' : String} (h : RespelledAs text text')
    (hs : ofText? text = some s) : ofText? text' = some s := by
  obtain ⟨j, j', htext, htext', hrespells⟩ := h
  rw [ofText?, htext, Option.bind_some] at hs
  rw [ofText?, htext', Option.bind_some]
  exact ofJson?_of_respells hrespells hs

/-- **Expiry follows the calendar.**  Going on from day to day makes the difference of the numbers
of days, in which every leap year counts with its day more.  Whatever payload a schedule comes from,
it is expired on the days that are reached from its last day by going on at least once: so it is not
expired on its last day and before it, and once it is expired it stays so.  On every day the answer
is the same for the schedule that is read again after it was written, and for the one that is read
if the payload gives the date in another of its texts. -/
theorem expiry_follows_calendar {text : String} (h : ofText? text = some s) :
    (∀ (a b : Date) n, Date.DaysLater n a b ↔ b.number = a.number + n) ∧
    (∀ today, s.isExpired today = true ↔
      ∃ d n, s.lastDay = some d ∧ 1 ≤ n ∧ Date.DaysLater n d today) ∧
    (∀ d today n, s.lastDay = some d → Date.DaysLater n today d → s.isExpired today = false) ∧
    (∀ today later n, s.isExpired today = true → Date.DaysLater n today later →
      s.isExpired later = true) ∧
    (∃ s', ofText? s.toValue.text = some s' ∧ ∀ today, s'.isExpired today = s.isExpired today) ∧
    ∀ text', RespelledAs text text' →
      ∃ s', ofText? text' = some s' ∧ ∀ today, s'.isExpired today = s.isExpired today := by
  have hexpired : ∀ today, s.isExpired today = true ↔
      ∃ d n, s.lastDay = some d ∧ 1 ≤ n ∧ Date.DaysLater n d today := by
    intro today
    simp only [isExpired_iff, Date.before_iff_daysLater, exists_and_left]
  refine ⟨fun a b n => Date.daysLater_iff_number, hexpired, fun d today n hd hlater => ?_,
    fun today later n hnow hlater => ?_, ⟨s, restored.ofText?_bind s, fun _ => rfl⟩,
    fun text' htext' => ⟨s, ofText?_of_respelledAs htext' h, fun _ => rfl⟩⟩
  · rw [Bool.eq_false_iff, Ne, hexpired]
    rintro ⟨e, m, he, hm, hafter⟩
    cases hd.symm.trans he
    have hback := (hlater.trans hafter).eq_zero
    omega
  · obtain ⟨d, m, hd, hm, hafter⟩ := (hexpired today).1 hnow
    exact (hexpired later).2 ⟨d, m + n, hd, by omega, hafter.trans hlater⟩

/-- The day before year zero is given with six digits and without hyphens, and with a time and an
offset behind it.  The schedule that ends on it is expired on the next day, whichever of the texts
it is read from, and not before. -/
theorem expiry_follows_calendar_into_year_zero :
    let d : Date := ⟨-1, 12, 31, by decide⟩
    let today : Date := ⟨0, 1, 1, by decide⟩
    let s : Schedule := { empty with lastDay := some d }
    let v : Value := .object [("interval", .null), ("time", .null), ("day_of_week", .null),
      ("until", .string "-0000011231t00:00:60,5+02:30")]
    ofText? s.toValue.text = some s ∧ d.DaysLater 1 today ∧ RespelledAs s.toValue.text v.text ∧
      s.isExpired d = false ∧ s.isExpired today = true ∧
      ∃ s', ofText? v.text = some s' ∧ s'.isExpired today = true := by
  intro d today s v
  have hread : ofText? s.toValue.text = some s := restored.ofText?_bind s
  have hnext : d.DaysLater 1 today := .onward (.yearEnd ⟨rfl, rfl⟩ rfl rfl rfl) (.same today)
  have hday : SpellsDay d ('-' :: (Text.padded 6 1).toList ++ (two 12 ++ two 31)) :=
    .compact (.minus (by decide) (by decide))
  have htime : SpellsTime
      (two 0 ++ (colon true ++ two 0 ++ (colon true ++ two 60 ++ [',', '5']))) :=
    .mk (by decide) (.seconds true (by decide) (by decide)
      (.digits (.inr rfl) (by simp [Text.isDigit]) (by decide)))
  have hoffset : SpellsOffset ('+' :: (two 2 ++ (colon true ++ two 30))) :=
    .numeric (.inl rfl) (by decide) (.minutes true (by decide))
  have hdate : RespellsDate (Value.string d.text).json
      (.string (.ofText "-0000011231t00:00:60,5+02:30")) :=
    ⟨d, _, _, restores_date.read_write d, rfl, rfl,
      .moment hday (.inr (.inl rfl)) htime hoffset⟩
  have hjson : Respells s.toValue.json v.json :=
    @Respells.object [(.ofText "interval", .null), (.ofText "time", .null),
      (.ofText "day_of_week", .null)] [] (.ofText "until") _ _ rfl hdate
  have hnumbers : ∀ n ∈ v.numbers, n.ReadsBack := fun n hn => (List.not_mem_nil hn).elim
  have hrespelled : RespelledAs s.toValue.text v.text :=
    ⟨_, _, Json.ofText?_text fun n hn => (restored.isWord s n hn).readsBack,
      Json.ofText?_text hnumbers, hjson⟩
  obtain ⟨-, hexpired, hearlier, -, -, hsame⟩ := expiry_follows_calendar hread
  have htoday : s.isExpired today = true := (hexpired today).2 ⟨d, 1, rfl, Nat.le_refl 1, hnext⟩
  obtain ⟨s', hs', halike⟩ := hsame v.text hrespelled
  exact ⟨hread, hnext, hrespelled, hearlier d d 0 rfl (.same d), htoday, s', hs',
    (halike today).trans htoday⟩

end Schedule
end QueryRights
