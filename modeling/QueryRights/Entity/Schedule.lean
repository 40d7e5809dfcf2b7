import QueryRights.Calendar.Reader
import QueryRights.Json.Record

/-!
# Schedules

When a query is refreshed on its own.

A schedule has an interval, and for daily and weekly schedules a time and a day of the week, which
are kept as texts.  It runs up to its last day, if it has one.  The last day is a date of the
calendar and not a moment, so whether it is over depends on what day it is, and that is told from
outside.

## What is here

* `Schedule`, `Schedule.every`, and `Schedule.isExpired`: a schedule is over on the days after its
  last one.
* `ScheduleChanges`: what is handed over to be saved.  It has one field, which must be given.
* Their readers and written forms.  A date is written in one form and read in many, see
  `QueryRights.Calendar.Reader`.
-/

set_option autoImplicit false

namespace QueryRights

/-- The refresh schedule of a query. -/
structure Schedule where
  /-- Seconds between refreshes. -/
  interval : Option UInt64
  /-- The time of day, for daily and weekly schedules. -/
  time : Option String
  dayOfWeek : Option String
  /-- The last day on which the schedule runs. -/
  lastDay : Option Date
  deriving DecidableEq

namespace Schedule

/-- The schedule that says nothing. -/
def empty : Schedule := ⟨none, none, none, none⟩

/-- The schedule that refreshes every so many seconds. -/
def every (seconds : UInt64) : Schedule := { empty with interval := some seconds }

/-- Whether the schedule has stopped running on a day. -/
def isExpired (s : Schedule) (today : Date) : Bool :=
  match s.lastDay with
  | some d => d.before today
  | none => false

/-- A date in a payload. -/
def dateOfJson? (j : Json) : Option Date := j.string?.bind Date.ofText?

/-- The fields of a schedule in payloads. -/
def shape : Shape := .ofNames ["interval", "time", "day_of_week", "until"]

/-- A schedule in a payload. -/
def ofJson? (j : Json) : Option Schedule := do
  let r ← Record.ofJson? shape j
  let interval ← r.field? "interval" (Json.optional? Json.uint64?) none
  let time ← r.field? "time" (Json.optional? Json.string?) none
  let dayOfWeek ← r.field? "day_of_week" (Json.optional? Json.string?) none
  let lastDay ← r.field? "until" (Json.optional? dateOfJson?) none
  return ⟨interval, time, dayOfWeek, lastDay⟩

/-- A schedule as it is written to a payload. -/
def toValue (s : Schedule) : Value :=
  .object
    [("interval", .optional (fun n => .int n.toNat) s.interval),
     ("time", .optional .string s.time),
     ("day_of_week", .optional .string s.dayOfWeek),
     ("until", .optional (fun d => .string d.text) s.lastDay)]

end Schedule

/-- The changes that are handed over to be saved. -/
structure ScheduleChanges where
  schedule : Schedule
  deriving DecidableEq

namespace ScheduleChanges

/-- The fields of the changes in payloads. -/
def shape : Shape := .ofNames ["schedule"]

/-- Changes in a payload.  The schedule must be given. -/
def ofJson? (j : Json) : Option ScheduleChanges := do
  let r ← Record.ofJson? shape j
  let schedule ← r.required? "schedule" Schedule.ofJson?
  return ⟨schedule⟩

/-- Changes as they are written to a payload. -/
def toValue (c : ScheduleChanges) : Value := .object [("schedule", c.schedule.toValue)]

end ScheduleChanges
end QueryRights
