import QueryRights.Interval
import QueryRights.Json.Record
import QueryRights.Toml.Basic

/-!
# Client configuration

The configuration has two settings: the refresh intervals offered for queries, and those for
dashboards.  What was received in the place of a list is kept, so that a wrong setting can be told
from one that is missing.

## What is here

* `Setting`: a list of intervals, or whatever was found instead; `Setting.ofValue` draws the line.
* `ClientConfig`, its stock lists, and the two lists that decisions read.
* The readers, from JSON and from the root table of a TOML document.
-/

set_option autoImplicit false

namespace QueryRights

/-- The interval setting of a configuration. -/
inductive Setting where
  | list (intervals : List Interval)
  /-- Whatever was found in the place of a list. -/
  | malformed (value : Value)

namespace Setting

/-- Equality of settings. -/
def same : Setting → Setting → Bool
  | .list xs, .list ys => decide (xs = ys)
  | .malformed v, .malformed w => v.same w
  | _, _ => false

/-- The intervals, if the setting really is a list. -/
def list? : Setting → Option (List Interval)
  | .list intervals => some intervals
  | .malformed _ => none

/-- The interval that a value denotes: an integer that 64 bits hold without a sign. -/
def intervalOf? : Value → Option Interval
  | .number (.integer n) => Interval.ofInt? n
  | _ => none

/-- The intervals that values denote, if every one denotes an interval. -/
def intervalsOf? : List Value → Option (List Interval)
  | [] => some []
  | v :: rest => do
    let i ← intervalOf? v
    let is ← intervalsOf? rest
    return i :: is

/-- A value as a setting: an array of intervals is a list, and anything else is kept as it is. -/
def ofValue (v : Value) : Setting :=
  match v with
  | .array items =>
    match intervalsOf? items with
    | some intervals => .list intervals
    | none => .malformed v
  | _ => .malformed v

/-- A setting in a payload, in which arrays and objects are nested no deeper than `room`. -/
def ofJson? (room : Nat) (j : Json) : Option Setting :=
  if j.depth ≤ room then j.value?.map ofValue else none

/-- A setting as it is written to a payload. -/
def toValue : Setting → Value
  | .list intervals => .list Interval.toValue intervals
  | .malformed v => v

end Setting

/-- The configuration of a client. -/
structure ClientConfig where
  querySetting : Option Setting
  dashboardSetting : Option Setting

namespace ClientConfig

/-- The configuration without any setting. -/
def empty : ClientConfig := ⟨none, none⟩

/-- A list of intervals from their seconds. -/
def stock (seconds : List UInt64) : Setting := .list (seconds.map .mk)

/-- The intervals offered for queries unless configured otherwise. -/
def stockQuerySetting : Setting :=
  stock [60, 300, 600, 900, 1800, 3600, 7200, 10800, 14400, 18000, 21600, 25200, 28800, 32400,
    36000, 39600, 43200, 86400, 604800, 1209600, 2592000]

/-- The intervals offered for dashboards unless configured otherwise. -/
def stockDashboardSetting : Setting := stock [60, 300, 600, 1800, 3600, 43200, 86400]

/-- The configuration with the stock lists. -/
def withDefaults : ClientConfig := ⟨some stockQuerySetting, some stockDashboardSetting⟩

/-- The intervals for queries, if they are configured as a list. -/
def queryIntervals? (c : ClientConfig) : Option (List Interval) := c.querySetting.bind Setting.list?

/-- The intervals for dashboards, if they are configured as a list. -/
def dashboardIntervals? (c : ClientConfig) : Option (List Interval) :=
  c.dashboardSetting.bind Setting.list?

/-- Equality of two settings that may be missing. -/
def sameSetting : Option Setting → Option Setting → Bool
  | none, none => true
  | some s, some t => s.same t
  | _, _ => false

/-- Equality of configurations. -/
def same (c d : ClientConfig) : Bool :=
  sameSetting c.querySetting d.querySetting && sameSetting c.dashboardSetting d.dashboardSetting

/-- The fields of a configuration, each with the other way to write it. -/
def shape : Shape :=
  ⟨[("queryRefreshIntervals", ["query_refresh_intervals"]),
    ("dashboardRefreshIntervals", ["dashboard_refresh_intervals"])]⟩

/-- A configuration in a payload, in which arrays and objects are nested no deeper than `room`. -/
def ofJson? (room : Nat) (j : Json) : Option ClientConfig := do
  let r ← Record.ofJson? shape j
  let setting? := Json.optional? (Setting.ofJson? (room - 1))
  let query ← r.field? "queryRefreshIntervals" setting? none
  let dashboard ← r.field? "dashboardRefreshIntervals" setting? none
  return ⟨query, dashboard⟩

/-- The configuration in the root table of a document. -/
def ofTable? (entries : List (String × Toml.Item)) : Option ClientConfig := do
  let r ← Record.ofEntries? shape entries
  let setting (i : Toml.Item) : Setting := .ofValue i.value
  return ⟨(r.get? "queryRefreshIntervals").map setting,
    (r.get? "dashboardRefreshIntervals").map setting⟩

/-- A configuration as it is written to a payload. -/
def toValue (c : ClientConfig) : Value :=
  .object
    [("queryRefreshIntervals", .optional Setting.toValue c.querySetting),
     ("dashboardRefreshIntervals", .optional Setting.toValue c.dashboardSetting)]

end ClientConfig
end QueryRights
