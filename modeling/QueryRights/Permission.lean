import QueryRights.Failure
import QueryRights.Json.Basic

/-!
# Permissions and access levels

Users hold permissions as plain names, so that a name nobody here knows survives.  `Permission` is
the fixed table of the permissions that decisions ask for.

Most names are made of the words of the permission, but two are not: for regenerating an API key
and for editing a visualization the name ends in `query`, and it is that name which users hold.
There are two definitions of names here because the table and the payloads come by them in
different ways, and `payloadName_eq_name` says that they come to the same.

## What is here

* `Permission`, `Permission.all`, `Permission.name`, and `Permission.ofName?`, which looks a name
  up in the table.
* `Permission.label`: the name of a permission in words, and `Permission.ofJson?`, which reads a
  permission from a payload; there its name is the label in lower case with underscores, but for
  two.
* `AccessLevel`: what a group may do with a data source; viewing is less than full access.
-/

set_option autoImplicit false

namespace QueryRights

/-- A capability that decisions ask for. -/
inductive Permission where
  | admin
  | createQuery
  | viewQuery
  | editQuery
  | viewSource
  | executeQuery
  | forkQuery
  | saveQuery
  | regenerateApiKey
  | editQuerySchedule
  | scheduleQuery
  | editVisualization
  | editDashboard
  | createDashboard
  deriving DecidableEq

namespace Permission

/-- Every permission, in the order of the table. -/
def all : List Permission :=
  [.admin, .createQuery, .viewQuery, .editQuery, .viewSource, .executeQuery, .forkQuery,
   .saveQuery, .regenerateApiKey, .editQuerySchedule, .scheduleQuery, .editVisualization,
   .editDashboard, .createDashboard]

theorem mem_all (p : Permission) : p ∈ all := by cases p <;> decide

/-- The name that users hold a permission by. -/
def name : Permission → String
  | .admin => "admin"
  | .createQuery => "create_query"
  | .viewQuery => "view_query"
  | .editQuery => "edit_query"
  | .viewSource => "view_source"
  | .executeQuery => "execute_query"
  | .forkQuery => "fork_query"
  | .saveQuery => "save_query"
  | .regenerateApiKey => "regenerate_api_query"
  | .editQuerySchedule => "edit_query_schedule"
  | .scheduleQuery => "schedule_query"
  | .editVisualization => "edit_visualization_query"
  | .editDashboard => "edit_dashboard"
  | .createDashboard => "create_dashboard"

/-- The permission with a name. -/
def ofName? (s : String) : Option Permission := all.find? fun p => decide (p.name = s)

theorem name_injective {p q : Permission} (h : p.name = q.name) : p = q := by
  revert h; cases p <;> cases q <;> decide

/-- The table knows its own names and no others. -/
theorem ofName?_eq_some_iff {s : String} {p : Permission} : ofName? s = some p ↔ s = p.name := by
  constructor
  · intro h
    have hp := List.find?_some h
    exact (of_decide_eq_true hp).symm
  · rintro rfl
    cases hfound : ofName? p.name with
    | none =>
      have hother := List.find?_eq_none.1 hfound p p.mem_all
      exact absurd (decide_eq_true rfl) hother
    | some q =>
      have hq := List.find?_some hfound
      rw [name_injective (of_decide_eq_true hq)]

/-- The permission with a name, or what is wrong with the name. -/
def parse (s : String) : Except Failure Permission :=
  match ofName? s with
  | some p => .ok p
  | none => .error (.config (.unknownPermission s))

/-- A permission in words. -/
def label : Permission → String
  | .admin => "Admin"
  | .createQuery => "CreateQuery"
  | .viewQuery => "ViewQuery"
  | .editQuery => "EditQuery"
  | .viewSource => "ViewSource"
  | .executeQuery => "ExecuteQuery"
  | .forkQuery => "ForkQuery"
  | .saveQuery => "SaveQuery"
  | .regenerateApiKey => "RegenerateApiKey"
  | .editQuerySchedule => "EditQuerySchedule"
  | .scheduleQuery => "ScheduleQuery"
  | .editVisualization => "EditVisualization"
  | .editDashboard => "EditDashboard"
  | .createDashboard => "CreateDashboard"

/-- Words run together, in lower case with underscores between them. -/
def snakeCase : List Char → List Char
  | [] => []
  | c :: rest =>
    c.toLower :: rest.flatMap fun d => if d.isUpper then ['_', d.toLower] else [d]

/-- The name of a permission in payloads. -/
def payloadName : Permission → String
  | .regenerateApiKey => "regenerate_api_query"
  | .editVisualization => "edit_visualization_query"
  | p => String.ofList (snakeCase p.label.toList)

/-- Payloads name permissions as users do. -/
theorem payloadName_eq_name (p : Permission) : p.payloadName = p.name := by cases p <;> rfl

/-- The position in the table. -/
def rank (p : Permission) : Nat := all.idxOf p

end Permission

/-- Reads one of finitely many names: a string, or an object whose only key is the name and whose
value is null. -/
def Json.name? : Json → Option String
  | .string s => s.text?
  | .object [(k, .null)] => k.text?
  | _ => none

namespace Permission

/-- A permission in a payload. -/
def ofJson? (j : Json) : Option Permission := do
  let s ← j.name?
  all.find? fun p => decide (p.payloadName = s)

/-- A permission as it is written to a payload. -/
def toValue (p : Permission) : Value := .string p.payloadName

end Permission

/-- What a group may do with a data source. -/
inductive AccessLevel where
  /-- Results can be viewed; only safe queries run. -/
  | view
  /-- Everything, unsafe queries included. -/
  | full
  deriving DecidableEq

namespace AccessLevel

/-- The level that a view-only mark stands for. -/
def ofViewOnly (viewOnly : Bool) : AccessLevel := if viewOnly then .view else .full

/-- The rank of a level; more is more permissive. -/
def rank : AccessLevel → Nat
  | .view => 1
  | .full => 2

/-- Whether the first level is at most the second. -/
def atMost (a b : AccessLevel) : Bool := Nat.ble a.rank b.rank

/-- The more permissive of two levels. -/
def join (a b : AccessLevel) : AccessLevel := if a.atMost b then b else a

/-- The more permissive of two levels is the least one that is above both. -/
theorem atMost_join_iff (a b c : AccessLevel) :
    (a.join b).atMost c = (a.atMost c && b.atMost c) := by
  cases a <;> cases b <;> cases c <;> rfl

/-- The name of a level in payloads. -/
def name : AccessLevel → String
  | .view => "view"
  | .full => "full"

/-- A level in a payload. -/
def ofJson? (j : Json) : Option AccessLevel := do
  let s ← j.name?
  if s = "view" then some .view else if s = "full" then some .full else none

/-- A level as it is written to a payload. -/
def toValue (a : AccessLevel) : Value := .string a.name

end AccessLevel
end QueryRights
