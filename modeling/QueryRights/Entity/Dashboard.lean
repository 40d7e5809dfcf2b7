import QueryRights.Json.Record

/-!
# Dashboards

A dashboard, reduced to what decisions about access need: the queries that it shows, and the key
that opens them.  What else a dashboard consists of is not kept.

## What is here

* `Dashboard`, `Dashboard.empty`.
* `Dashboard.ofJson?` and `Dashboard.toValue`: a dashboard in a payload.
-/

set_option autoImplicit false

namespace QueryRights

/-- A dashboard. -/
structure Dashboard where
  id : Option Int64
  /-- Whether the server lets the user edit the dashboard, if it says so. -/
  editable : Option Bool
  apiKey : Option String
  /-- The queries that the dashboard shows. -/
  queryIds : List Int64
  deriving DecidableEq

namespace Dashboard

/-- The dashboard that says nothing. -/
def empty : Dashboard := ⟨none, none, none, []⟩

/-- The fields of a dashboard in payloads. -/
def shape : Shape := .ofNames ["id", "can_edit", "api_key", "query_ids"]

/-- A dashboard in a payload. -/
def ofJson? (j : Json) : Option Dashboard := do
  let r ← Record.ofJson? shape j
  let id ← r.field? "id" (Json.optional? Json.int64?) none
  let editable ← r.field? "can_edit" (Json.optional? Json.bool?) none
  let apiKey ← r.field? "api_key" (Json.optional? Json.string?) none
  let queryIds ← r.field? "query_ids" (Json.list? Json.int64?) []
  return ⟨id, editable, apiKey, queryIds⟩

/-- A dashboard as it is written to a payload. -/
def toValue (d : Dashboard) : Value :=
  .object
    [("id", .optional (fun n => .int n.toInt) d.id),
     ("can_edit", .optional .bool d.editable),
     ("api_key", .optional .string d.apiKey),
     ("query_ids", .list (fun n => .int n.toInt) d.queryIds)]

end Dashboard
end QueryRights
