import QueryRights.Entity.Schedule

/-!
# Queries

A saved or unsaved query, with what the server says about it.

Only the parts that decisions need are kept.  A query without an id has not been saved yet.  The
text and the mark of a safe query decide whether it may be run; whether the user may edit it is up
to the server, which may also say nothing about that.  Every field may be missing from a payload,
and a query of which nothing is known is new, not safe, and has no text.

## What is here

* `Query`, `Query.empty`, `Query.saved`, `Query.isNew`.
* `Query.ofJson?` and `Query.toValue`: a query in a payload.  Fields that are not known are passed
  over, and they are not written again.
-/

set_option autoImplicit false

namespace QueryRights

/-- A query. -/
structure Query where
  /-- Missing for a query that has not been saved yet. -/
  id : Option Int64
  name : String
  isDraft : Bool
  isArchived : Bool
  isSafe : Bool
  /-- The text of the query. -/
  text : String
  /-- Whether the server lets the user edit the query, if it says so. -/
  editable : Option Bool
  schedule : Option Schedule
  apiKey : Option String
  sourceId : Option Int64
  deriving DecidableEq

namespace Query

/-- The query that says nothing. -/
def empty : Query := ⟨none, "", false, false, false, "", none, none, none, none⟩

/-- A saved query with an id and a text. -/
def saved (id : Int64) (text : String) : Query := { empty with id := some id, text }

/-- Whether the query has not been saved yet. -/
def isNew (q : Query) : Bool := q.id.isNone

/-- The fields of a query in payloads. -/
def shape : Shape :=
  .ofNames ["id", "name", "is_draft", "is_archived", "is_safe", "query", "can_edit", "schedule",
    "api_key", "data_source_id"]

/-- A query in a payload. -/
def ofJson? (j : Json) : Option Query := do
  let r ← Record.ofJson? shape j
  let id ← r.field? "id" (Json.optional? Json.int64?) none
  let name ← r.field? "name" Json.string? ""
  let isDraft ← r.field? "is_draft" Json.bool? false
  let isArchived ← r.field? "is_archived" Json.bool? false
  let isSafe ← r.field? "is_safe" Json.bool? false
  let text ← r.field? "query" Json.string? ""
  let editable ← r.field? "can_edit" (Json.optional? Json.bool?) none
  let schedule ← r.field? "schedule" (Json.optional? Schedule.ofJson?) none
  let apiKey ← r.field? "api_key" (Json.optional? Json.string?) none
  let sourceId ← r.field? "data_source_id" (Json.optional? Json.int64?) none
  return ⟨id, name, isDraft, isArchived, isSafe, text, editable, schedule, apiKey, sourceId⟩

/-- A query as it is written to a payload. -/
def toValue (q : Query) : Value :=
  .object
    [("id", .optional (fun n => .int n.toInt) q.id),
     ("name", .string q.name),
     ("is_draft", .bool q.isDraft),
     ("is_archived", .bool q.isArchived),
     ("is_safe", .bool q.isSafe),
     ("query", .string q.text),
     ("can_edit", .optional .bool q.editable),
     ("schedule", .optional Schedule.toValue q.schedule),
     ("api_key", .optional .string q.apiKey),
     ("data_source_id", .optional (fun n => .int n.toInt) q.sourceId)]

end Query
end QueryRights
