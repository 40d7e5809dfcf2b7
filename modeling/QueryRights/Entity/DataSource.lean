import QueryRights.Json.Numeral
import QueryRights.Json.Record

/-!
# Data sources and the groups they let in

The ids of groups are integers, and in a payload they are the keys of an object, so they stand
there as strings.  Such a key must be written as the number would be: an escape in it, a space or a
plus sign make it a key that is no id, and the payload is refused.

The defaults of the two marks differ on purpose.  A source that is not said to be writable is
view-only.  A grant names what it grants, and it is full unless it is said to be view-only; it is
empty if it names nothing.

## What is here

* `GroupAccess`: what one group may do with a data source.
* `Grants`: the grants of a data source, by the ids of the groups.
* `DataSource`: what a query is run on.  Without word to the contrary a source is view-only, and
  `DataSource.restricted` stands in for a source that is not known.
-/

set_option autoImplicit false

namespace QueryRights

/-- What a group may do. -/
structure GroupAccess where
  permissions : List String
  viewOnly : Bool
  deriving DecidableEq

namespace GroupAccess

/-- The grant of nothing. -/
def empty : GroupAccess := ⟨[], false⟩

/-- Whether the grant names a permission. -/
def names (g : GroupAccess) (permission : String) : Bool :=
  g.permissions.any fun p => decide (p = permission)

/-- The fields of a grant in payloads. -/
def shape : Shape := .ofNames ["permissions", "view_only"]

/-- A grant in a payload. -/
def ofJson? (j : Json) : Option GroupAccess := do
  let r ← Record.ofJson? shape j
  let permissions ← r.field? "permissions" (Json.list? Json.string?) []
  let viewOnly ← r.field? "view_only" Json.bool? false
  return ⟨permissions, viewOnly⟩

/-- A grant as it is written to a payload. -/
def toValue (g : GroupAccess) : Value :=
  .object [("permissions", .list .string g.permissions), ("view_only", .bool g.viewOnly)]

end GroupAccess

/-- Grants by the ids of groups. -/
abbrev Grants := Table Int64 GroupAccess

namespace Grants

/-- The id of a group as the key of an object: an integer of 64 bits, written as a number is and
without escapes. -/
def groupId? (key : Quoted) : Option Int64 :=
  match key.text? with
  | some s =>
    if key.plain then
      match Numeral.scan (Symbol.ofText s) with
      | some (n, []) => (Json.number (n.integer?.map .integer)).int64?
      | _ => none
    else none
  | none => none

/-- The entries of an object of grants. -/
def entries? : List (Quoted × Json) → Option (List (Int64 × GroupAccess))
  | [] => some []
  | (k, j) :: rest => do
    let id ← groupId? k
    let g ← GroupAccess.ofJson? j
    let entries ← entries? rest
    return (id, g) :: entries

/-- Grants in a payload.  Of two grants for one group the later counts. -/
def ofJson? : Json → Option Grants
  | .object members => (entries? members).map Table.ofList
  | _ => none

/-- Grants as they are written to a payload. -/
def toValue (g : Grants) : Value :=
  .object (g.entries.map fun e => (toString e.1.toInt, e.2.toValue))

end Grants

/-- What a query is run on. -/
structure DataSource where
  id : Option Int64
  /-- On a view-only source only safe queries run. -/
  viewOnly : Bool
  groups : Grants
  deriving DecidableEq

namespace DataSource

/-- The most restrictive source, which stands in for one that is not known. -/
def restricted : DataSource := ⟨none, true, Table.empty⟩

/-- A source on which every query may run. -/
def writable : DataSource := { restricted with viewOnly := false }

/-- The fields of a data source in payloads. -/
def shape : Shape := .ofNames ["id", "view_only", "groups"]

/-- A data source in a payload. -/
def ofJson? (j : Json) : Option DataSource := do
  let r ← Record.ofJson? shape j
  let id ← r.field? "id" (Json.optional? Json.int64?) none
  let viewOnly ← r.field? "view_only" Json.bool? true
  let groups ← r.field? "groups" Grants.ofJson? Table.empty
  return ⟨id, viewOnly, groups⟩

/-- A data source as it is written to a payload. -/
def toValue (d : DataSource) : Value :=
  .object
    [("id", .optional (fun n => .int n.toInt) d.id),
     ("view_only", .bool d.viewOnly),
     ("groups", d.groups.toValue)]

end DataSource
end QueryRights
