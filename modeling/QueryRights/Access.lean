import QueryRights.Entity.Dashboard
import QueryRights.Entity.DataSource
import QueryRights.Entity.Query
import QueryRights.Entity.User

/-!
# Access by groups and by keys

There are two ways to get at things that do not go through the active policy.  A data source has a
table of grants to groups, and a user has what the grants to their groups give.  A query or a
dashboard may have an API key, and whoever knows it may open the query.

A grant is either view-only or full, for the permissions that it names.  Of several grants that
apply, the most permissive counts, so it does not hurt to be in one more group.  Groups without a
grant and grants that do not name the permission contribute nothing, which is not the same as
viewing.

## What is here

* `Grants.level?`: the level that a principal has on a data source for a permission.  An
  administrator has full access; anybody else the most that a grant to one of their groups gives.
* `Grants.permits`: whether that level is enough for viewing, or for full use.
* `Query.opensWith`: whether an API key opens a query, by itself or through a dashboard that shows
  the query.  A query that has not been saved has no id, so no dashboard shows it.
-/

set_option autoImplicit false

namespace QueryRights

namespace Grants

/-- The level that a principal has for a permission, if any. -/
def level? (groups : Grants) (user : Principal) (permission : String) : Option AccessLevel :=
  if user.isAdmin then some .full
  else
    let grants := user.groupIds.filterMap groups.find?
    let levels := (grants.filter (·.names permission)).map fun g => AccessLevel.ofViewOnly g.viewOnly
    levels.foldl
      (fun best l => some (match best with
        | none => l
        | some b => b.join l)) none

/-- Whether a principal may use a permission, for viewing only or in full. -/
def permits (groups : Grants) (user : Principal) (viewing : Bool) (permission : String) : Bool :=
  match groups.level? user permission with
  | none => false
  | some level => (AccessLevel.ofViewOnly viewing).atMost level

end Grants

namespace Query

/-- Whether an API key opens the query. -/
def opensWith (q : Query) (key : String) (dashboards : List Dashboard) : Bool :=
  decide (q.apiKey = some key) ||
    match q.id with
    | none => false
    | some id => dashboards.any fun d => decide (d.apiKey = some key) && d.queryIds.contains id

end Query
end QueryRights
