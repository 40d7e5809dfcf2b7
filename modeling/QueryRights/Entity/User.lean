import QueryRights.Json.Record
import QueryRights.Permission

/-!
# Users

## What is here

* `Principal`: what decisions know about the one they are made for.  A host may have users of its
  own kind; they only need to answer these three questions.
* `User`: the user of a session, with a set of permission names.
* `User.principal`: a user is an administrator by a flag, or by holding the permission `admin`.
-/

set_option autoImplicit false

namespace QueryRights

/-- The one for whom decisions are made. -/
structure Principal where
  /-- Whether the principal holds the permission with a name. -/
  holds : String → Bool
  isAdmin : Bool
  groupIds : List Int64

/-- A user of a session. -/
structure User where
  id : Option Int64
  name : String
  email : Option String
  /-- The flag that makes the user an administrator; the permission `admin` does so too. -/
  adminFlag : Bool
  permissions : NameSet
  groupIds : List Int64
  deriving DecidableEq

namespace User

/-- The user without any permission. -/
def anonymous : User := ⟨none, "", none, false, Table.empty, []⟩

/-- An administrator without any permission. -/
def admin : User := { anonymous with adminFlag := true }

/-- A user with the given permissions and nothing else. -/
def withPermissions (names : List String) : User :=
  { anonymous with permissions := NameSet.ofNames names }

/-- The user as a member of the given groups only. -/
def inGroups (u : User) (groupIds : List Int64) : User := { u with groupIds }

/-- The user with one more permission. -/
def grant (u : User) (p : Permission) : User :=
  { u with permissions := u.permissions.insert p.name () }

/-- Whether the user holds the permission with a name. -/
def holds (u : User) (name : String) : Bool := u.permissions.contains name

/-- Whether the user is an administrator. -/
def isAdmin (u : User) : Bool := u.adminFlag || u.holds Permission.admin.name

/-- What decisions know about the user. -/
def principal (u : User) : Principal := ⟨u.holds, u.isAdmin, u.groupIds⟩

/-- The fields of a user in payloads. -/
def shape : Shape := .ofNames ["id", "name", "email", "is_admin", "permissions", "groups"]

/-- A user in a payload. -/
def ofJson? (j : Json) : Option User := do
  let r ← Record.ofJson? shape j
  let id ← r.field? "id" (Json.optional? Json.int64?) none
  let name ← r.field? "name" Json.string? ""
  let email ← r.field? "email" (Json.optional? Json.string?) none
  let adminFlag ← r.field? "is_admin" Json.bool? false
  let names ← r.field? "permissions" (Json.list? Json.string?) []
  let groupIds ← r.field? "groups" (Json.list? Json.int64?) []
  return ⟨id, name, email, adminFlag, NameSet.ofNames names, groupIds⟩

/-- A user as it is written to a payload. -/
def toValue (u : User) : Value :=
  .object
    [("id", .optional (fun n => .int n.toInt) u.id),
     ("name", .string u.name),
     ("email", .optional .string u.email),
     ("is_admin", .bool u.adminFlag),
     ("permissions", .list .string u.permissions.keys),
     ("groups", .list (fun n => .int n.toInt) u.groupIds)]

end User
end QueryRights
