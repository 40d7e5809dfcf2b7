import QueryRights.Context
import QueryRights.Json.Reader

/-!
# Sessions

The server hands over one JSON document that describes the user and the configuration.

The user must be given, while the configuration may be left out, in whole or in part.  Parts that
are not known are passed over, however deep they are nested.  Parts that are kept as they are may
only be nested up to a certain depth; that concerns the settings of the configuration, in which
anything may stand in the place of a list.

## What is here

* `Session`, `Session.ofBytes?` and `Session.toValue`: a session, read from the bytes of a payload
  and written again.
* `Session.same`: equality of sessions, for which the two zeros are one number.
* `Session.context`: the context of a session under the default policy.
-/

set_option autoImplicit false

namespace QueryRights

/-- The user and the configuration of a session. -/
structure Session where
  user : User
  config : ClientConfig

namespace Session

/-- The session of nobody, without configuration. -/
def empty : Session := ⟨.anonymous, .empty⟩

/-- The deepest that the kept parts of a payload may be nested. -/
def deepest : Nat := 127

/-- The fields of a session in payloads. -/
def shape : Shape := .ofNames ["user", "client_config"]

/-- A session in a payload.  The user must be given. -/
def ofJson? (j : Json) : Option Session := do
  let r ← Record.ofJson? shape j
  let user ← r.required? "user" User.ofJson?
  let config ← r.field? "client_config" (ClientConfig.ofJson? (deepest - 1)) .empty
  return ⟨user, config⟩

/-- The session that a payload describes. -/
def ofBytes? (payload : ByteArray) : Option Session := (Json.ofBytes? payload).bind ofJson?

/-- A session as it is written to a payload. -/
def toValue (s : Session) : Value :=
  .object [("user", s.user.toValue), ("client_config", s.config.toValue)]

/-- Equality of sessions. -/
def same (s t : Session) : Bool := decide (s.user = t.user) && s.config.same t.config

/-- The context of a session under the default policy. -/
def context (s : Session) : Context := .ofUser s.user.principal s.config

end Session
end QueryRights
