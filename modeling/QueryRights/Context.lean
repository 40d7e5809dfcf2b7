import QueryRights.Policy

/-!
# Contexts

What decisions depend on, in one place: the current user, the configuration and the active policy.

The three are independent.  A context starts out under the default policy, which is made from the
user and the configuration, but a host may put a policy of its own in the place.  From then on the
user and the configuration are still there, for what is decided without the policy.

## What is here

* `Context`, `Context.ofUser` and `Context.withPolicy`.
* `Context.refreshPolicy`: the active policy is asked which policy to use from now on, and the
  context adopts it.  If the policy fails it stays active, and the failure is returned.
-/

set_option autoImplicit false

namespace QueryRights

/-- User, configuration and active policy of a session. -/
structure Context where
  user : Principal
  config : ClientConfig
  policy : Policy

namespace Context

/-- The context of a user and a configuration under the default policy. -/
def ofUser (user : Principal) (config : ClientConfig) : Context :=
  ⟨user, config, .ofUser user config⟩

/-- The context under another policy. -/
def withPolicy (c : Context) (policy : Policy) : Context := { c with policy }

/-- Whether the user holds the permission with a name. -/
def holds (c : Context) (name : String) : Bool := c.user.holds name

/-- Refreshes the active policy.  After a failure it stays active. -/
def refreshPolicy (c : Context) : Except Failure Unit × Context :=
  match c.policy.refresh with
  | .ok p => (.ok (), c.withPolicy p)
  | .error failure => (.error failure, c)

end Context
end QueryRights
