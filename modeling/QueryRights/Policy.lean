import QueryRights.Config.ClientConfig
import QueryRights.Entity.User

/-!
# Policies

A policy answers the questions that a user interface asks: may the current user do this?

Eighteen of the questions have a plain answer.  Whether an entity may be edited depends on what the
server says about the entity, and which intervals may be chosen is a list.  A host can supply a
policy that answers in any way it likes, so answers are functions and nothing is required of them.

The default policy is made from a user and a configuration, and all that it says follows from a
table: each plain question has a requirement, which is nothing, to be an administrator, or to hold
some permissions.

A policy may be replaced over time.  Here it comes with all that refreshing it will bring, as a
finite list of further answers and an ending.  That is no restriction for a host of which it is
known what it will answer, since however often a policy is refreshed, only finitely many of the
policies after it come into play.

## What is here

* `Question`: the questions with a plain answer, and `Answers`: all that a policy says.
* `Policy`: answers, together with what refreshing them brings: the answers of the policies that
  refreshes will resolve to one after the other, and how the last of them behaves.
* `Requirement` and `Question.requirement`: what the default policy asks of a user.
* `Answers.ofUser`: the answers of the default policy, and `Policy.ofUser`, which settles on them.
-/

set_option autoImplicit false

namespace QueryRights

/-- The questions with a plain answer. -/
inductive Question where
  | createDataSource
  | createDataSourceEnabled
  | createDestination
  | createDestinationEnabled
  | createDashboard
  | createDashboardEnabled
  | createAlert
  | createUser
  | createUserEnabled
  | createQuerySnippetEnabled
  | run
  | saveQuery
  | regenerateApiKey
  | forkQuery
  | executeQuery
  | schedule
  | editVisualization
  | editDashboard
  deriving DecidableEq

namespace Question

/-- Every question. -/
def all : List Question :=
  [.createDataSource, .createDataSourceEnabled, .createDestination, .createDestinationEnabled,
   .createDashboard, .createDashboardEnabled, .createAlert, .createUser, .createUserEnabled,
   .createQuerySnippetEnabled, .run, .saveQuery, .regenerateApiKey, .forkQuery, .executeQuery,
   .schedule, .editVisualization, .editDashboard]

/-- The name of a question. -/
def name : Question → String
  | .createDataSource => "can_create_data_source"
  | .createDataSourceEnabled => "is_create_data_source_enabled"
  | .createDestination => "can_create_destination"
  | .createDestinationEnabled => "is_create_destination_enabled"
  | .createDashboard => "can_create_dashboard"
  | .createDashboardEnabled => "is_create_dashboard_enabled"
  | .createAlert => "can_create_alert"
  | .createUser => "can_create_user"
  | .createUserEnabled => "is_create_user_enabled"
  | .createQuerySnippetEnabled => "is_create_query_snippet_enabled"
  | .run => "can_run"
  | .saveQuery => "can_save_query"
  | .regenerateApiKey => "can_regenerate_api_key"
  | .forkQuery => "can_fork_query"
  | .executeQuery => "can_execute_query"
  | .schedule => "can_schedule"
  | .editVisualization => "can_edit_visualization"
  | .editDashboard => "can_edit_dashboard"

end Question

/-- All that a policy says. -/
structure Answers where
  allows : Question → Bool
  /-- Whether an entity may be edited, given what the server says about it. -/
  allowsEdit : Option Bool → Bool
  /-- The intervals allowed for queries, if there is a list of them. -/
  queryIntervals? : Option (List Interval)
  /-- The intervals allowed for dashboards, if there is a list of them. -/
  dashboardIntervals? : Option (List Interval)

/-- How the last of a chain of policies behaves when it is refreshed. -/
inductive Ending where
  /-- It resolves to itself. -/
  | settled
  /-- It fails. -/
  | failing (failure : Failure)

/-- A policy, with what refreshing it brings. -/
structure Policy where
  /-- What the policy says now. -/
  answers : Answers
  /-- What the policies say that refreshes resolve to, one after the other. -/
  successors : List Answers
  ending : Ending

namespace Policy

/-- The policy that answers questions after a refresh. -/
def refresh (p : Policy) : Except Failure Policy :=
  match p.successors with
  | a :: rest => .ok { p with answers := a, successors := rest }
  | [] =>
    match p.ending with
    | .settled => .ok p
    | .failing failure => .error failure

/-- Whether a refresh leaves this very policy active. -/
def staysActive (p : Policy) : Bool := p.successors.isEmpty

end Policy

/-! ## The default policy

A table of requirements, and a user who meets them or not. -/

/-- What the default policy asks of a user. -/
inductive Requirement where
  | nothing
  | administrator
  /-- All of these permissions. -/
  | permissions (ps : List Permission)

namespace Requirement

/-- Whether a user meets a requirement. -/
def metBy (u : Principal) : Requirement → Bool
  | .nothing => true
  | .administrator => u.isAdmin
  | .permissions ps => ps.all fun p => u.holds p.name

end Requirement

namespace Question

/-- What the default policy asks of a user for a yes. -/
def requirement : Question → Requirement
  | .createDataSource | .createDataSourceEnabled => .administrator
  | .createDestination | .createDestinationEnabled => .administrator
  | .createDashboard | .createDashboardEnabled => .permissions [.createDashboard]
  | .createAlert => .nothing
  | .createUser | .createUserEnabled => .administrator
  | .createQuerySnippetEnabled => .nothing
  | .run => .nothing
  | .saveQuery => .permissions [.saveQuery]
  | .regenerateApiKey => .permissions [.regenerateApiKey]
  | .forkQuery => .permissions [.forkQuery]
  | .executeQuery => .permissions [.executeQuery]
  | .schedule => .permissions [.editQuerySchedule, .scheduleQuery]
  | .editVisualization => .permissions [.editVisualization]
  | .editDashboard => .permissions [.editDashboard]

end Question

namespace Answers

/-- The answers of the default policy: they follow from the permissions of the user and from the
configuration, and editing is left to what the server says. -/
def ofUser (u : Principal) (c : ClientConfig) : Answers where
  allows q := q.requirement.metBy u
  allowsEdit hint := hint == some true
  queryIntervals? := c.queryIntervals?
  dashboardIntervals? := c.dashboardIntervals?

end Answers

namespace Policy

/-- The default policy, which every refresh leaves active. -/
def ofUser (u : Principal) (c : ClientConfig) : Policy := ⟨.ofUser u c, [], .settled⟩

end Policy
end QueryRights
