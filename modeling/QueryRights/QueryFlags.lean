import QueryRights.Context
import QueryRights.Entity.DataSource
import QueryRights.Entity.Query
import QueryRights.Memo

/-!
# Flags of a query page

What the current user can do with a query, as a page shows it.  There are fourteen flags.  Three of
them repeat what the query says of itself, three are permissions of the user, and the others ask
the active policy.  Editing asks both, and running and forking also look at the query and at its
source.

A page asks for flags whenever it is drawn, so they are kept.  The memo compares the query and the
view-only mark of the source, and nothing of the context.  That is how a page sees flags that are
out of date if the context alone has changed.

## What is here

* `QueryFlags.lowered`: the flags that are all down.
* `QueryFlags.derive`: the flags of a query on a data source.  A source that is not known counts as
  view-only.
* `FlagsMemo`: flags computed again only when the query or the view-only mark changes.
-/

set_option autoImplicit false

namespace QueryRights

/-- What the current user can do with a query. -/
structure QueryFlags where
  isNew : Bool
  isDraft : Bool
  isArchived : Bool
  canCreate : Bool
  canView : Bool
  canEdit : Bool
  canViewSource : Bool
  canExecute : Bool
  canFork : Bool
  canSchedule : Bool
  canSave : Bool
  canRegenerateApiKey : Bool
  canEditVisualization : Bool
  canEditDashboard : Bool
  deriving DecidableEq

namespace DataSource

/-- Whether only safe queries run, on a source that may not be known. -/
def isViewOnly : Option DataSource → Bool
  | none => true
  | some d => d.viewOnly

end DataSource

namespace QueryFlags

/-- The flags that are all down. -/
def lowered : QueryFlags :=
  ⟨false, false, false, false, false, false, false, false, false, false, false, false, false,
    false⟩

/-- The flags of a query. -/
def derive (c : Context) (q : Query) (source : Option DataSource) : QueryFlags :=
  let viewOnly := DataSource.isViewOnly source
  let answers := c.policy.answers
  { isNew := q.isNew
    isDraft := q.isDraft
    isArchived := q.isArchived
    canCreate := c.holds Permission.createQuery.name
    canView := c.holds Permission.viewQuery.name
    canEdit := c.holds Permission.editQuery.name && answers.allowsEdit q.editable
    canViewSource := c.holds Permission.viewSource.name
    canExecute := q.text != "" && answers.allows .executeQuery && (q.isSafe || !viewOnly)
    canFork := answers.allows .forkQuery && !viewOnly
    canSchedule := answers.allows .schedule
    canSave := answers.allows .saveQuery
    canRegenerateApiKey := answers.allows .regenerateApiKey
    canEditVisualization := answers.allows .editVisualization
    canEditDashboard := answers.allows .editDashboard }

/-- Flags as a page receives them. -/
def toValue (f : QueryFlags) : Value :=
  .object
    [("isNew", .bool f.isNew),
     ("isDraft", .bool f.isDraft),
     ("isArchived", .bool f.isArchived),
     ("canCreate", .bool f.canCreate),
     ("canView", .bool f.canView),
     ("canEdit", .bool f.canEdit),
     ("canViewSource", .bool f.canViewSource),
     ("canExecute", .bool f.canExecute),
     ("canFork", .bool f.canFork),
     ("canSchedule", .bool f.canSchedule),
     ("canSave", .bool f.canSave),
     ("canRegenerateApiKey", .bool f.canRegenerateApiKey),
     ("canEditVisualization", .bool f.canEditVisualization),
     ("canEditDashboard", .bool f.canEditDashboard)]

end QueryFlags

/-- The flags for the last query and view-only mark asked about. -/
abbrev FlagsMemo := Memo (Query × Bool) QueryFlags

namespace FlagsMemo

/-- The flags of a query: those held, unless the query or the view-only mark has changed.  A
change of the context alone goes unnoticed. -/
def flags (m : FlagsMemo) (c : Context) (q : Query) (source : Option DataSource) :
    Shared QueryFlags × FlagsMemo :=
  m.get (q, DataSource.isViewOnly source) fun _ => .derive c q source

end FlagsMemo
end QueryRights
