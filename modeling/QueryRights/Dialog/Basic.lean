import QueryRights.QueryFlags

/-!
# The dialog that edits a schedule

A user who may edit a query and schedule it can open a modal, choose a schedule there, and have it
saved.  The dialog is that action, bound to one query.  It has all that it was made from, so that
opening it later needs nothing else; in particular it keeps the context of the time when it was
made.

A page makes dialogs as it makes flags, whenever it is drawn, and they are kept in a memo for the
same reason.  Five things are compared.  The context is not among them, but the two flags that gate
the dialog are, and they are derived from the context of the request.

Who shows the modal, who saves and who records events are collaborators of the host.  They do
things that no function here can do, so they only have numbers, and what is asked of them is
recorded where the dialog is opened (`QueryRights.Dialog.Desk`).

## What is here

* `refreshOptions`: the intervals that the dialog offers.
* `Collaborators`: who shows the modal, who saves the schedule and who records the event.  They
  belong to the host, and are known here by numbers only.
* `Dialog`: the action of editing the schedule of one query, with all that it was made from.
* `DialogMemo`: the same dialog as long as what it depends on stays the same.
-/

set_option autoImplicit false

namespace QueryRights

/-- The intervals of a list that are allowed and not among those seen before, each once. -/
def allowedOnce (allowed : List Interval) : List Interval → List Interval → List Interval
  | _, [] => []
  | seen, i :: rest =>
    if allowed.contains i && !seen.contains i then i :: allowedOnce allowed (i :: seen) rest
    else allowedOnce allowed seen rest

theorem mem_allowedOnce {allowed seen offered : List Interval} {i : Interval} :
    i ∈ allowedOnce allowed seen offered ↔ i ∈ offered ∧ i ∈ allowed ∧ i ∉ seen := by
  induction offered generalizing seen with
  | nil => simp [allowedOnce]
  | cons x rest ih =>
    rw [allowedOnce]
    split
    · by_cases hx : i = x
      · subst hx; simp_all
      · simp [ih, hx]
    · rw [ih]
      by_cases hx : i = x
      · subst hx; simp_all
      · simp [hx]

theorem nodup_allowedOnce (allowed seen offered : List Interval) :
    (allowedOnce allowed seen offered).Nodup := by
  induction offered generalizing seen with
  | nil => exact List.nodup_nil
  | cons x rest ih =>
    rw [allowedOnce]
    split
    · exact List.nodup_cons.2 ⟨fun h => by simp [mem_allowedOnce] at h, ih _⟩
    · exact ih _

/-- What is left keeps its order. -/
theorem allowedOnce_sublist (allowed seen offered : List Interval) :
    (allowedOnce allowed seen offered).Sublist offered := by
  induction offered generalizing seen with
  | nil => exact .slnil
  | cons x rest ih =>
    rw [allowedOnce]
    split
    · exact (ih _).cons_cons _
    · exact (ih _).cons _

/-- The intervals offered for a query: those configured, narrowed to the ones that the policy
allows if it has a list of these. -/
def refreshOptions (c : ClientConfig) (a : Answers) : List Interval :=
  let configured := c.queryIntervals?.getD []
  match a.queryIntervals? with
  | some allowed => allowedOnce allowed [] configured
  | none => configured

/-- What the modal is shown with. -/
structure DialogOptions where
  schedule : Option Schedule
  refreshOptions : List Interval
  deriving DecidableEq

namespace DialogOptions

/-- Options as the modal receives them. -/
def toValue (o : DialogOptions) : Value :=
  .object
    [("schedule", .optional Schedule.toValue o.schedule),
     ("refreshOptions", .list Interval.toValue o.refreshOptions)]

end DialogOptions

/-- The collaborators of a dialog, by their numbers. -/
structure Collaborators where
  modal : Nat
  updater : Nat
  recorder : Nat
  deriving DecidableEq

/-- The action of editing the schedule of a query. -/
structure Dialog where
  context : Context
  queryId : Option Int64
  schedule : Option Schedule
  canEdit : Bool
  canSchedule : Bool
  collaborators : Collaborators

namespace Dialog

/-- The dialog for a query whose flags are known. -/
def withFlags (c : Context) (q : Query) (flags : QueryFlags) (who : Collaborators) : Dialog :=
  ⟨c, q.id, q.schedule, flags.canEdit, flags.canSchedule, who⟩

/-- The dialog for a query. -/
def ofQuery (c : Context) (q : Query) (who : Collaborators) : Dialog :=
  withFlags c q (.derive c q none) who

/-- Whether opening the dialog shows the modal. -/
def isEnabled (d : Dialog) : Bool := d.canEdit && d.canSchedule

/-- What the modal is shown with. -/
def options (d : Dialog) : DialogOptions :=
  ⟨d.schedule, refreshOptions d.context.config d.context.policy.answers⟩

end Dialog

/-- What a memoized dialog depends on. -/
structure DialogKey where
  queryId : Option Int64
  schedule : Option Schedule
  canEdit : Bool
  canSchedule : Bool
  updater : Nat
  deriving DecidableEq

/-- The dialog for the last key asked about. -/
abbrev DialogMemo := Memo DialogKey Dialog

namespace DialogMemo

/-- The dialog for a query: the one held, unless the query, its schedule, a flag that it depends on
or the updater has changed.  A dialog that is held keeps the context, the modal and the recorder
that it was made with. -/
def dialog (m : DialogMemo) (c : Context) (q : Query) (who : Collaborators) :
    Shared Dialog × DialogMemo :=
  let flags := QueryFlags.derive c q none
  m.get ⟨q.id, q.schedule, flags.canEdit, flags.canSchedule, who.updater⟩ fun _ =>
    .withFlags c q flags who

end DialogMemo
end QueryRights
