import QueryRights.Dialog.Desk
import QueryRights.Proofs.Memo.Blocks

/-!
# Dialogs that are kept

The dialog of a query is kept in a memo that compares five things: the query's id, its schedule,
the two flags that gate the dialog, and the updater.  A dialog carries these five itself, so the
one that is handed out always agrees with the request in all of them: it never acts for another
query, it is enabled for nobody but who may edit and schedule now, and it saves with the updater
that was asked for.  Everything else it has from the first request of the block, and that is where
the options that it offers come from.

What a memo hands out for a request is the dialog of some earlier request, of the first one in its
block (`QueryRights.Proofs.Memo.Blocks`), and all that the two requests are known to share is their
key.  So whatever is promised of a dialog that is handed out must follow from the key.
`Dialog.key` makes this visible: it reads the five things off a dialog, and
`DialogMemo.key_handedOut` says that they are those of the request.  That is the whole safety
argument, and it holds because the key was chosen well.  If one of the flags were missing in it,
the dialog of an editor would be handed to somebody who may not edit any more.

The context is not in the key, deliberately, and so it can be out of date.  This concerns the
intervals that are offered, which come from the configuration and the policy in it.
`DialogMemo.shows_of_block` says exactly which intervals an opened dialog offers, and when they are
the present ones, and `DialogMemo.options_lag_behind` shows that they need not be.  The modal and
the recorder are those of the first request as well.

Requests here are whatever they are: any users, any queries, any policies, one after the other and
through one memo.

## What is here

* `Dialog.key` and `DialogMemo.key_handedOut`: the invariant, that a dialog handed out has the key
  of its request.
* `DialogMemo.handedOut_agrees`: what a dialog that is handed out has in common with its request,
  and which two consecutive requests share one.
* `DialogMemo.shows_of_block`: what the modal is shown with if the dialog is opened, and when these
  are the present options; `DialogMemo.options_lag_behind`: they need not be.
-/

set_option autoImplicit false

namespace QueryRights

/-- What a memo knows the dialog by. -/
def Dialog.key (d : Dialog) : DialogKey :=
  ⟨d.queryId, d.schedule, d.canEdit, d.canSchedule, d.collaborators.updater⟩

/-! ## Requests

A request with all that it depends on, what the memo compares of it, and the dialog that is made if
nothing suitable is held.  Stated like this, the memo of dialogs is a memo as any other. -/

/-- A request for the dialog of a query. -/
structure DialogRequest where
  context : Context
  query : Query
  collaborators : Collaborators

namespace DialogRequest

/-- The flags of the query, without regard to a data source. -/
def flags (r : DialogRequest) : QueryFlags := .derive r.context r.query none

/-- What the memo compares. -/
def key (r : DialogRequest) : DialogKey :=
  ⟨r.query.id, r.query.schedule, r.flags.canEdit, r.flags.canSchedule, r.collaborators.updater⟩

/-- The dialog that the request asks for. -/
def dialog (r : DialogRequest) : Dialog := .ofQuery r.context r.query r.collaborators

@[simp] theorem key_dialog (r : DialogRequest) : r.dialog.key = r.key := rfl

end DialogRequest

namespace DialogMemo

/-- The memo after some requests, the first of them first. -/
def after (requests : List DialogRequest) : DialogMemo :=
  requests.foldl (fun m r => (DialogMemo.dialog m r.context r.query r.collaborators).2) .empty

/-- The dialog that is handed out for a request that follows others. -/
def handedOut (earlier : List DialogRequest) (r : DialogRequest) : Shared Dialog :=
  (DialogMemo.dialog (after earlier) r.context r.query r.collaborators).1

/-- The first request of the block that ends with a request: of the longest stretch of consecutive
requests with its key. -/
def blockStart (earlier : List DialogRequest) (r : DialogRequest) : DialogRequest :=
  Memo.blockStart DialogRequest.key earlier r

theorem handedOut_eq (earlier : List DialogRequest) (r : DialogRequest) :
    handedOut earlier r = Memo.handed DialogRequest.key DialogRequest.dialog earlier r := rfl

/-- The dialog handed out is the one that the first request of the block asked for. -/
theorem value_handedOut (earlier : List DialogRequest) (r : DialogRequest) :
    (handedOut earlier r).value = (blockStart earlier r).dialog := by
  rw [handedOut_eq, Memo.value_handed]
  rfl

/-- **The dialog handed out has the key of its request.** -/
theorem key_handedOut (earlier : List DialogRequest) (r : DialogRequest) :
    (handedOut earlier r).value.key = r.key := by
  rw [value_handedOut, DialogRequest.key_dialog]
  exact Memo.key_blockStart _ _ _

/-! ## Whom a dialog acts for

What follows from the key, field by field, and that two requests in a row share a dialog exactly if
their keys are equal. -/

/-- **A dialog that is handed out acts for its request**: it is enabled if the flags of this request
allow it, it carries the id and the schedule of this query, and it saves with this updater.  The
next request gets the very same dialog exactly when it agrees in all five. -/
theorem handedOut_agrees (earlier : List DialogRequest) (r : DialogRequest) :
    ((handedOut earlier r).value.isEnabled = (r.flags.canEdit && r.flags.canSchedule) ∧
        (handedOut earlier r).value.queryId = r.query.id ∧
        (handedOut earlier r).value.schedule = r.query.schedule ∧
        (handedOut earlier r).value.collaborators.updater = r.collaborators.updater) ∧
      ∀ next : DialogRequest,
        (handedOut (earlier ++ [r]) next).serial = (handedOut earlier r).serial ↔
          r.query.id = next.query.id ∧ r.query.schedule = next.query.schedule ∧
            r.flags.canEdit = next.flags.canEdit ∧ r.flags.canSchedule = next.flags.canSchedule ∧
            r.collaborators.updater = next.collaborators.updater := by
  constructor
  · have hkey := key_handedOut earlier r
    rw [Dialog.key, DialogRequest.key, DialogKey.mk.injEq] at hkey
    obtain ⟨hid, hschedule, hedit, hscheduling, hupdater⟩ := hkey
    refine ⟨?_, hid, hschedule, hupdater⟩
    rw [Dialog.isEnabled, hedit, hscheduling]
  · intro next
    rw [handedOut_eq, handedOut_eq, Memo.serial_handed_concat, DialogRequest.key,
      DialogRequest.key, DialogKey.mk.injEq]

end DialogMemo

/-! ## What a dialog offers

What does not follow from the key.  Opening the dialog at a desk is what makes the difference
visible, so the statements are about the options that a modal is shown with. -/

/-- The intervals that a dialog offers in a context. -/
def Context.offers (c : Context) : List Interval := refreshOptions c.config c.policy.answers

/-- Two contexts have the same intervals for queries: those configured and those allowed. -/
structure Context.IntervalsAs (c d : Context) : Prop where
  configured : c.config.queryIntervals? = d.config.queryIntervals?
  allowed : c.policy.answers.queryIntervals? = d.policy.answers.queryIntervals?

theorem Context.IntervalsAs.offers_eq {c d : Context} (h : c.IntervalsAs d) :
    c.offers = d.offers := by
  rw [offers, offers, refreshOptions, refreshOptions, h.configured, h.allowed]

/-- Opening a dialog at a desk shows a modal, with these options. -/
def Desk.Shows (k : Desk) (d : Dialog) (modal : Nat) (options : DialogOptions) : Prop :=
  (k.step (.opened d)).log = k.log ++ [(k.edits.length, .show modal options)]

instance (k : Desk) (d : Dialog) (modal : Nat) (options : DialogOptions) :
    Decidable (k.Shows d modal options) := inferInstanceAs (Decidable (_ = _))

theorem Desk.shows_iff {d : Dialog} (h : d.isEnabled = true) (k : Desk) (modal : Nat)
    (options : DialogOptions) :
    k.Shows d modal options ↔ d.collaborators.modal = modal ∧ d.options = options := by
  simp [Shows, step, openDialog, h]

namespace DialogMemo

theorem options_handedOut (earlier : List DialogRequest) (r : DialogRequest) :
    (handedOut earlier r).value.options =
      ⟨r.query.schedule, (blockStart earlier r).context.offers⟩ := by
  rw [Dialog.options, (handedOut_agrees earlier r).1.2.2.1, value_handedOut]
  rfl

/-- **A dialog that is handed out offers what the context that its block began in offers**, and so
what its request's own context offers exactly when the two offer the same.  They do if the
intervals have not changed in between, and for a request that starts a block. -/
theorem shows_of_block (earlier : List DialogRequest) (r : DialogRequest) (k : Desk)
    (h : (handedOut earlier r).value.isEnabled = true) :
    let d := (handedOut earlier r).value
    let first := blockStart earlier r
    k.Shows d first.collaborators.modal ⟨r.query.schedule, first.context.offers⟩ ∧
      (k.Shows d first.collaborators.modal ⟨r.query.schedule, r.context.offers⟩ ↔
        first.context.offers = r.context.offers) ∧
      (first.context.IntervalsAs r.context ∨ (∀ p ∈ earlier.getLast?, p.key ≠ r.key) →
        k.Shows d first.collaborators.modal ⟨r.query.schedule, r.context.offers⟩) := by
  intro d first
  have hmodal : d.collaborators.modal = first.collaborators.modal := by
    simp only [d, value_handedOut]
    rfl
  have hown : k.Shows d first.collaborators.modal ⟨r.query.schedule, r.context.offers⟩ ↔
      first.context.offers = r.context.offers := by
    rw [Desk.shows_iff h, options_handedOut, DialogOptions.mk.injEq]
    exact ⟨fun hshown => hshown.2.2, fun hsame => ⟨hmodal, rfl, hsame⟩⟩
  refine ⟨(Desk.shows_iff h _ _ _).2 ⟨hmodal, options_handedOut _ _⟩, hown, ?_⟩
  rintro (hsame | hnew)
  · exact hown.2 hsame.offers_eq
  · have hstart : first = r := Memo.blockStart_eq_self DialogRequest.key hnew
    exact hown.2 (by rw [hstart])

/-- A query that has been renamed in the meantime, while the intervals for dashboards changed, and
another query, while those for queries changed: both are offered the present options. -/
theorem shows_of_block_after_changes :
    let u := User.withPermissions ["edit_query", "edit_query_schedule", "schedule_query"]
    let q : Query := { Query.saved 1 "select 1" with editable := some true }
    let c : Context := .ofUser u.principal ⟨some (ClientConfig.stock [60, 300]), none⟩
    let d : Context :=
      .ofUser u.principal ⟨some (ClientConfig.stock [60, 300]), some (ClientConfig.stock [60])⟩
    let e : Context := .ofUser u.principal ⟨some (ClientConfig.stock [60]), none⟩
    let renamed : DialogRequest := ⟨d, { q with name := "visits" }, ⟨1, 0, 1⟩⟩
    let other : DialogRequest := ⟨e, { q with id := some 2 }, ⟨1, 0, 1⟩⟩
    let earlier : List DialogRequest := [⟨c, q, ⟨0, 0, 0⟩⟩]
    ((handedOut earlier renamed).value.isEnabled = true ∧
        (blockStart earlier renamed).context.IntervalsAs d ∧
        Desk.empty.Shows (handedOut earlier renamed).value 0 ⟨none, d.offers⟩) ∧
      (handedOut earlier other).value.isEnabled = true ∧
        (∀ p ∈ earlier.getLast?, p.key ≠ other.key) ∧
        Desk.empty.Shows (handedOut earlier other).value 1 ⟨none, e.offers⟩ := by
  intro u q c d e renamed other earlier
  have hrenamed : (handedOut earlier renamed).value.isEnabled = true := by decide
  have hsame : (blockStart earlier renamed).context.IntervalsAs d := ⟨rfl, rfl⟩
  have hother : (handedOut earlier other).value.isEnabled = true := by decide
  have hnew : ∀ p ∈ earlier.getLast?, p.key ≠ other.key := by decide
  exact ⟨⟨hrenamed, hsame, (shows_of_block earlier renamed .empty hrenamed).2.2 (.inl hsame)⟩,
    hother, hnew, (shows_of_block earlier other .empty hother).2.2 (.inr hnew)⟩

/-- **A change of the intervals alone goes unnoticed**: after the configuration, or only the policy,
has given up an interval, the dialog still offers it. -/
theorem options_lag_behind :
    let u := User.withPermissions ["edit_query", "edit_query_schedule", "schedule_query"]
    let q : Query := { Query.saved 1 "select 1" with editable := some true }
    let c : Context := .ofUser u.principal ⟨some (ClientConfig.stock [60, 300]), none⟩
    let configured : Context := .ofUser u.principal ⟨some (ClientConfig.stock [60]), none⟩
    let allowed := c.withPolicy configured.policy
    let offered := fun d : Context => (handedOut [⟨c, q, ⟨0, 0, 0⟩⟩] ⟨d, q, ⟨0, 0, 0⟩⟩).value
    ((offered configured).isEnabled = true ∧ configured.offers = [⟨60⟩] ∧
        Desk.empty.Shows (offered configured) 0 ⟨none, [⟨60⟩, ⟨300⟩]⟩) ∧
      (offered allowed).isEnabled = true ∧ allowed.offers = [⟨60⟩] ∧
        Desk.empty.Shows (offered allowed) 0 ⟨none, [⟨60⟩, ⟨300⟩]⟩ := by
  decide

end DialogMemo
end QueryRights
