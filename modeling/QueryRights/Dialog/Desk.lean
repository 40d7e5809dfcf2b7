import QueryRights.Dialog.Basic
import QueryRights.Dialog.Modal

/-!
# Editing schedules

Opening an enabled dialog shows its modal and starts an *edit*, which goes on by itself: it waits
for the modal to be answered; after a confirmation it records an event, hands the schedule over to
be saved, and waits for that to be done.  Any number of edits can be under way, and each moves at
its own time.

## What is here

* `Call`: what collaborators are asked to do.
* `Phase` and `Edit`: one edit, with its steps `Edit.respond`, `Edit.advance` and `Edit.complete`.
* `Desk`: all edits that were started, with the calls that each has made, in their order.
* `Event` and `Desk.step`: everything that can happen, in any order.  What cannot happen in a phase
  changes nothing.
-/

set_option autoImplicit false

namespace QueryRights

/-- What a collaborator is asked to do. -/
inductive Call where
  | show (modal : Nat) (options : DialogOptions)
  | record (recorder : Nat) (action objectType : String) (objectId : Option Int64)
  | update (updater : Nat) (changes : ScheduleChanges)
  deriving DecidableEq

/-- How an edit ended. -/
inductive EditOutcome where
  | dismissed
  | saved (schedule : Schedule)
  | failed (schedule : Schedule) (failure : Failure)
  deriving DecidableEq

/-- How far an edit has come. -/
inductive Phase where
  /-- The modal is shown. -/
  | waiting
  /-- The modal was left; the edit has not noticed yet. -/
  | left (outcome : Outcome)
  /-- The event is recorded. -/
  | recorded (schedule : Schedule)
  /-- The schedule is being saved. -/
  | updating (schedule : Schedule)
  /-- The saving is done; the edit has not noticed yet. -/
  | updated (schedule : Schedule) (result : Except Failure Unit)
  | finished (outcome : EditOutcome)

/-- One edit. -/
structure Edit where
  queryId : Option Int64
  updater : Nat
  recorder : Nat
  phase : Phase

namespace Edit

/-- The edit that an open dialog starts. -/
def ofDialog (d : Dialog) : Edit :=
  ⟨d.queryId, d.collaborators.updater, d.collaborators.recorder, .waiting⟩

/-- The responder of the modal acts. -/
def respond (e : Edit) (a : Answer) : Edit :=
  match e.phase with
  | .waiting => { e with phase := .left a.outcome }
  | _ => e

/-- The event of a schedule that is edited. -/
def event (e : Edit) : Call := .record e.recorder "edit_schedule" "query" e.queryId

/-- The edit takes its next step, if it is not waiting for somebody else.  Gives the calls made. -/
def advance (e : Edit) : Edit × List Call :=
  match e.phase with
  | .left .dismissed => ({ e with phase := .finished .dismissed }, [])
  | .left (.confirmed s) => ({ e with phase := .recorded s }, [e.event])
  | .recorded s => ({ e with phase := .updating s }, [.update e.updater ⟨s⟩])
  | .updated s (.ok _) => ({ e with phase := .finished (.saved s) }, [])
  | .updated s (.error failure) => ({ e with phase := .finished (.failed s failure) }, [])
  | .waiting | .updating _ | .finished _ => (e, [])

/-- The updater is done. -/
def complete (e : Edit) (result : Except Failure Unit) : Edit :=
  match e.phase with
  | .updating s => { e with phase := .updated s result }
  | _ => e

/-- How the edit ended, if it has. -/
def outcome? (e : Edit) : Option EditOutcome :=
  match e.phase with
  | .finished o => some o
  | _ => none

end Edit

/-- All edits, in the order in which they were started, and the calls made, each with the number
of its edit. -/
structure Desk where
  edits : List Edit
  log : List (Nat × Call)

/-- What can happen. -/
inductive Event where
  | opened (dialog : Dialog)
  | responded (edit : Nat) (answer : Answer)
  | advanced (edit : Nat)
  | completed (edit : Nat) (result : Except Failure Unit)

namespace Desk

/-- The desk before anything happened. -/
def empty : Desk := ⟨[], []⟩

/-- Opens a dialog.  One that is not enabled shows nothing and starts nothing. -/
def openDialog (k : Desk) (d : Dialog) : Desk :=
  if d.isEnabled then
    ⟨k.edits ++ [.ofDialog d],
      k.log ++ [(k.edits.length, .show d.collaborators.modal d.options)]⟩
  else k

/-- Changes one edit, and notes the calls that it makes. -/
def change (k : Desk) (n : Nat) (f : Edit → Edit × List Call) : Desk :=
  match k.edits[n]? with
  | some e =>
    let (e, calls) := f e
    ⟨k.edits.set n e, k.log ++ calls.map fun c => (n, c)⟩
  | none => k

/-- Something happens. -/
def step (k : Desk) : Event → Desk
  | .opened d => k.openDialog d
  | .responded n a => k.change n fun e => (e.respond a, [])
  | .advanced n => k.change n Edit.advance
  | .completed n result => k.change n fun e => (e.complete result, [])

/-- Everything that happens to an edit from its modal's answer to its end, with nothing in
between; `result` is what the updater answers, should it be asked. -/
def settle (k : Desk) (n : Nat) (a : Answer) (result : Except Failure Unit) : Desk :=
  [Event.responded n a, .advanced n, .advanced n, .completed n result, .advanced n].foldl step k

/-- How an edit ended, if it has. -/
def outcome? (k : Desk) (n : Nat) : Option EditOutcome := k.edits[n]?.bind Edit.outcome?

end Desk
end QueryRights
