import QueryRights.Entity.Schedule

/-!
# Modals

A modal is shown to the user and answered once.  Its responder can confirm a schedule, dismiss the
modal, or be dropped without a word, which counts as a dismissal; the other end waits for that, or
goes away, or leaves a callback behind.

The two ends act independently and in any order, so a modal is a state that both change, one move
after the other.  There is no time in it: an end that waits is one that asks again.  An answer may
be there before anybody asks for it, and it is there for good, but it can be learned only once.

A callback is only called with a confirmed schedule, and not when the responder acts but when the
waiting end is moved along (`Channel.advance`).  Leaving a callback behind uses up the waiting end,
so nobody can go on to ask.

## What is here

* `Answer` and `Outcome`: what the responder does, and what the waiting end learns.
* `Channel`: the two ends of a modal, with `respond`, `poll`, `listen`, `advance` and `close`.
-/

set_option autoImplicit false

namespace QueryRights

/-- What the responder of a modal does, once. -/
inductive Answer where
  | confirm (schedule : Schedule)
  | dismiss
  /-- The responder goes away without a word. -/
  | drop
  deriving DecidableEq

/-- How the user left a modal. -/
inductive Outcome where
  | confirmed (schedule : Schedule)
  | dismissed
  deriving DecidableEq

namespace Answer

/-- What the waiting end learns. -/
def outcome : Answer → Outcome
  | .confirm s => .confirmed s
  | .dismiss => .dismissed
  | .drop => .dismissed

end Answer

/-- What the waiting end of a modal is doing. -/
inductive Receiver where
  /-- It can be asked for the outcome. -/
  | held
  /-- A callback waits for a confirmation. -/
  | listening
  /-- It has learned the outcome. -/
  | resolved (outcome : Outcome)
  /-- It is gone. -/
  | closed
  deriving DecidableEq

/-- The two ends of a modal. -/
structure Channel where
  /-- What the responder did, if it has done anything. -/
  answer : Option Answer
  receiver : Receiver
  /-- The schedules that the callback was called with. -/
  called : List Schedule
  deriving DecidableEq

namespace Channel

/-- A modal that was just shown. -/
def opened : Channel := ⟨none, .held, []⟩

/-- The responder acts.  It can do so once; nobody needs to be waiting. -/
def respond (c : Channel) (a : Answer) : Channel :=
  match c.answer with
  | none => { c with answer := some a }
  | some _ => c

/-- The waiting end asks for the outcome, and learns it once the responder has acted. -/
def poll (c : Channel) : Option Outcome × Channel :=
  match c.receiver, c.answer with
  | .held, some a => (some a.outcome, { c with receiver := .resolved a.outcome })
  | _, _ => (none, c)

/-- The waiting end leaves a callback behind. -/
def listen (c : Channel) : Channel :=
  match c.receiver with
  | .held => { c with receiver := .listening }
  | _ => c

/-- The callback runs, if there is one and the responder has confirmed a schedule. -/
def advance (c : Channel) : Channel :=
  match c.receiver, c.answer with
  | .listening, some a =>
    match a.outcome with
    | .confirmed s => { c with receiver := .resolved (.confirmed s), called := c.called ++ [s] }
    | .dismissed => { c with receiver := .resolved .dismissed }
  | _, _ => c

/-- The waiting end goes away. -/
def close (c : Channel) : Channel :=
  match c.receiver with
  | .held => { c with receiver := .closed }
  | _ => c

end Channel
end QueryRights
