import Mathlib.Data.List.Induction
import QueryRights.Dialog.Desk

/-!
# What an edit does, whatever else happens

Any number of edits can be under way at a desk, of the same dialog or of different ones, and what
happens to them comes in any order.  An edit notices only what happens to itself.  So its history
is short: its modal is shown; perhaps it is answered, and perhaps with a schedule; then the event
is recorded once, that schedule is handed over once to be saved, and the outcome says how the
updater came back.

The difficulty lies in "itself". The desk is one list of edits and one log of calls, and an event
names an edit by its number.  Events can name edits that were never started, answer a modal a
second time, or report on a schedule that was never handed over; all of that may come, and none of
it may have an effect.  The proof keeps two accounts of one edit and compares them.

* What can be read off the events: which dialog was opened as the `n`-th that was enabled, and the
  first *reply* to each of the two calls that wait for one.  A reply counts from the call on, for
  which `Desk.firstReply` has to follow the desk along.  These are `dialogsIn`, `answerIn` and
  `resultIn`.
* What can be read off the desk: the calls in the log under the number, and the edit with the phase
  that it is in.

`Standing` lists the eight ways in which the two fit together, one for each phase with the replies
that must have come and the calls that must have been made.  `Account` adds the case that the edit
was not started yet.  With it there is one lemma for each thing that can happen to an edit, and
`Account.step` puts them together for events that name this edit or another one: an event of
another edit changes neither account.  `account_run` is then an induction over the events, and
whatever one wants to know about an edit is a look at nine cases.

That an edit makes progress is another matter, and depends on who lets it.  If nothing interferes,
the five events of `Desk.settle` lead it to its end (`settle_waiting`).

## What is here

* `Desk.run`: the desk after any events, and what can be read off these: `dialogsIn`, the dialogs
  that were opened with success, and `answerIn` and `resultIn`, the first replies of a modal's
  responder and of an updater to the calls that an edit made.
* `Standing` and `Account`: how an edit can stand, given these replies.
* `account_run`: after any events every edit stands in one of these ways.
* `calls_of_run`: the calls and the outcome of every edit, in every reachable state.
* `settle_waiting`: what becomes of an edit that nothing interferes with.
-/

set_option autoImplicit false

namespace QueryRights

/-! ## Calls and replies

The vocabulary of the statements, all of it in terms of events and of the log: what an opening
calls for, and what counts as the reply to a call. -/

namespace Dialog

/-- What opening the dialog calls for at once. -/
def showing (d : Dialog) : Call := .show d.collaborators.modal d.options

/-- The event that the dialog's query is edited. -/
def recording (d : Dialog) : Call :=
  .record d.collaborators.recorder "edit_schedule" "query" d.queryId

/-- Handing over a schedule to be saved. -/
def updating (d : Dialog) (s : Schedule) : Call := .update d.collaborators.updater ⟨s⟩

/-- The edit of the dialog in a phase. -/
def edit (d : Dialog) (phase : Phase) : Edit := { Edit.ofDialog d with phase }

end Dialog

namespace Call

/-- Whether a modal is shown. -/
def isShow : Call → Bool
  | .show .. => true
  | _ => false

/-- Whether a schedule is handed over. -/
def isUpdate : Call → Bool
  | .update .. => true
  | _ => false

end Call

namespace Event

/-- The dialog that is opened, if that starts an edit. -/
def dialog? : Event → Option Dialog
  | .opened d => if d.isEnabled then some d else none
  | _ => none

theorem dialog?_eq_some {e : Event} {d : Dialog} :
    e.dialog? = some d ↔ e = .opened d ∧ d.isEnabled = true := by
  cases e with
  | opened c =>
    rw [dialog?, opened.injEq]
    constructor
    · intro h
      split at h
      · rename_i hc
        cases h
        exact ⟨rfl, hc⟩
      · cases h
    · rintro ⟨rfl, h⟩
      rw [if_pos h]
  | responded => simp [dialog?]
  | advanced => simp [dialog?]
  | completed => simp [dialog?]

/-- What the responder of an edit's modal does. -/
def answer? (n : Nat) : Event → Option Answer
  | .responded m a => if m = n then some a else none
  | _ => none

/-- How the updater comes back to an edit. -/
def result? (n : Nat) : Event → Option (Except Failure Unit)
  | .completed m r => if m = n then some r else none
  | _ => none

end Event

namespace Desk

/-- The desk after some events, the first of them first. -/
def run (events : List Event) : Desk := events.foldl step empty

/-- The calls that an edit has made, in their order. -/
def callsOf (k : Desk) (n : Nat) : List Call :=
  k.log.filterMap fun e => if e.1 = n then some e.2 else none

/-- The first reply to a call that an edit made: `isCall` says to which, and `reply?` what counts as
one.  What comes before the call replies to nothing. -/
def firstReply {α : Type} (n : Nat) (isCall : Call → Bool) (reply? : Event → Option α) :
    Desk → List Event → Option α
  | _, [] => none
  | k, e :: rest =>
    (if (k.callsOf n).any isCall then reply? e else none).or
      (firstReply n isCall reply? (k.step e) rest)

end Desk

/-- The dialogs that were opened with success, in their order: edit `n` is of the `n`-th. -/
def dialogsIn (events : List Event) : List Dialog := events.filterMap Event.dialog?

/-- How the modal of an edit was answered. -/
def answerIn (events : List Event) (n : Nat) : Option Answer :=
  Desk.firstReply n Call.isShow (Event.answer? n) .empty events

/-- How the updater came back to an edit. -/
def resultIn (events : List Event) (n : Nat) : Option (Except Failure Unit) :=
  Desk.firstReply n Call.isUpdate (Event.result? n) .empty events

/-! ## What one event changes

An event changes one edit at most and notes calls for no other.  These are the frame lemmas that
make it possible to speak of a single edit from here on. -/

namespace Desk

theorem run_concat (events : List Event) (e : Event) :
    run (events ++ [e]) = (run events).step e := by
  simp [run]

theorem firstReply_concat {α : Type} (n : Nat) (isCall : Call → Bool) (reply? : Event → Option α)
    (k : Desk) (events : List Event) (e : Event) :
    firstReply n isCall reply? k (events ++ [e]) =
      (firstReply n isCall reply? k events).or
        (if ((events.foldl step k).callsOf n).any isCall then reply? e else none) := by
  induction events generalizing k with
  | nil => simp [firstReply]
  | cons x rest ih => simp [firstReply, ih, Option.or_assoc]

theorem change_of_none {k : Desk} {m : Nat} (h : k.edits[m]? = none)
    (f : Edit → Edit × List Call) : k.change m f = k := by
  rw [change, h]

theorem change_of_some {k : Desk} {m : Nat} {e : Edit} (h : k.edits[m]? = some e)
    (f : Edit → Edit × List Call) :
    k.change m f = ⟨k.edits.set m (f e).1, k.log ++ (f e).2.map fun c => (m, c)⟩ := by
  rw [change, h]

theorem length_edits_change (k : Desk) (m : Nat) (f : Edit → Edit × List Call) :
    (k.change m f).edits.length = k.edits.length := by
  cases h : k.edits[m]? with
  | none => rw [change_of_none h]
  | some e => rw [change_of_some h, List.length_set]

/-- A change of one edit is seen by that edit only. -/
theorem getElem?_edits_change (k : Desk) (m n : Nat) (f : Edit → Edit × List Call) :
    (k.change m f).edits[n]? =
      if m = n then k.edits[n]?.map fun e => (f e).1 else k.edits[n]? := by
  by_cases hmn : m = n
  · subst hmn
    cases h : k.edits[m]? with
    | none => simp [change_of_none h, h]
    | some e =>
      have hm : m < k.edits.length := (List.getElem?_eq_some_iff.1 h).1
      simp [change_of_some h, hm]
  · cases h : k.edits[m]? with
    | none => simp [change_of_none h, hmn]
    | some e => simp [change_of_some h, hmn]

/-- Calls noted for one edit are calls of that edit only. -/
theorem filterMap_noted (m n : Nat) (calls : List Call) :
    ((calls.map fun c => (m, c)).filterMap fun e => if e.1 = n then some e.2 else none) =
      if m = n then calls else [] := by
  induction calls with
  | nil => simp
  | cons c rest ih =>
    rw [List.map_cons, List.filterMap_cons, ih]
    by_cases hmn : m = n
    · simp only [if_pos hmn]
    · simp only [if_neg hmn]

/-- The calls of a change are noted for that edit only. -/
theorem callsOf_change (k : Desk) (m n : Nat) (f : Edit → Edit × List Call) :
    (k.change m f).callsOf n =
      k.callsOf n ++ if m = n then k.edits[n]?.elim [] fun e => (f e).2 else [] := by
  cases h : k.edits[m]? with
  | none =>
    rw [change_of_none h]
    by_cases hmn : m = n
    · simp [← hmn, h]
    · simp [hmn]
  | some e =>
    rw [change_of_some h, callsOf, List.filterMap_append, filterMap_noted]
    by_cases hmn : m = n
    · simp [← hmn, h, callsOf]
    · simp [hmn, callsOf]

/-- A change without calls. -/
theorem callsOf_change_nil (k : Desk) (m n : Nat) (f : Edit → Edit) :
    (k.change m fun e => (f e, [])).callsOf n = k.callsOf n := by
  rw [callsOf_change]
  cases k.edits[n]? <;> simp

/-- An opened dialog starts a new edit, if it is enabled. -/
theorem openDialog_of_enabled {d : Dialog} (h : d.isEnabled = true) (k : Desk) :
    k.openDialog d = ⟨k.edits ++ [.ofDialog d], k.log ++ [(k.edits.length, d.showing)]⟩ := by
  rw [openDialog, if_pos h]
  rfl

theorem callsOf_openDialog {d : Dialog} (h : d.isEnabled = true) (k : Desk) (n : Nat) :
    (k.openDialog d).callsOf n =
      k.callsOf n ++ if k.edits.length = n then [d.showing] else [] := by
  rw [openDialog_of_enabled h]
  by_cases hn : k.edits.length = n
  · simp [callsOf, hn]
  · simp [callsOf, hn]

theorem openDialog_of_disabled {d : Dialog} (h : d.isEnabled = false) (k : Desk) :
    k.openDialog d = k := by
  simp [openDialog, h]

end Desk

theorem dialogsIn_concat (events : List Event) (e : Event) :
    dialogsIn (events ++ [e]) = dialogsIn events ++ e.dialog?.toList := by
  rw [dialogsIn, List.filterMap_append]
  cases h : e.dialog? <;> simp [dialogsIn, h]

theorem answerIn_concat (events : List Event) (e : Event) (n : Nat) :
    answerIn (events ++ [e]) n = (answerIn events n).or
      (if ((Desk.run events).callsOf n).any Call.isShow then e.answer? n else none) :=
  Desk.firstReply_concat ..

theorem resultIn_concat (events : List Event) (e : Event) (n : Nat) :
    resultIn (events ++ [e]) n = (resultIn events n).or
      (if ((Desk.run events).callsOf n).any Call.isUpdate then e.result? n else none) :=
  Desk.firstReply_concat ..

/-! ## How an edit can stand

The invariant of a single edit, and for each thing that can happen to it a lemma that leads from
one way to stand to the next.  The cases follow the constructors: in most of them the edit is not
waiting for what has happened, and stands as before. -/

/-- How an edit of a dialog can stand: the reply of its modal's responder, the reply of the updater,
the calls that it has made, and what it is. -/
inductive Standing (d : Dialog) :
    Option Answer → Option (Except Failure Unit) → List Call → Edit → Prop
  | waiting : Standing d none none [d.showing] (d.edit .waiting)
  | left (a : Answer) : Standing d (some a) none [d.showing] (d.edit (.left a.outcome))
  | recorded (s : Schedule) :
      Standing d (some (.confirm s)) none [d.showing, d.recording] (d.edit (.recorded s))
  | updating (s : Schedule) :
      Standing d (some (.confirm s)) none [d.showing, d.recording, d.updating s]
        (d.edit (.updating s))
  | updated (s : Schedule) (r : Except Failure Unit) :
      Standing d (some (.confirm s)) (some r) [d.showing, d.recording, d.updating s]
        (d.edit (.updated s r))
  | dismissed {a : Answer} (h : a.outcome = .dismissed) :
      Standing d (some a) none [d.showing] (d.edit (.finished .dismissed))
  | saved (s : Schedule) :
      Standing d (some (.confirm s)) (some (.ok ())) [d.showing, d.recording, d.updating s]
        (d.edit (.finished (.saved s)))
  | failed (s : Schedule) (failure : Failure) :
      Standing d (some (.confirm s)) (some (.error failure))
        [d.showing, d.recording, d.updating s] (d.edit (.finished (.failed s failure)))

namespace Standing

variable {d : Dialog} {a : Option Answer} {r : Option (Except Failure Unit)} {calls : List Call}
  {e : Edit}

/-- Every edit has shown its modal. -/
theorem any_isShow (h : Standing d a r calls e) : calls.any Call.isShow = true := by
  cases h <;> rfl

theorem respond (h : Standing d a r calls e) (b : Answer) :
    Standing d (a.or (some b)) r calls (e.respond b) := by
  cases h with
  | waiting => exact .left b
  | left a => exact .left a
  | recorded s => exact .recorded s
  | updating s => exact .updating s
  | updated s x => exact .updated s x
  | dismissed ha => exact .dismissed ha
  | saved s => exact .saved s
  | failed s failure => exact .failed s failure

theorem advance (h : Standing d a r calls e) :
    Standing d a r (calls ++ e.advance.2) e.advance.1 := by
  cases h with
  | waiting => exact .waiting
  | left a =>
    cases a with
    | confirm s => exact .recorded s
    | dismiss => exact .dismissed rfl
    | drop => exact .dismissed rfl
  | recorded s => exact .updating s
  | updating s => exact .updating s
  | updated s x =>
    cases x with
    | ok => exact .saved s
    | error failure => exact .failed s failure
  | dismissed ha => exact .dismissed ha
  | saved s => exact .saved s
  | failed s failure => exact .failed s failure

theorem complete (h : Standing d a r calls e) (x : Except Failure Unit) :
    Standing d a (r.or (if calls.any Call.isUpdate then some x else none)) calls
      (e.complete x) := by
  cases h with
  | waiting => exact .waiting
  | left a => exact .left a
  | recorded s => exact .recorded s
  | updating s => exact .updated s x
  | updated s y => exact .updated s y
  | dismissed ha => exact .dismissed ha
  | saved s => exact .saved s
  | failed s failure => exact .failed s failure

end Standing

/-- How a desk can stand with an edit: it has not been started, and nothing was done about it; or it
is an edit of a dialog. -/
inductive Account :
    Option Dialog → Option Answer → Option (Except Failure Unit) → List Call → Option Edit → Prop
  | idle : Account none none none [] none
  | started {d : Dialog} {a : Option Answer} {r : Option (Except Failure Unit)} {calls : List Call}
      {e : Edit} (h : Standing d a r calls e) : Account (some d) a r calls (some e)

namespace Account

variable {d : Option Dialog} {a : Option Answer} {r : Option (Except Failure Unit)}
  {calls : List Call} {e : Option Edit}

theorem of_none (h : Account none a r calls e) : a = none ∧ r = none ∧ calls = [] ∧ e = none := by
  cases h
  exact ⟨rfl, rfl, rfl, rfl⟩

theorem of_some {d : Dialog} (h : Account (some d) a r calls e) :
    ∃ x, e = some x ∧ Standing d a r calls x := by
  cases h with
  | started h => exact ⟨_, rfl, h⟩

theorem respond (h : Account d a r calls e) (b : Answer) :
    Account d (a.or (if calls.any Call.isShow then some b else none)) r calls
      (e.map fun e => e.respond b) := by
  cases h with
  | idle => exact .idle
  | started h =>
    rw [if_pos h.any_isShow]
    exact .started (h.respond b)

theorem advance (h : Account d a r calls e) :
    Account d a r (calls ++ e.elim [] fun e => e.advance.2) (e.map fun e => e.advance.1) := by
  cases h with
  | idle => exact .idle
  | started h => exact .started h.advance

theorem complete (h : Account d a r calls e) (x : Except Failure Unit) :
    Account d a (r.or (if calls.any Call.isUpdate then some x else none)) calls
      (e.map fun e => e.complete x) := by
  cases h with
  | idle => exact .idle
  | started h => exact .started (h.complete x)

end Account

/-! ## Runs

One event, then any number of them.  An opening is the one event that adds an edit, which is why it
has a lemma of its own. -/

namespace Account

variable {d : Option Dialog} {a : Option Answer} {r : Option (Except Failure Unit)} {k : Desk}
  {n : Nat}

/-- **An event that starts no edit takes every edit from one way to stand to another**, and only
the edit that it is about. -/
theorem step (h : Account d a r (k.callsOf n) k.edits[n]?) {e : Event} (he : e.dialog? = none) :
    Account d (a.or (if (k.callsOf n).any Call.isShow then e.answer? n else none))
      (r.or (if (k.callsOf n).any Call.isUpdate then e.result? n else none))
      ((k.step e).callsOf n) (k.step e).edits[n]? := by
  cases e with
  | opened d =>
    have hd : d.isEnabled = false := by simpa [Event.dialog?] using he
    simpa [Desk.step, Desk.openDialog_of_disabled hd, Event.answer?, Event.result?] using h
  | responded m b =>
    simp only [Desk.step, Desk.getElem?_edits_change, Desk.callsOf_change_nil, Event.answer?,
      Event.result?]
    by_cases hmn : m = n
    · simpa [hmn] using h.respond b
    · simpa [hmn] using h
  | advanced m =>
    simp only [Desk.step, Desk.getElem?_edits_change, Desk.callsOf_change, Event.answer?,
      Event.result?]
    by_cases hmn : m = n
    · simpa [hmn] using h.advance
    · simpa [hmn] using h
  | completed m x =>
    simp only [Desk.step, Desk.getElem?_edits_change, Desk.callsOf_change_nil, Event.answer?,
      Event.result?]
    by_cases hmn : m = n
    · simpa [hmn] using h.complete x
    · simpa [hmn] using h

/-- A new edit waits for its modal; the others stand as before. -/
theorem opened {dialogs : List Dialog} (h : Account dialogs[n]? a r (k.callsOf n) k.edits[n]?)
    (hlength : k.edits.length = dialogs.length) {d : Dialog} (hd : d.isEnabled = true) :
    Account (dialogs ++ [d])[n]? a r ((k.openDialog d).callsOf n) (k.openDialog d).edits[n]? := by
  rw [Desk.callsOf_openDialog hd, Desk.openDialog_of_enabled hd]
  rcases Nat.lt_or_ge n dialogs.length with hn | hn
  · rw [List.getElem?_append_left hn, List.getElem?_append_left (hlength ▸ hn),
      if_neg (by omega), List.append_nil]
    exact h
  · obtain ⟨rfl, rfl, hcalls, -⟩ := (List.getElem?_eq_none hn ▸ h).of_none
    rw [hcalls]
    rcases Nat.eq_or_lt_of_le hn with rfl | hn
    · rw [List.getElem?_concat_length, ← hlength, List.getElem?_concat_length, if_pos rfl]
      exact .started .waiting
    · rw [List.getElem?_eq_none (by simp; omega), if_neg (by omega),
        List.getElem?_eq_none (by simp; omega)]
      exact .idle

end Account

/-- There are as many edits as dialogs that were opened with success. -/
theorem length_edits_run (events : List Event) :
    (Desk.run events).edits.length = (dialogsIn events).length := by
  induction events using List.reverseRecOn with
  | nil => rfl
  | append_singleton events e ih =>
    rw [Desk.run_concat, dialogsIn_concat]
    cases e with
    | opened d =>
      cases h : d.isEnabled with
      | true => simp [Desk.step, Desk.openDialog_of_enabled h, Event.dialog?, h, ih]
      | false => simp [Desk.step, Desk.openDialog_of_disabled h, Event.dialog?, h, ih]
    | responded m b => simp [Desk.step, Desk.length_edits_change, Event.dialog?, ih]
    | advanced m => simp [Desk.step, Desk.length_edits_change, Event.dialog?, ih]
    | completed m x => simp [Desk.step, Desk.length_edits_change, Event.dialog?, ih]

/-- **After any events every edit stands in one of the ways that there are.** -/
theorem account_run (events : List Event) (n : Nat) :
    Account (dialogsIn events)[n]? (answerIn events n) (resultIn events n)
      ((Desk.run events).callsOf n) (Desk.run events).edits[n]? := by
  induction events using List.reverseRecOn with
  | nil => exact .idle
  | append_singleton events e ih =>
    rw [dialogsIn_concat, answerIn_concat, resultIn_concat, Desk.run_concat]
    cases he : e.dialog? with
    | none => simpa using ih.step he
    | some d =>
      obtain ⟨rfl, hd⟩ := Event.dialog?_eq_some.1 he
      simpa [Desk.step, Event.answer?, Event.result?] using ih.opened (length_edits_run events) hd

/-! ## What an edit calls for

The invariant as somebody outside would put it: what the edit may have asked of its collaborators,
and what an outcome says about how it came about. -/

/-- What an edit of a dialog may have called for after its modal was shown, and how it may have
ended, given how the modal was answered and how the updater came back. -/
structure Dialog.ProperEdit (d : Dialog) (answer : Option Answer)
    (result : Option (Except Failure Unit)) (calls : List Call) (outcome : Option EditOutcome) :
    Prop where
  /-- Unless the modal was confirmed, nothing is called for. -/
  quiet : (∀ s, answer ≠ some (.confirm s)) → calls = []
  /-- If it was, the event is recorded once and then this very schedule handed over once, as far as
  the edit has come. -/
  ordered : ∀ s, answer = some (.confirm s) →
    calls <+: [.record d.collaborators.recorder "edit_schedule" "query" d.queryId,
      .update d.collaborators.updater ⟨s⟩]
  /-- An edit that ends without a schedule was left without one. -/
  dismissed : outcome = some .dismissed → answer = some .dismiss ∨ answer = some .drop
  /-- A schedule that is saved was confirmed, both calls were made, and the updater is done. -/
  saved : ∀ s, outcome = some (.saved s) → answer = some (.confirm s) ∧
    calls = [.record d.collaborators.recorder "edit_schedule" "query" d.queryId,
      .update d.collaborators.updater ⟨s⟩] ∧ result = some (.ok ())
  /-- A schedule that is not saved was confirmed, both calls were made, and the updater has failed
  with this very failure. -/
  failed : ∀ s failure, outcome = some (.failed s failure) → answer = some (.confirm s) ∧
    calls = [.record d.collaborators.recorder "edit_schedule" "query" d.queryId,
      .update d.collaborators.updater ⟨s⟩] ∧ result = some (.error failure)

namespace Dialog.ProperEdit

variable {d : Dialog} {a : Option Answer} {r : Option (Except Failure Unit)}

/-- An edit that has called for nothing yet. -/
theorem silent : d.ProperEdit a r [] none where
  quiet _ := rfl
  ordered _ _ := List.nil_prefix
  dismissed h := by cases h
  saved _ h := by cases h
  failed _ _ h := by cases h

/-- An edit under way with a schedule. -/
theorem underWay {s : Schedule} {calls : List Call}
    (hcalls : calls <+: [d.recording, d.updating s]) :
    d.ProperEdit (some (.confirm s)) r calls none where
  quiet h := absurd rfl (h s)
  ordered t h := by
    cases h
    exact hcalls
  dismissed h := by cases h
  saved _ h := by cases h
  failed _ _ h := by cases h

/-- An edit that ended without a schedule. -/
theorem dropped {b : Answer} (hb : b.outcome = .dismissed) :
    d.ProperEdit (some b) r [] (some .dismissed) where
  quiet _ := rfl
  ordered _ _ := List.nil_prefix
  dismissed _ := by
    cases b with
    | confirm s => cases hb
    | dismiss => exact .inl rfl
    | drop => exact .inr rfl
  saved _ h := by cases h
  failed _ _ h := by cases h

/-- An edit whose schedule was saved. -/
theorem done (s : Schedule) :
    d.ProperEdit (some (.confirm s)) (some (.ok ())) [d.recording, d.updating s]
      (some (.saved s)) where
  quiet h := absurd rfl (h s)
  ordered t h := by
    cases h
    exact List.prefix_rfl
  dismissed h := by cases h
  saved t h := by
    cases h
    exact ⟨rfl, rfl, rfl⟩
  failed _ _ h := by cases h

/-- An edit whose schedule could not be saved. -/
theorem undone (s : Schedule) (failure : Failure) :
    d.ProperEdit (some (.confirm s)) (some (.error failure)) [d.recording, d.updating s]
      (some (.failed s failure)) where
  quiet h := absurd rfl (h s)
  ordered t h := by
    cases h
    exact List.prefix_rfl
  dismissed h := by cases h
  saved _ h := by cases h
  failed t f h := by
    cases h
    exact ⟨rfl, rfl, rfl⟩

end Dialog.ProperEdit

/-- An edit that stands in one of the ways that there are is a proper one. -/
theorem Standing.properEdit {d : Dialog} {a : Option Answer} {r : Option (Except Failure Unit)}
    {calls : List Call} {e : Edit} (h : Standing d a r calls e) :
    ∃ rest, calls = d.showing :: rest ∧ d.ProperEdit a r rest e.outcome? := by
  cases h with
  | waiting => exact ⟨[], rfl, .silent⟩
  | left a => exact ⟨[], rfl, .silent⟩
  | recorded s => exact ⟨[d.recording], rfl, .underWay ⟨[d.updating s], rfl⟩⟩
  | updating s => exact ⟨[d.recording, d.updating s], rfl, .underWay List.prefix_rfl⟩
  | updated s x => exact ⟨[d.recording, d.updating s], rfl, .underWay List.prefix_rfl⟩
  | dismissed ha => exact ⟨[], rfl, .dropped ha⟩
  | saved s => exact ⟨[d.recording, d.updating s], rfl, .done s⟩
  | failed s failure => exact ⟨[d.recording, d.updating s], rfl, .undone s failure⟩

/-- **In every reachable state every edit is a proper one.**  Whatever was opened, answered,
advanced and completed, in whatever order: edit `n` is the one that the `n`-th successful opening
started, after showing the modal it has called for no more than its own modal's answer allows, and
its outcome is that of its own updater.  Where there is no such opening there are no calls. -/
theorem calls_of_run (events : List Event) (n : Nat) :
    match (dialogsIn events)[n]? with
    | none => (Desk.run events).callsOf n = [] ∧ (Desk.run events).outcome? n = none
    | some d => ∃ calls,
        (Desk.run events).callsOf n = .show d.collaborators.modal d.options :: calls ∧
          d.ProperEdit (answerIn events n) (resultIn events n) calls
            ((Desk.run events).outcome? n) := by
  have haccount := account_run events n
  rw [Desk.outcome?]
  split
  · rename_i hd
    obtain ⟨-, -, hcalls, hedit⟩ := (hd ▸ haccount).of_none
    exact ⟨hcalls, by rw [hedit]; rfl⟩
  · rename_i d hd
    obtain ⟨e, hedit, hstanding⟩ := (hd ▸ haccount).of_some
    rw [hedit]
    exact hstanding.properEdit

/-- Two edits of one dialog, the second answered before the first. -/
example :
    let d : Dialog :=
      ⟨.ofUser User.anonymous.principal .empty, some 7, none, true, true, ⟨1, 2, 3⟩⟩
    let s := Schedule.every 60
    let k := Desk.run [.opened d, .opened d, .responded 1 (.confirm s), .advanced 1,
      .responded 0 .dismiss, .advanced 1, .advanced 0, .completed 1 (.error (.persist "offline")),
      .responded 0 (.confirm s), .advanced 1, .advanced 0]
    k.callsOf 0 = [d.showing] ∧ k.outcome? 0 = some .dismissed ∧
      k.callsOf 1 = [d.showing, d.recording, d.updating s] ∧
      k.outcome? 1 = some (.failed s (.persist "offline")) := by
  decide

/-- An edit that waits for its modal, and is then left to itself after the answer, makes its calls
and comes to the end that the answer and the updater decide. -/
theorem settle_waiting {k : Desk} {n : Nat} {d : Dialog}
    (h : k.edits[n]? = some (d.edit .waiting)) (a : Answer) (r : Except Failure Unit) :
    (k.settle n a r).callsOf n = k.callsOf n ++ (match a.outcome with
      | .dismissed => []
      | .confirmed s => [d.recording, d.updating s]) ∧
    (k.settle n a r).outcome? n = some (match a.outcome, r with
      | .dismissed, _ => .dismissed
      | .confirmed s, .ok _ => .saved s
      | .confirmed s, .error failure => .failed s failure) := by
  simp only [Desk.settle, Desk.outcome?, Desk.step, List.foldl_cons, List.foldl_nil,
    Desk.callsOf_change, Desk.getElem?_edits_change, if_true, h, Option.map_some, Option.elim_some,
    List.append_nil, List.append_assoc, List.append_cancel_left_eq]
  cases a with
  | confirm s =>
    cases r with
    | ok => exact ⟨rfl, rfl⟩
    | error failure => exact ⟨rfl, rfl⟩
  | dismiss => exact ⟨rfl, rfl⟩
  | drop => exact ⟨rfl, rfl⟩

end QueryRights
