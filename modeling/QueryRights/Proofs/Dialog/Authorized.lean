import QueryRights.Proofs.Dialog.EditRuns
import QueryRights.Proofs.Dialog.Memoized

/-!
# No effect without authorization

Dialogs are made or handed out by memos at one time and opened at any later one, as often as one
likes, while the user and the configuration change.  A dialog asks nobody whether it may be opened:
it has been enabled or not since it was made, and a memo hands out one that was made for an earlier
call.  Nevertheless what counts is the call that returned the dialog.  If the user did not hold
what it takes at that call, opening the dialog changes nothing, now and later.

A `Page` is everything together: memos by their numbers, the dialogs that were returned, and the
desk at which they are opened.  Its events are calls for dialogs, openings, and what happens to the
edits in the meantime.  Nothing is assumed about the order, and every call brings its own user and
its own configuration, since a page outlives both.

Two links have to hold for a chain from an effect back to an authorization.

* **From the dialog to the call.** A dialog may have been made for one call and returned by
  another.  What they share is the key, and the key has the two flags in it that enable a dialog.
  So `Page.keys_run`, that every dialog has the key of the call that *returned* it, is all that is
  needed: under the default policy these flags are up exactly for an authorized call
  (`Visit.flags_iff`).
* **From the call to a collaborator to the dialog.** The desk of a page is a run of the desk, hence
  all that is known about edits applies (`QueryRights.Proofs.Dialog.EditRuns`): an edit only makes
  the calls of the dialog that started it.  `Page.Stems` names the opening at which it was started,
  and this is an event of the page.

The converse is there, too, or nothing would be said: an authorized opening starts an edit, and
there is a continuation in which it records its event and hands over whatever schedule was chosen.
And where a call was not authorized, removing the opening from the history gives the same page in
the end, whatever came after it, which is the strongest sense in which it had no effect.

The permission of an administrator is not among those that are asked for.  Somebody who holds that
one and nothing else is authorized to nothing here.

## What is here

* `Visit` and `Visit.Authorized`: a call for a dialog under the default policy, and what it takes.
* `Page`, `PageEvent` and `Page.run`: dialogs that are made, handed out and opened in any order,
  while the edits that they started go on.
* `Page.memos_run` and `Page.keys_run`: the invariants, that a memo is what its own requests made
  it, and that every dialog has the key of the call that returned it.
* `Page.stems_run`: every edit was started by an authorized opening.
* `Page.effects_authorized`: **what an opening does, and where every call comes from**.
-/

set_option autoImplicit false

namespace QueryRights

/-! ## Calls for dialogs

What it takes to be authorized, in terms of the user and the query alone, and that the flags of the
default policy come to the same.  There is no data source in such a call, so only what the server
says about the query is left besides permissions. -/

/-- A call for the dialog of a query, under the default policy of the user and the configuration at
that time. -/
structure Visit where
  user : Principal
  config : ClientConfig
  query : Query
  collaborators : Collaborators

namespace Visit

/-- The request that is made. -/
def request (v : Visit) : DialogRequest := ⟨.ofUser v.user v.config, v.query, v.collaborators⟩

/-- The user holds all three permissions, and the server lets the query be edited. -/
structure Authorized (v : Visit) : Prop where
  edit : v.user.holds "edit_query" = true
  editSchedule : v.user.holds "edit_query_schedule" = true
  schedule : v.user.holds "schedule_query" = true
  editable : v.query.editable = some true

/-- **The two flags that enable a dialog are up exactly for an authorized call.** -/
theorem flags_iff (v : Visit) :
    (v.request.flags.canEdit && v.request.flags.canSchedule) = true ↔ v.Authorized := by
  have hedit : v.request.flags.canEdit =
      (v.user.holds "edit_query" && v.query.editable == some true) := rfl
  have hschedule : v.request.flags.canSchedule =
      (v.user.holds "edit_query_schedule" && (v.user.holds "schedule_query" && true)) := rfl
  rw [hedit, hschedule]
  simp only [Bool.and_true, Bool.and_eq_true, beq_iff_eq]
  constructor
  · rintro ⟨⟨hedit, heditable⟩, heditSchedule, hschedule⟩
    exact ⟨hedit, heditSchedule, hschedule, heditable⟩
  · rintro ⟨hedit, heditSchedule, hschedule, heditable⟩
    exact ⟨⟨hedit, heditable⟩, heditSchedule, hschedule⟩

/-- A dialog with the key of a call is enabled exactly if the call was authorized. -/
theorem isEnabled_iff {v : Visit} {d : Dialog} (h : d.key = v.request.key) :
    d.isEnabled = true ↔ v.Authorized := by
  rw [Dialog.key, DialogRequest.key, DialogKey.mk.injEq] at h
  obtain ⟨-, -, hedit, hschedule, -⟩ := h
  rw [Dialog.isEnabled, hedit, hschedule]
  exact v.flags_iff

/-- To be an administrator is of no use. -/
theorem not_authorized_of_admin {v : Visit}
    (h : ∀ name, v.user.holds name = true → name = "admin") : ¬ v.Authorized := fun hauthorized =>
  absurd (h _ hauthorized.edit) (by decide)

end Visit

/-! ## Pages

Everything that can happen, and the page after it.  The page is built from definitions that run, a
memo of dialogs and a desk; it only keeps track of which dialog was returned by which call. -/

/-- What can happen on a page. -/
inductive PageEvent where
  /-- A dialog is made. -/
  | made (visit : Visit)
  /-- A memo is asked for a dialog. -/
  | asked (memo : Nat) (visit : Visit)
  /-- One of the dialogs is opened, by its number. -/
  | opened (dialog : Nat)
  | responded (edit : Nat) (answer : Answer)
  | advanced (edit : Nat)
  | completed (edit : Nat) (result : Except Failure Unit)

namespace PageEvent

/-- The call for a dialog, if it is one. -/
def visit? : PageEvent → Option Visit
  | .made v => some v
  | .asked _ v => some v
  | _ => none

/-- What a memo is asked for. -/
def requestTo? (m : Nat) : PageEvent → Option DialogRequest
  | .asked k v => if k = m then some v.request else none
  | _ => none

end PageEvent

/-- The memos of a page by their numbers, the dialogs that were returned, in their order, and the
desk with the edits that these started. -/
structure Page where
  memos : Nat → DialogMemo
  dialogs : List Dialog
  desk : Desk

namespace Page

/-- The page before anything happened. -/
def empty : Page := ⟨fun _ => .empty, [], .empty⟩

/-- Something happens.  A dialog that was not returned cannot be opened. -/
def step (p : Page) : PageEvent → Page
  | .made v => { p with dialogs := p.dialogs ++ [v.request.dialog] }
  | .asked m v =>
    let (shared, memo) := (p.memos m).dialog v.request.context v.query v.collaborators
    { p with memos := fun k => if k = m then memo else p.memos k
             dialogs := p.dialogs ++ [shared.value] }
  | .opened n =>
    match p.dialogs[n]? with
    | some d => { p with desk := p.desk.step (.opened d) }
    | none => p
  | .responded n a => { p with desk := p.desk.step (.responded n a) }
  | .advanced n => { p with desk := p.desk.step (.advanced n) }
  | .completed n result => { p with desk := p.desk.step (.completed n result) }

/-- The page after some events, the first of them first. -/
def run (events : List PageEvent) : Page := events.foldl step empty

theorem run_concat (events : List PageEvent) (e : PageEvent) :
    run (events ++ [e]) = (run events).step e := by
  simp [run]

theorem run_append_cons (before : List PageEvent) (e : PageEvent) (later : List PageEvent) :
    run (before ++ e :: later) = later.foldl step ((run before).step e) := by
  simp [run]

end Page

/-- The calls for dialogs, in their order: dialog `n` was returned by the `n`-th. -/
def visitsIn (events : List PageEvent) : List Visit := events.filterMap PageEvent.visit?

/-- What a memo was asked for. -/
def requestsTo (m : Nat) (events : List PageEvent) : List DialogRequest :=
  events.filterMap (PageEvent.requestTo? m)

theorem visitsIn_concat (events : List PageEvent) (e : PageEvent) :
    visitsIn (events ++ [e]) = visitsIn events ++ e.visit?.toList := by
  rw [visitsIn, List.filterMap_append]
  cases h : e.visit? <;> simp [visitsIn, h]

theorem requestsTo_concat (m : Nat) (events : List PageEvent) (e : PageEvent) :
    requestsTo m (events ++ [e]) = requestsTo m events ++ (e.requestTo? m).toList := by
  rw [requestsTo, List.filterMap_append]
  cases h : e.requestTo? m <;> simp [requestsTo, h]

theorem DialogMemo.after_concat (requests : List DialogRequest) (r : DialogRequest) :
    after (requests ++ [r]) =
      ((after requests).dialog r.context r.query r.collaborators).2 := by
  simp [after]

/-! ## What one event changes

One lemma for each part of a page, the dialogs, the memos and the desk, saying which events it
notices. -/

namespace Page

/-- Opening a dialog changes nothing but the desk. -/
theorem step_opened {p : Page} {n : Nat} {d : Dialog} (h : p.dialogs[n]? = some d) :
    p.step (.opened n) = { p with desk := p.desk.openDialog d } := by
  rw [step, h]
  rfl

/-- A dialog that is not enabled changes nothing at all. -/
theorem step_opened_of_disabled {p : Page} {n : Nat} {d : Dialog} (h : p.dialogs[n]? = some d)
    (hd : d.isEnabled = false) : p.step (.opened n) = p := by
  rw [step_opened h, Desk.openDialog_of_disabled hd]

theorem memos_step (p : Page) (e : PageEvent) (m : Nat) :
    (p.step e).memos m = (e.requestTo? m).elim (p.memos m) fun r =>
      ((p.memos m).dialog r.context r.query r.collaborators).2 := by
  cases e with
  | asked k v =>
    by_cases hk : m = k
    · subst hk
      simp [step, PageEvent.requestTo?, Visit.request]
    · simp [step, PageEvent.requestTo?, hk, Ne.symm hk]
  | opened n =>
    rw [step]
    split <;> rfl
  | made v => rfl
  | responded n a => rfl
  | advanced n => rfl
  | completed n result => rfl

/-! ## Invariants

Memos first.  Since a memo notices nothing but its own requests, what it hands out is known from
`QueryRights.Proofs.Dialog.Memoized`, and with that the keys of all dialogs. -/

/-- A memo is what the requests made to it have made it. -/
theorem memos_run (events : List PageEvent) (m : Nat) :
    (run events).memos m = DialogMemo.after (requestsTo m events) := by
  induction events using List.reverseRecOn with
  | nil => rfl
  | append_singleton events e ih =>
    rw [run_concat, requestsTo_concat, memos_step, ih]
    cases h : e.requestTo? m with
    | none => simp
    | some r => simp [DialogMemo.after_concat]

/-- **Every dialog has the key of the call that returned it.** -/
theorem keys_run (events : List PageEvent) :
    (run events).dialogs.map Dialog.key = (visitsIn events).map fun v => v.request.key := by
  induction events using List.reverseRecOn with
  | nil => rfl
  | append_singleton events e ih =>
    rw [run_concat, visitsIn_concat, List.map_append, ← ih]
    cases e with
    | made v => exact List.map_append
    | asked m v =>
      have hkey := DialogMemo.key_handedOut (requestsTo m events) v.request
      rw [DialogMemo.handedOut, ← memos_run] at hkey
      have hstep : ((run events).step (.asked m v)).dialogs = (run events).dialogs ++
          [(((run events).memos m).dialog v.request.context v.query v.collaborators).1.value] := rfl
      rw [hstep, List.map_append]
      exact congrArg (fun key => (run events).dialogs.map Dialog.key ++ [key]) hkey
    | opened n =>
      rw [step]
      split <;> exact (List.append_nil _).symm
    | responded n a => exact (List.append_nil _).symm
    | advanced n => exact (List.append_nil _).symm
    | completed n result => exact (List.append_nil _).symm

theorem key_getElem?_run (events : List PageEvent) (n : Nat) :
    (run events).dialogs[n]?.map Dialog.key =
      (visitsIn events)[n]?.map fun v => v.request.key := by
  rw [← List.getElem?_map, keys_run, List.getElem?_map]

/-- The dialog that a call returned is enabled exactly if the call was authorized. -/
theorem exists_dialog {events : List PageEvent} {n : Nat} {v : Visit}
    (h : (visitsIn events)[n]? = some v) :
    ∃ d, (run events).dialogs[n]? = some d ∧ (d.isEnabled = true ↔ v.Authorized) := by
  have hkeys := key_getElem?_run events n
  rw [h] at hkeys
  obtain ⟨d, hd, hkey⟩ := Option.map_eq_some_iff.1 hkeys
  exact ⟨d, hd, Visit.isEnabled_iff hkey⟩

/-- A dialog was returned by a call, and is enabled exactly if that call was authorized. -/
theorem exists_visit {events : List PageEvent} {n : Nat} {d : Dialog}
    (h : (run events).dialogs[n]? = some d) :
    ∃ v, (visitsIn events)[n]? = some v ∧ (d.isEnabled = true ↔ v.Authorized) := by
  have hkeys := key_getElem?_run events n
  rw [h] at hkeys
  obtain ⟨v, hv, hkey⟩ := Option.map_eq_some_iff.1 hkeys.symm
  exact ⟨v, hv, Visit.isEnabled_iff hkey.symm⟩

end Page

/-! ## Where edits come from

The second link.  An edit is started by an opening at the desk, that is by an opening on the page
of a dialog that some call had returned.  The number of the edit tells which opening it was. -/

namespace Desk

/-- The number of the edit that opening a dialog starts, if it starts one. -/
def started? (k : Desk) (d : Dialog) : Option Nat :=
  if k.edits.length < (k.openDialog d).edits.length then some k.edits.length else none

theorem started?_eq (k : Desk) (d : Dialog) :
    k.started? d = if d.isEnabled then some k.edits.length else none := by
  cases h : d.isEnabled with
  | true => simp [started?, openDialog_of_enabled h]
  | false => simp [started?, openDialog_of_disabled h]

end Desk

/-- The calls that edits of a dialog can make. -/
inductive Dialog.Makes (d : Dialog) : Call → Prop where
  | show : d.Makes d.showing
  | record : d.Makes d.recording
  | update (s : Schedule) : d.Makes (d.updating s)

theorem Standing.makes {d : Dialog} {a : Option Answer} {r : Option (Except Failure Unit)}
    {calls : List Call} {e : Edit} (h : Standing d a r calls e) : ∀ c ∈ calls, d.Makes c := by
  have hshow : ∀ c ∈ [d.showing], d.Makes c := List.forall_mem_singleton.2 .show
  have hrecord : ∀ c ∈ [d.showing, d.recording], d.Makes c :=
    List.forall_mem_cons.2 ⟨.show, List.forall_mem_singleton.2 .record⟩
  have hupdate : ∀ s, ∀ c ∈ [d.showing, d.recording, d.updating s], d.Makes c := fun s =>
    List.forall_mem_cons.2 ⟨.show, List.forall_mem_cons.2 ⟨.record,
      List.forall_mem_singleton.2 (.update s)⟩⟩
  cases h with
  | waiting => exact hshow
  | left a => exact hshow
  | recorded s => exact hrecord
  | updating s => exact hupdate s
  | updated s x => exact hupdate s
  | dismissed ha => exact hshow
  | saved s => exact hupdate s
  | failed s failure => exact hupdate s

theorem Desk.mem_callsOf {k : Desk} {n : Nat} {c : Call} : c ∈ k.callsOf n ↔ (n, c) ∈ k.log := by
  rw [callsOf, List.mem_filterMap]
  constructor
  · rintro ⟨⟨m, x⟩, hmem, h⟩
    split at h
    · rename_i hm
      cases h
      exact hm ▸ hmem
    · cases h
  · exact fun h => ⟨(n, c), h, if_pos rfl⟩

namespace Page

/-- What happens at the desk, if anything does. -/
def deskEvent? (p : Page) : PageEvent → Option Event
  | .opened n => p.dialogs[n]?.map .opened
  | .responded n a => some (.responded n a)
  | .advanced n => some (.advanced n)
  | .completed n result => some (.completed n result)
  | .made _ | .asked _ _ => none

theorem desk_step (p : Page) (e : PageEvent) :
    (p.step e).desk = (p.deskEvent? e).elim p.desk p.desk.step := by
  cases e with
  | opened n =>
    rw [step, deskEvent?]
    cases p.dialogs[n]? <;> rfl
  | _ => rfl

/-- Only the opening of a dialog that was returned opens one at the desk. -/
theorem deskEvent?_eq_opened {p : Page} {e : PageEvent} {d : Dialog}
    (h : p.deskEvent? e = some (.opened d)) : ∃ n, e = .opened n ∧ p.dialogs[n]? = some d := by
  cases e with
  | opened n =>
    obtain ⟨x, hx, hopened⟩ := Option.map_eq_some_iff.1 h
    cases hopened
    exact ⟨n, rfl, hx⟩
  | _ => cases h

/-- An edit was started when a dialog that an authorized call had returned was opened. -/
def Stems (events : List PageEvent) (i : Nat) (d : Dialog) : Prop :=
  ∃ before n later v, events = before ++ .opened n :: later ∧ (visitsIn before)[n]? = some v ∧
    v.Authorized ∧ (run before).dialogs[n]? = some d ∧ (run before).desk.edits.length = i

theorem Stems.concat {events : List PageEvent} {i : Nat} {d : Dialog} (h : Stems events i d)
    (e : PageEvent) : Stems (events ++ [e]) i d := by
  obtain ⟨before, n, later, v, rfl, hrest⟩ := h
  exact ⟨before, n, later ++ [e], v, by rw [List.append_assoc, List.cons_append], hrest⟩

/-- **What happens at the desk of a page is a run of the desk, and each of its edits was started by
an authorized opening.** -/
theorem stems_run (events : List PageEvent) :
    ∃ es, (run events).desk = Desk.run es ∧
      ∀ i d, (dialogsIn es)[i]? = some d → Stems events i d := by
  induction events using List.reverseRecOn with
  | nil => exact ⟨[], rfl, fun i d h => by cases h⟩
  | append_singleton events e ih =>
    obtain ⟨es, hdesk, hstems⟩ := ih
    rw [run_concat, desk_step]
    cases hx : (run events).deskEvent? e with
    | none => exact ⟨es, hdesk, fun i d h => (hstems i d h).concat e⟩
    | some x =>
      refine ⟨es ++ [x], by rw [Desk.run_concat, ← hdesk]; rfl, fun i d h => ?_⟩
      rw [dialogsIn_concat] at h
      rcases Nat.lt_or_ge i (dialogsIn es).length with hi | hi
      · rw [List.getElem?_append_left hi] at h
        exact (hstems i d h).concat e
      · -- an edit that is new at the desk was started by what happened last
        rw [List.getElem?_append_right hi, List.getElem?_eq_some_iff] at h
        obtain ⟨hlt, hd⟩ := h
        have hmem : d ∈ x.dialog?.toList := hd ▸ List.getElem_mem hlt
        obtain ⟨rfl, henabled⟩ := Event.dialog?_eq_some.1 (Option.mem_toList.1 hmem)
        obtain ⟨n, rfl, hreturned⟩ := deskEvent?_eq_opened hx
        obtain ⟨v, hv, hauthorized⟩ := exists_visit hreturned
        refine ⟨events, n, [], v, rfl, hv, hauthorized.1 henabled, hreturned, ?_⟩
        have hlength := length_edits_run es
        rw [hdesk]
        simp [Event.dialog?, henabled] at hlt
        omega

/-- **Every call was made by an edit that an authorized opening started.** -/
theorem exists_stem {events : List PageEvent} {i : Nat} {c : Call}
    (h : (i, c) ∈ (run events).desk.log) : ∃ d, Stems events i d ∧ d.Makes c := by
  obtain ⟨es, hdesk, hstems⟩ := stems_run events
  have hcall : c ∈ (Desk.run es).callsOf i := Desk.mem_callsOf.2 (hdesk ▸ h)
  have haccount := account_run es i
  cases hd : (dialogsIn es)[i]? with
  | none =>
    obtain ⟨-, -, hnone, -⟩ := (hd ▸ haccount).of_none
    rw [hnone] at hcall
    cases hcall
  | some d =>
    obtain ⟨e, -, hstanding⟩ := (hd ▸ haccount).of_some
    exact ⟨d, hstems i d hd, hstanding.makes c hcall⟩

/-! ## What an opening does

Both links together, and the converse. -/

/-- An edit that is not there yet has made no calls. -/
theorem callsOf_new (events : List PageEvent) :
    (run events).desk.callsOf (run events).desk.edits.length = [] := by
  obtain ⟨es, hdesk, -⟩ := stems_run events
  have haccount := account_run es (Desk.run es).edits.length
  have hnone : (dialogsIn es)[(Desk.run es).edits.length]? = none := by
    rw [List.getElem?_eq_none_iff, length_edits_run]
  rw [hnone] at haccount
  rw [hdesk]
  exact haccount.of_none.2.2.1

/-- Opening a dialog that is not enabled is as if it had never happened. -/
theorem run_opened_of_disabled {before : List PageEvent} {n : Nat} {d : Dialog}
    (h : (run before).dialogs[n]? = some d) (hd : d.isEnabled = false) (later : List PageEvent) :
    run (before ++ .opened n :: later) = run (before ++ later) := by
  rw [run_append_cons, step_opened_of_disabled h hd, run, ← List.foldl_append, run]

/-- An edit that was started can come to record its event and to hand over any schedule. -/
theorem exists_calls {before : List PageEvent} {n : Nat} {d : Dialog}
    (h : (run before).dialogs[n]? = some d) (hd : d.isEnabled = true) (s : Schedule) :
    ∃ later, (run (before ++ .opened n :: later)).desk.callsOf (run before).desk.edits.length =
      [d.showing, d.recording, d.updating s] := by
  let i := (run before).desk.edits.length
  let opened := (run before).desk.openDialog d
  -- the modal is confirmed, and the edit is left to itself until its updater is done
  let later : List PageEvent :=
    [.responded i (.confirm s), .advanced i, .advanced i, .completed i (.ok ()), .advanced i]
  have hdesk : (run (before ++ .opened n :: later)).desk =
      opened.settle i (.confirm s) (.ok ()) := by
    rw [run_append_cons, step_opened h]
    rfl
  have hwaiting : opened.edits[i]? = some (d.edit .waiting) := by
    rw [show opened.edits = (run before).desk.edits ++ [.ofDialog d] by
      simp only [opened, Desk.openDialog_of_enabled hd], List.getElem?_concat_length]
    rfl
  have hcalls : opened.callsOf i = [d.showing] := by
    rw [Desk.callsOf_openDialog hd, callsOf_new, if_pos rfl, List.nil_append]
  refine ⟨later, ?_⟩
  rw [hdesk, (settle_waiting hwaiting _ _).1, hcalls]
  rfl

/-- **What an opening does is decided by the call that returned the dialog.**  Opening it starts an
edit and shows the modal exactly if the user held all three permissions at that call and the server
let the query be edited; the edit can then come to record its event and to hand over any schedule.
Otherwise it is as if the dialog had not been opened, whatever happens later.  So every call to a
collaborator was made by an edit of a dialog that an authorized call had returned; and a user who
holds nothing but the permission of an administrator is authorized to nothing. -/
theorem effects_authorized :
    (∀ before n v, (visitsIn before)[n]? = some v → ∃ d, (run before).dialogs[n]? = some d ∧
      ((∃ i, (run before).desk.started? d = some i) ↔ v.Authorized) ∧
      ((∃ modal options, (run before).desk.Shows d modal options) ↔ v.Authorized) ∧
      (v.Authorized → ∀ s, ∃ later,
        (run (before ++ .opened n :: later)).desk.callsOf (run before).desk.edits.length =
          [d.showing, d.recording, d.updating s]) ∧
      (¬ v.Authorized → ∀ later, run (before ++ .opened n :: later) = run (before ++ later))) ∧
    (∀ events i c, (i, c) ∈ (run events).desk.log → ∃ d, Stems events i d ∧ d.Makes c) ∧
    ∀ v : Visit, (∀ name, v.user.holds name = true → name = "admin") → ¬ v.Authorized := by
  refine ⟨fun before n v hv => ?_, fun events i c => exists_stem,
    fun v => Visit.not_authorized_of_admin⟩
  obtain ⟨d, hd, henabled⟩ := exists_dialog hv
  refine ⟨d, hd, ?_, ?_, fun hauthorized s => exists_calls hd (henabled.2 hauthorized) s,
    fun hnot later => ?_⟩
  · rw [← henabled, Desk.started?_eq]
    cases d.isEnabled <;> simp
  · rw [← henabled]
    cases hopens : d.isEnabled with
    | true =>
      exact ⟨fun _ => rfl, fun _ => ⟨_, _, (Desk.shows_iff hopens _ _ _).2 ⟨rfl, rfl⟩⟩⟩
    | false => simp [Desk.Shows, Desk.step, Desk.openDialog_of_disabled hopens]
  · have hdisabled : d.isEnabled = false := Bool.eq_false_iff.2 fun h => hnot (henabled.1 h)
    exact run_opened_of_disabled hd hdisabled later

/-- A user with the three permissions, then an administrator without them, ask one memo for the
dialog of a query that may be edited, and both dialogs are opened only after that. -/
theorem effects_authorized_of_administrator :
    let u := User.withPermissions ["edit_query", "edit_query_schedule", "schedule_query"]
    let admin := { User.admin with permissions := NameSet.ofNames ["admin"] }
    let q : Query := { Query.saved 1 "select 1" with editable := some true }
    let v : Visit := ⟨u.principal, .empty, q, ⟨0, 0, 0⟩⟩
    let w : Visit := ⟨admin.principal, .withDefaults, q, ⟨0, 0, 0⟩⟩
    let before : List PageEvent := [.asked 0 v, .asked 0 w]
    let opened := run (before ++ [.opened 1, .opened 0])
    v.Authorized ∧ (∃ d i, (run before).dialogs[0]? = some d ∧
        (run before).desk.started? d = some i) ∧
      admin.isAdmin = true ∧ ¬ w.Authorized ∧
      (∀ later, run (before ++ .opened 1 :: later) = run (before ++ later)) ∧
      (0, .show 0 ⟨none, []⟩) ∈ opened.desk.log ∧
      ∃ d, Stems (before ++ [.opened 1, .opened 0]) 0 d := by
  intro u admin q v w before opened
  obtain ⟨hopening, hcalls, hadmin⟩ := effects_authorized
  have hv : v.Authorized := ⟨by decide, by decide, by decide, rfl⟩
  have hw : ¬ w.Authorized := by
    refine hadmin w fun name hname => ?_
    rw [show w.user.holds name = (NameSet.ofNames ["admin"]).contains name from rfl,
      NameSet.contains_ofNames] at hname
    simpa using hname
  have hlog : (0, .show 0 ⟨none, []⟩) ∈ opened.desk.log := by decide
  obtain ⟨d, hd, hstarts, -⟩ := hopening before 0 v rfl
  obtain ⟨i, hi⟩ := hstarts.2 hv
  obtain ⟨-, -, -, -, -, hunchanged⟩ := hopening before 1 w rfl
  obtain ⟨e, hstems, -⟩ := hcalls _ _ _ hlog
  exact ⟨hv, ⟨d, i, hd, hi⟩, by decide, hw, hunchanged hw, hlog, e, hstems⟩

end Page
end QueryRights
