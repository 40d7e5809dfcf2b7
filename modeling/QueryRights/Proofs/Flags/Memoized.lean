import QueryRights.Proofs.Memo.Blocks
import QueryRights.QueryFlags

/-!
# Flags that are kept

A page asks for the flags of its query again and again, and keeps them in a memo that compares the
query and the view-only mark.  Nothing tells the memo about the context, so the flags of a block of
requests are those of the context in which the block began.  They are the flags of the present
context as long as that answers as the first one did, and in any case for a request that starts a
block.

How much has to stay the same for flags to be up to date?  Not the whole context: a user may lose a
permission that no flag looks at, or the policy may be replaced by one that differs in an answer
that was not asked for.  `Context.AnswersAs` lists what is asked: four permissions, the policy's
answer about editing this query, and seven questions to the policy.  Contexts that agree there give
the same flags (`derive_congr`), so this is a condition under which nothing lags behind.  It is
sufficient and not necessary, since a flag with more than one condition may be down for another
reason.

Flags that lag behind are harmless in part.  What depends on the query and the source alone is
compared by the memo, so it is never out of date: that only a query with a text runs, that an
unsafe one runs only on a source that is known and not view-only, and that forking needs such a
source.  The rest is what the policy said when the block began.  `flags_lag_behind` shows it for
both ways in which a context can change, by the user and by the policy.

Blocks and their first requests are those of any memo (`QueryRights.Proofs.Memo.Blocks`).  Here a
request is a context, a query and a source, and its key is the query with the view-only mark of the
source.  In particular another source with the same mark does not start a block.

## What is here

* `QueryFlags.permissions`, `QueryFlags.questions` and `Context.AnswersAs`: all that flags depend
  on in a context, and `derive_congr`, which says so.
* `FlagsMemo.handedOut`: the flags that are handed out for a request that follows others.
* `FlagsMemo.flags_of_block`: what they are, and when they are those of the request's own context.
* `FlagsMemo.flags_lag_behind`: without the condition on the context they need not be.
* `QueryFlags.canEdit_iff`, `QueryFlags.canExecute_iff`, `QueryFlags.canFork_iff`: the flags with
  more than one condition.
* `QueryFlags.runnable_of_canExecute`, `QueryFlags.writable_of_canFork`: what no context lifts, and
  `FlagsMemo.block_shares_flags`: the flags of a whole block are one shared value, so they may lag
  behind the context, but they never go beyond these limits for their own query and source.
-/

set_option autoImplicit false

namespace QueryRights

/-! ## What flags depend on

In the context, and in the source.  The lists of permissions and questions are short, and what is
outside of them has no influence on any flag. -/

namespace QueryFlags

/-- The permissions of the user that flags depend on, apart from the policy. -/
def permissions : List Permission := [.createQuery, .viewQuery, .editQuery, .viewSource]

/-- The questions to the policy that flags depend on. -/
def questions : List Question :=
  [.executeQuery, .forkQuery, .schedule, .saveQuery, .regenerateApiKey, .editVisualization,
   .editDashboard]

end QueryFlags

/-- Two contexts give the same answers to all that the flags of a query depend on. -/
structure Context.AnswersAs (c d : Context) (q : Query) : Prop where
  /-- The users hold the same of the permissions. -/
  holds : ∀ p ∈ QueryFlags.permissions, c.holds p.name = d.holds p.name
  /-- The policies agree about editing the query. -/
  allowsEdit : c.policy.answers.allowsEdit q.editable = d.policy.answers.allowsEdit q.editable
  /-- The policies agree about the questions. -/
  allows : ∀ k ∈ QueryFlags.questions, c.policy.answers.allows k = d.policy.answers.allows k

namespace QueryFlags

/-- A data source counts by its view-only mark only. -/
theorem derive_source (c : Context) (q : Query) {s t : Option DataSource}
    (h : DataSource.isViewOnly s = DataSource.isViewOnly t) : derive c q s = derive c q t := by
  simp only [derive, h]

/-- Contexts that give the same answers give the same flags. -/
theorem derive_congr {c d : Context} {q : Query} (h : c.AnswersAs d q) (s : Option DataSource) :
    derive c q s = derive d q s := by
  have hpermissions := h.holds
  have hquestions := h.allows
  simp only [permissions, questions, List.forall_mem_cons] at hpermissions hquestions
  obtain ⟨hcreate, hview, hedit, hsource, -⟩ := hpermissions
  obtain ⟨hexecute, hfork, hschedule, hsave, hkey, hvisualization, hdashboard, -⟩ := hquestions
  simp only [derive, hcreate, hview, hedit, hsource, h.allowsEdit, hexecute, hfork, hschedule,
    hsave, hkey, hvisualization, hdashboard]

end QueryFlags

/-! ## What flags never allow

Three flags have more than one condition, and part of it does not come from the context.  That part
holds whoever asks, so it holds of flags that were derived for somebody else. -/

/-- More than safe queries run on a source that is known and not view-only. -/
theorem DataSource.isViewOnly_eq_false_iff {s : Option DataSource} :
    isViewOnly s = false ↔ ∃ d, s = some d ∧ d.viewOnly = false := by
  cases s <;> simp [isViewOnly]

namespace QueryFlags

theorem canEdit_iff {c : Context} {q : Query} {s : Option DataSource} :
    (derive c q s).canEdit = true ↔
      c.holds Permission.editQuery.name = true ∧
        c.policy.answers.allowsEdit q.editable = true := by
  simp only [derive, Bool.and_eq_true]

theorem canExecute_iff {c : Context} {q : Query} {s : Option DataSource} :
    (derive c q s).canExecute = true ↔
      q.text ≠ "" ∧ c.policy.answers.allows .executeQuery = true ∧
        (q.isSafe = true ∨ DataSource.isViewOnly s = false) := by
  simp only [derive, Bool.and_eq_true, Bool.or_eq_true, bne_iff_ne, Bool.not_eq_true', and_assoc]

theorem canFork_iff {c : Context} {q : Query} {s : Option DataSource} :
    (derive c q s).canFork = true ↔
      c.policy.answers.allows .forkQuery = true ∧ DataSource.isViewOnly s = false := by
  simp only [derive, Bool.and_eq_true, Bool.not_eq_true']

/-- In every context only a query with a text runs, and only a safe one unless the source is known
and not view-only. -/
theorem runnable_of_canExecute {c : Context} {q : Query} {s : Option DataSource}
    (h : (derive c q s).canExecute = true) :
    q.text ≠ "" ∧ (q.isSafe = true ∨ ∃ d, s = some d ∧ d.viewOnly = false) := by
  obtain ⟨htext, -, hsafe⟩ := canExecute_iff.1 h
  exact ⟨htext, hsafe.imp_right DataSource.isViewOnly_eq_false_iff.1⟩

/-- In every context a query is forked only from a source that is known and not view-only. -/
theorem writable_of_canFork {c : Context} {q : Query} {s : Option DataSource}
    (h : (derive c q s).canFork = true) : ∃ d, s = some d ∧ d.viewOnly = false :=
  DataSource.isViewOnly_eq_false_iff.1 (canFork_iff.1 h).2

end QueryFlags

/-! ## Requests

The memo of the flags as an instance of a memo.  All that needs the definition of flags is
`FlagsRequest.flags_eq_of_key_eq`: requests with the same key differ by their contexts. -/

/-- A request for the flags of a query. -/
structure FlagsRequest where
  context : Context
  query : Query
  source : Option DataSource

namespace FlagsRequest

/-- What the memo compares. -/
def key (r : FlagsRequest) : Query × Bool := (r.query, DataSource.isViewOnly r.source)

/-- The flags that the request asks for. -/
def flags (r : FlagsRequest) : QueryFlags := .derive r.context r.query r.source

/-- Requests that the memo cannot tell apart differ in their contexts only, as far as flags go. -/
theorem flags_eq_of_key_eq {p r : FlagsRequest} (h : p.key = r.key) :
    p.flags = .derive p.context r.query r.source := by
  rw [key, key, Prod.mk.injEq] at h
  rw [flags, h.1, QueryFlags.derive_source _ _ h.2]

end FlagsRequest

namespace FlagsMemo

/-- The memo after some requests, the first of them first. -/
def after (requests : List FlagsRequest) : FlagsMemo :=
  requests.foldl (fun m r => (FlagsMemo.flags m r.context r.query r.source).2) .empty

/-- The flags that are handed out for a request that follows others. -/
def handedOut (earlier : List FlagsRequest) (r : FlagsRequest) : Shared QueryFlags :=
  (FlagsMemo.flags (after earlier) r.context r.query r.source).1

/-- The first request of the block that ends with a request: of the longest stretch of consecutive
requests with its query and its view-only mark. -/
def blockStart (earlier : List FlagsRequest) (r : FlagsRequest) : FlagsRequest :=
  Memo.blockStart FlagsRequest.key earlier r

theorem handedOut_eq (earlier : List FlagsRequest) (r : FlagsRequest) :
    handedOut earlier r = Memo.handed FlagsRequest.key FlagsRequest.flags earlier r := rfl

/-- The flags handed out are those of the query in the context that the block began in. -/
theorem value_handedOut (earlier : List FlagsRequest) (r : FlagsRequest) :
    (handedOut earlier r).value = .derive (blockStart earlier r).context r.query r.source := by
  rw [handedOut_eq, Memo.value_handed]
  exact FlagsRequest.flags_eq_of_key_eq (Memo.key_blockStart _ _ _)

/-- **Flags that are kept are those of the present context as long as its answers have not changed
since the block began**, which is so whenever the query or the view-only mark is a new one. -/
theorem flags_of_block (earlier : List FlagsRequest) (r : FlagsRequest) :
    (handedOut earlier r).value = .derive (blockStart earlier r).context r.query r.source ∧
      ((blockStart earlier r).context.AnswersAs r.context r.query →
        (handedOut earlier r).value = .derive r.context r.query r.source) ∧
      ((∀ p ∈ earlier.getLast?,
          (p.query, DataSource.isViewOnly p.source) ≠ (r.query, DataSource.isViewOnly r.source)) →
        (handedOut earlier r).value = .derive r.context r.query r.source) := by
  refine ⟨value_handedOut earlier r, fun hsame => ?_, fun hnew => ?_⟩
  · rw [value_handedOut, QueryFlags.derive_congr hsame]
  · have hstart : blockStart earlier r = r := Memo.blockStart_eq_self FlagsRequest.key hnew
    rw [value_handedOut, hstart]

/-- Both cases on one history: a user who has lost a permission that flags do not depend on, and one
who has lost all of them while the source has become another one. -/
theorem flags_of_block_after_losses :
    let q := Query.saved 1 "select 1"
    let c : Context := .ofUser (User.withPermissions ["fork_query", "view_alert"]).principal .empty
    let d : Context := .ofUser (User.withPermissions ["fork_query"]).principal .empty
    let nobody : Context := .ofUser User.anonymous.principal .empty
    let earlier : List FlagsRequest := [⟨c, .empty, none⟩, ⟨c, q, none⟩]
    ((blockStart earlier ⟨d, q, none⟩).context.AnswersAs d q ∧
        (handedOut earlier ⟨d, q, none⟩).value = .derive d q none) ∧
      (∀ p ∈ earlier.getLast?, (p.query, DataSource.isViewOnly p.source) ≠ (q, false)) ∧
        (handedOut earlier ⟨nobody, q, some .writable⟩).value =
          .derive nobody q (some .writable) := by
  intro q c d nobody earlier
  have hstart : blockStart earlier ⟨d, q, none⟩ = ⟨c, q, none⟩ := rfl
  have hsame : (blockStart earlier ⟨d, q, none⟩).context.AnswersAs d q := by
    rw [hstart]
    exact ⟨by decide, by decide, by decide⟩
  have hnew : ∀ p ∈ earlier.getLast?, (p.query, DataSource.isViewOnly p.source) ≠ (q, false) := by
    decide
  exact ⟨⟨hsame, (flags_of_block earlier ⟨d, q, none⟩).2.1 hsame⟩, hnew,
    (flags_of_block earlier ⟨nobody, q, some .writable⟩).2.2 hnew⟩

/-- **A change of the context alone goes unnoticed**: neither a permission that the user has lost
nor another policy shows in the flags of a query that were asked for before. -/
theorem flags_lag_behind :
    let q := Query.saved 1 "select 1"
    let c : Context := .ofUser (User.withPermissions ["fork_query"]).principal .empty
    let revoked : Context := .ofUser User.anonymous.principal .empty
    let swapped := c.withPolicy revoked.policy
    (handedOut [⟨c, q, some .writable⟩] ⟨revoked, q, some .writable⟩).value ≠
        .derive revoked q (some .writable) ∧
      (handedOut [⟨c, q, some .writable⟩] ⟨swapped, q, some .writable⟩).value ≠
        .derive swapped q (some .writable) := by
  decide

/-- **The flags of a block are one shared value**, the flags of the query in the context that the
block began in, and the next request gets the same value exactly when it belongs to the block.  So
flags can lag behind the context, but never behind the query or the view-only mark: none ever allow
to run a query without a text, or one that is not safe where the source is view-only or not known,
nor to fork there. -/
theorem block_shares_flags (earlier : List FlagsRequest) (r : FlagsRequest) :
    (∃ before first rest, earlier ++ [r] = before ++ first :: rest ∧
        Memo.IsBlock (fun p : FlagsRequest => (p.query, DataSource.isViewOnly p.source))
          before first rest ∧
        handedOut earlier r = handedOut before first ∧
        (handedOut earlier r).value = .derive first.context r.query r.source) ∧
      (∀ next : FlagsRequest,
        (handedOut (earlier ++ [r]) next).serial = (handedOut earlier r).serial ↔
          r.query = next.query ∧
            DataSource.isViewOnly r.source = DataSource.isViewOnly next.source) ∧
      ((handedOut earlier r).value.canExecute = true →
        r.query.text ≠ "" ∧
          (r.query.isSafe = true ∨ ∃ d, r.source = some d ∧ d.viewOnly = false)) ∧
      ((handedOut earlier r).value.canFork = true →
        ∃ d, r.source = some d ∧ d.viewOnly = false) := by
  refine ⟨?_, fun next => ?_, fun h => ?_, fun h => ?_⟩
  · obtain ⟨before, first, rest, hrun, hblock, hkey, hsame, hvalue⟩ :=
      Memo.exists_block FlagsRequest.key FlagsRequest.flags earlier r
    refine ⟨before, first, rest, hrun, hblock, hsame, ?_⟩
    have hfirst : (handedOut earlier r).value = first.flags := by
      rw [handedOut_eq, hsame, hvalue]
    rw [hfirst]
    exact FlagsRequest.flags_eq_of_key_eq hkey
  · rw [handedOut_eq, handedOut_eq, Memo.serial_handed_concat, FlagsRequest.key,
      FlagsRequest.key, Prod.mk.injEq]
  · rw [value_handedOut] at h
    exact QueryFlags.runnable_of_canExecute h
  · rw [value_handedOut] at h
    exact QueryFlags.writable_of_canFork h

/-- A block of two requests after a block of one: the source is another one in the second, and the
user has lost all permissions, but the query may still be run and forked. -/
theorem block_shares_flags_after_loss :
    let q := Query.saved 1 "delete from t"
    let c : Context :=
      .ofUser (User.withPermissions ["execute_query", "fork_query"]).principal .empty
    let nobody : Context := .ofUser User.anonymous.principal .empty
    let other : DataSource := { DataSource.writable with id := some 7 }
    let earlier : List FlagsRequest := [⟨c, q, none⟩, ⟨c, q, some .writable⟩]
    let r : FlagsRequest := ⟨nobody, q, some other⟩
    (handedOut earlier r).value.canExecute = true ∧ (handedOut earlier r).value.canFork = true ∧
      r.query.text ≠ "" ∧ (∃ d, r.source = some d ∧ d.viewOnly = false) ∧
      (handedOut (earlier ++ [r]) ⟨c, q, some .writable⟩).serial =
        (handedOut earlier r).serial := by
  intro q c nobody other earlier r
  have hexecute : (handedOut earlier r).value.canExecute = true := by decide
  have hfork : (handedOut earlier r).value.canFork = true := by decide
  obtain ⟨-, hnext, hrunnable, hwritable⟩ := block_shares_flags earlier r
  exact ⟨hexecute, hfork, (hrunnable hexecute).1, hwritable hfork, (hnext _).2 ⟨rfl, rfl⟩⟩

end FlagsMemo
end QueryRights
