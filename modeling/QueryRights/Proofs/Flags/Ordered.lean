import QueryRights.Proofs.Flags.Memoized

/-!
# More rights, more flags

Flags are derived from what the user holds, what the policy answers, what the server says about the
query, and the source.  None of these counts against the user: where each of them says yes to at
least as much as before, no flag goes down.  And a policy is only one of them.  Whoever supplies
it, it has no say in what the user alone decides, and cannot lift what the user or the source
forbid.

The order is on requests and not on policies.  Two requests may have different users, policies,
queries and sources; what is compared is only what flags depend on, as
`QueryRights.Proofs.Flags.Memoized` lists it.  So one lemma, `FlagsRequest.flags_mono`, covers a
user who is given more permissions, a source that becomes writable, and a policy that is replaced,
and the last is the case that is drawn out here.  Flags that show the state of a query are not
rights, and no order is claimed for them; for another policy they are just the same.

A policy of the host is any function from questions to answers.  Nothing is assumed about it,
neither that it knows the user nor that it says yes to viewing wherever it says yes to editing.
What is left of the limits is therefore what the derivation itself asks for, and this is the point
of the last theorem.

## What is here

* `QueryFlags.states` and `QueryFlags.grants`: the flags by name, to speak about all of them, and
  `QueryFlags.AtMost`, which compares what they grant.
* `Answers.AtMost`, `FlagsRequest.AtMost` and `FlagsRequest.flags_mono`: **requests that find more
  rights get more flags**.
* `QueryFlags.substituted_policy_within_limits`: what another policy can change about the flags of
  a query.
-/

set_option autoImplicit false

namespace QueryRights

/-! ## Flags that grant more

The eleven flags that grant something, apart from the three that show a state. -/

namespace QueryFlags

/-- The flags that show the state of the query. -/
def states : List (QueryFlags → Bool) := [isNew, isDraft, isArchived]

/-- The flags that show what the user may do. -/
def grants : List (QueryFlags → Bool) :=
  [canCreate, canView, canEdit, canViewSource, canExecute, canFork, canSchedule, canSave,
   canRegenerateApiKey, canEditVisualization, canEditDashboard]

/-- All that the first flags grant, the second grant too. -/
def AtMost (f g : QueryFlags) : Prop := ∀ flag ∈ grants, flag f = true → flag g = true

end QueryFlags

/-! ## Requests that find more

Most flags are the answer to one question, and for them there is nothing to do.  The three that are
not have conditions that all go up with the request. -/

/-- All that the first answers say yes to, the second say yes to. -/
structure Answers.AtMost (a b : Answers) : Prop where
  allows : ∀ k, a.allows k = true → b.allows k = true
  allowsEdit : ∀ hint, a.allowsEdit hint = true → b.allowsEdit hint = true

namespace FlagsRequest

/-- Whatever counts for the flags of the first request, counts for those of the second. -/
structure AtMost (p r : FlagsRequest) : Prop where
  /-- The user of the second holds as many of the permissions. -/
  holds : ∀ k ∈ QueryFlags.permissions,
    p.context.holds k.name = true → r.context.holds k.name = true
  /-- Its policy says yes to as many of the questions, -/
  allows : ∀ k ∈ QueryFlags.questions,
    p.context.policy.answers.allows k = true → r.context.policy.answers.allows k = true
  /-- and to editing its query, if the first policy does so for the first query. -/
  allowsEdit : p.context.policy.answers.allowsEdit p.query.editable = true →
    r.context.policy.answers.allowsEdit r.query.editable = true
  /-- Its query has a text and is safe, if the first query does and is. -/
  text : p.query.text ≠ "" → r.query.text ≠ ""
  isSafe : p.query.isSafe = true → r.query.isSafe = true
  /-- Its source is not view-only, unless the first one is. -/
  writable : DataSource.isViewOnly p.source = false → DataSource.isViewOnly r.source = false

/-- **A request that finds more rights gets more flags.** -/
theorem flags_mono {p r : FlagsRequest} (h : p.AtMost r) : p.flags.AtMost r.flags := by
  have hedit : p.flags.canEdit = true → r.flags.canEdit = true := by
    rw [flags, flags, QueryFlags.canEdit_iff, QueryFlags.canEdit_iff]
    exact And.imp (h.holds .editQuery (by decide)) h.allowsEdit
  have hexecute : p.flags.canExecute = true → r.flags.canExecute = true := by
    rw [flags, flags, QueryFlags.canExecute_iff, QueryFlags.canExecute_iff]
    exact And.imp h.text (And.imp (h.allows .executeQuery (by decide))
      (Or.imp h.isSafe h.writable))
  have hfork : p.flags.canFork = true → r.flags.canFork = true := by
    rw [flags, flags, QueryFlags.canFork_iff, QueryFlags.canFork_iff]
    exact And.imp (h.allows .forkQuery (by decide)) h.writable
  simp only [QueryFlags.AtMost, QueryFlags.grants, List.forall_mem_cons]
  -- the other flags are the answer to one question each
  exact ⟨h.holds .createQuery (by decide), h.holds .viewQuery (by decide), hedit,
    h.holds .viewSource (by decide), hexecute, hfork, h.allows .schedule (by decide),
    h.allows .saveQuery (by decide), h.allows .regenerateApiKey (by decide),
    h.allows .editVisualization (by decide), h.allows .editDashboard (by decide),
    List.forall_mem_nil _⟩

end FlagsRequest

/-! ## Another policy

Everything but the policy is kept.  A policy that says yes to more makes a greater request, and the
limits are those that no context lifts. -/

/-- Under a policy that says yes to more, everything else being the same, a request finds more. -/
theorem Answers.AtMost.request {a b : Policy} (h : a.answers.AtMost b.answers) (c : Context)
    (q : Query) (s : Option DataSource) :
    FlagsRequest.AtMost ⟨c.withPolicy a, q, s⟩ ⟨c.withPolicy b, q, s⟩ where
  holds _ _ := id
  allows k _ := h.allows k
  allowsEdit := h.allowsEdit q.editable
  text := id
  isSafe := id
  writable := id

namespace QueryFlags

/-- **What another policy can change about flags.**  It has no say in the state of the query, and
none in creating and viewing queries and sources.  A policy that says yes to more raises flags and
lowers none.  But no policy lets a user edit who does not hold the permission, and none lets run a
query without a text, or an unsafe one where the source is view-only or not known, or fork one
there. -/
theorem substituted_policy_within_limits (c : Context) (q : Query) (s : Option DataSource)
    (a b : Policy) :
    let f := derive (c.withPolicy a) q s
    let g := derive (c.withPolicy b) q s
    (f.isNew = g.isNew ∧ f.isDraft = g.isDraft ∧ f.isArchived = g.isArchived ∧
      f.canCreate = g.canCreate ∧ f.canView = g.canView ∧ f.canViewSource = g.canViewSource) ∧
    (a.answers.AtMost b.answers → ∀ flag ∈ states ++ grants, flag f = true → flag g = true) ∧
    (f.canEdit = true → c.holds "edit_query" = true) ∧
    (f.canExecute = true →
      q.text ≠ "" ∧ (q.isSafe = true ∨ ∃ d, s = some d ∧ d.viewOnly = false)) ∧
    (f.canFork = true → ∃ d, s = some d ∧ d.viewOnly = false) := by
  intro f g
  refine ⟨⟨rfl, rfl, rfl, rfl, rfl, rfl⟩, fun hmore => ?_, fun h => (canEdit_iff.1 h).1,
    runnable_of_canExecute, writable_of_canFork⟩
  rw [List.forall_mem_append]
  refine ⟨?_, FlagsRequest.flags_mono (hmore.request c q s)⟩
  simp only [states, List.forall_mem_cons]
  exact ⟨id, id, id, List.forall_mem_nil _⟩

/-- A policy that allows everything, in the place of the default policy, for a user who holds
nothing but the permission to edit: it lets the user edit a query that the server lets nobody edit,
and run and fork it, though it is not safe, because the source is not view-only. -/
theorem substituted_policy_within_limits_of_permissive :
    let c : Context := .ofUser (User.withPermissions ["edit_query"]).principal .empty
    let q : Query := { Query.saved 1 "drop table t" with editable := some false }
    let permissive : Policy := ⟨⟨fun _ => true, fun _ => true, none, none⟩, [], .settled⟩
    let f := derive c q (some .writable)
    let g := derive (c.withPolicy permissive) q (some .writable)
    c.policy.answers.AtMost permissive.answers ∧
      (∀ flag ∈ states ++ grants, flag f = true → flag g = true) ∧
      (f.canEdit = false ∧ g.canEdit = true ∧ c.holds "edit_query" = true) ∧
      (f.canExecute = false ∧ g.canExecute = true ∧ q.text ≠ "" ∧
        (q.isSafe = true ∨ ∃ d, some DataSource.writable = some d ∧ d.viewOnly = false)) ∧
      (f.canFork = false ∧ g.canFork = true ∧
        ∃ d, some DataSource.writable = some d ∧ d.viewOnly = false) := by
  intro c q permissive f g
  have hmore : c.policy.answers.AtMost permissive.answers := ⟨fun _ _ => rfl, fun _ _ => rfl⟩
  have hdown : f.canEdit = false ∧ f.canExecute = false ∧ f.canFork = false := by decide
  have hup : g.canEdit = true ∧ g.canExecute = true ∧ g.canFork = true := by decide
  obtain ⟨-, hflags, -⟩ :=
    substituted_policy_within_limits c q (some .writable) c.policy permissive
  obtain ⟨-, -, hholds, hrunnable, hwritable⟩ :=
    substituted_policy_within_limits c q (some .writable) permissive c.policy
  exact ⟨hmore, hflags hmore, ⟨hdown.1, hup.1, hholds hup.1⟩,
    ⟨hdown.2.1, hup.2.1, hrunnable hup.2.1⟩, hdown.2.2, hup.2.2, hwritable hup.2.2⟩

end QueryFlags
end QueryRights
