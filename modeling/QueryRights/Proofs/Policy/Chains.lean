import Mathlib.Logic.Function.Iterate
import QueryRights.Session

/-!
# Chains of policies

A refresh asks the active policy which policy to use from now on.  That may be another one, which
the next refresh asks in its turn, so policies form chains.  A chain ends with a policy that
resolves to itself or fails, and that one stays active for good, whether refreshing it is a success
or not.

The policies of one chain differ in how many are still to come.  So a policy that is equal to the
one before is that very policy, and to say that a refresh leaves the policy active, or that it puts
another one in its place, it is enough to compare policies.  `Policy.stays_or_yieldsTo` is all that
has to be known about how a policy comes to its answer: it does one of two things, and never both.
From there on nothing looks into a policy.

How far has a context come after some refreshes?  As many links as there were refreshes, or fewer,
and then the policy it has come to stays.  The second half is what makes this an invariant that
carries over a run: if a link is followed, no policy before has stayed, so no refresh was in vain
and the count is exact.  A policy that fails is an end of a chain as good as one that resolves to
itself.  The only difference is what the call returns, and that never shows in the context.

User and configuration are no part of a chain and remain the same throughout.  The default policy
is a chain of one, settled.  That is why refreshing matters to hosts with policies of their own,
and nothing happens in a session without one.

## What is here

* `Policy.YieldsTo` and `Policy.Stays`: the two things that a refresh can do to the active policy,
  and `Policy.stays_or_yieldsTo`, that it does one of them.
* `Policy.Links`: how many links lead from one policy of a chain to another.
* `Context.refreshed`: a context after some refreshes, and `Context.links_refreshed`: how far it
  has followed the chain.
* `Context.refreshed_along_chain`: **what refreshes do to a context, and what each call returns**.
-/

set_option autoImplicit false

namespace QueryRights

/-! ## Administration

What the default policy says about administration, which is a matter of who the user is and of
nothing else.  Only contexts under that policy are concerned. -/

namespace Question

/-- The questions about administration. -/
def administrative : List Question :=
  [.createDataSource, .createDataSourceEnabled, .createDestination, .createDestinationEnabled,
   .createUser, .createUserEnabled]

/-- The default policy leaves them to administrators. -/
theorem allows_administrative {k : Question} (hk : k ∈ administrative) (u : Principal)
    (g : ClientConfig) : (Answers.ofUser u g).allows k = u.isAdmin := by
  have hrequirement : k.requirement = .administrator := by
    revert k
    simp [administrative, requirement]
  show k.requirement.metBy u = u.isAdmin
  rw [hrequirement, Requirement.metBy]

end Question

/-! ## One refresh

One step along a chain, seen from the policy and seen from the context.  A context follows the link
if there is one and otherwise remains the same context, so that nothing but the policy has to be
looked at for what comes next. -/

namespace Policy

/-- A refresh resolves to another policy. -/
def YieldsTo (p q : Policy) : Prop := p.refresh = .ok q ∧ q ≠ p

/-- A refresh leaves the policy active: it resolves to the policy itself, or it fails. -/
def Stays (p : Policy) : Prop := p.refresh = .ok p ∨ ∃ failure, p.refresh = .error failure

theorem Stays.not_yieldsTo {p q : Policy} (h : p.Stays) : ¬ p.YieldsTo q := by
  rintro ⟨hq, hne⟩
  rcases h with hp | ⟨failure, hp⟩
  · rw [hp] at hq
    exact hne (Except.ok.inj hq).symm
  · rw [hp] at hq
    cases hq

theorem stays_or_yieldsTo (p : Policy) : p.Stays ∨ ∃ q, p.YieldsTo q := by
  obtain ⟨answers, successors, ending⟩ := p
  cases successors with
  | cons next rest =>
    refine .inr ⟨⟨next, rest, ending⟩, rfl, fun h => ?_⟩
    -- the policy that is next has one successor less
    exact absurd (congrArg (List.length ∘ successors) h) (Nat.ne_of_lt (Nat.lt_succ_self _))
  | nil =>
    cases ending with
    | settled => exact .inl (.inl rfl)
    | failing failure => exact .inl (.inr ⟨failure, rfl⟩)

end Policy

namespace Context

/-- A call succeeds exactly if the refresh of the active policy does, -/
theorem refreshPolicy_ok_iff (c : Context) :
    c.refreshPolicy.1 = .ok () ↔ ∃ p, c.policy.refresh = .ok p := by
  rw [refreshPolicy]
  cases c.policy.refresh with
  | ok p => exact ⟨fun _ => ⟨p, rfl⟩, fun _ => rfl⟩
  | error failure => exact ⟨nofun, nofun⟩

/-- and adopts the policy that it resolves to. -/
theorem refreshPolicy_of_ok {c : Context} {p : Policy} (h : c.policy.refresh = .ok p) :
    c.refreshPolicy = (.ok (), c.withPolicy p) := by
  rw [refreshPolicy, h]

/-- A call that fails has the failure of the active policy, and changes nothing. -/
theorem refreshPolicy_of_error {c : Context} {failure : Failure}
    (h : c.policy.refresh = .error failure) : c.refreshPolicy = (.error failure, c) := by
  rw [refreshPolicy, h]

/-- A policy that stays leaves the context as it is. -/
theorem refreshPolicy_of_stays {c : Context} (h : c.policy.Stays) : c.refreshPolicy.2 = c := by
  rcases h with h | ⟨failure, h⟩
  · rw [refreshPolicy_of_ok h]
    rfl
  · rw [refreshPolicy_of_error h]

end Context

/-! ## Many refreshes

Links are counted from the start of the chain and added at its end, where the context is.  An
induction on the number of refreshes has the step above as its only case. -/

/-- So many links, each to another policy, lead from a policy to one that comes later. -/
inductive Policy.Links : Nat → Policy → Policy → Prop where
  | none (p : Policy) : Links 0 p p
  | concat {n : Nat} {p q r : Policy} : Links n p q → q.YieldsTo r → Links (n + 1) p r

/-- Without a link there is no way to another policy. -/
theorem Policy.Links.eq_of_zero {p q : Policy} (h : Links 0 p q) : p = q := by
  cases h
  rfl

namespace Context

/-- The context after some refreshes. -/
def refreshed (c : Context) (n : Nat) : Context := (fun d => d.refreshPolicy.2)^[n] c

theorem refreshed_succ (c : Context) (n : Nat) :
    c.refreshed (n + 1) = (c.refreshed n).refreshPolicy.2 :=
  Function.iterate_succ_apply' _ n c

/-- **Refreshes follow the chain link by link**, as many as there are refreshes, unless they have
come to a policy that stays. -/
theorem links_refreshed (c : Context) (n : Nat) :
    ∃ k ≤ n, Policy.Links k c.policy (c.refreshed n).policy ∧
      (k < n → (c.refreshed n).policy.Stays) := by
  induction n with
  | zero => exact ⟨0, Nat.le_refl 0, .none _, fun h => absurd h (Nat.lt_irrefl 0)⟩
  | succ n ih =>
    obtain ⟨k, hk, hlinks, hstays⟩ := ih
    rw [refreshed_succ]
    rcases (c.refreshed n).policy.stays_or_yieldsTo with hstay | ⟨q, hq⟩
    · rw [refreshPolicy_of_stays hstay]
      exact ⟨k, Nat.le_succ_of_le hk, hlinks, fun _ => hstay⟩
    · -- no policy before has stayed, or this one would not yield to another
      have hkn : k = n := by
        by_contra hne
        exact (hstays (Nat.lt_of_le_of_ne hk hne)).not_yieldsTo hq
      rw [refreshPolicy_of_ok hq.1]
      exact ⟨n + 1, Nat.le_refl _, .concat (hkn ▸ hlinks) hq, fun h => absurd h (Nat.lt_irrefl _)⟩

/-- A policy that stays once stays for good. -/
theorem refreshed_of_stays {c : Context} {n : Nat} (h : (c.refreshed n).policy.Stays) {m : Nat}
    (hm : n ≤ m) : c.refreshed m = c.refreshed n := by
  induction hm with
  | refl => rfl
  | step _ ih => rw [refreshed_succ, ih, refreshPolicy_of_stays h]

/-- A refresh concerns the policy only. -/
theorem refreshPolicy_keeps (c : Context) :
    c.refreshPolicy.2.user = c.user ∧ c.refreshPolicy.2.config = c.config := by
  rw [refreshPolicy]
  cases c.policy.refresh with
  | ok p => exact ⟨rfl, rfl⟩
  | error failure => exact ⟨rfl, rfl⟩

theorem refreshed_keeps (c : Context) (n : Nat) :
    (c.refreshed n).user = c.user ∧ (c.refreshed n).config = c.config := by
  induction n with
  | zero => exact ⟨rfl, rfl⟩
  | succ n ih =>
    obtain ⟨huser, hconfig⟩ := (c.refreshed n).refreshPolicy_keeps
    rw [refreshed_succ, huser, hconfig]
    exact ih

/-- Under a default policy every refresh leaves all as it is. -/
theorem refreshed_ofUser (u : Principal) (g : ClientConfig) (n : Nat) :
    (ofUser u g).refreshed n = ofUser u g :=
  refreshed_of_stays (n := 0) (.inl rfl) (Nat.zero_le n)

/-- **What refreshes do to a context, and what each call returns.**  After so many calls the active
policy is the one that as many links lead to, or an earlier one on the chain that stays, and then it
stays for good.  The next call succeeds exactly if the refresh of that policy does, and otherwise
returns its failure and changes nothing.  User and configuration remain the same.  A context that
was made for a user or a session remains as it is, while every call succeeds: its intervals are
those of its configuration, and its answers about administration are what its user is. -/
theorem refreshed_along_chain (c : Context) (n : Nat) :
    (∃ k ≤ n, Policy.Links k c.policy (c.refreshed n).policy ∧
      (k < n → (c.refreshed n).policy.Stays)) ∧
    ((c.refreshed n).policy.Stays → ∀ m, n ≤ m → (c.refreshed m).policy = (c.refreshed n).policy) ∧
    ((c.refreshed n).refreshPolicy.1 = .ok () ↔ ∃ p, (c.refreshed n).policy.refresh = .ok p) ∧
    (∀ failure, (c.refreshed n).policy.refresh = .error failure →
      (c.refreshed n).refreshPolicy = (.error failure, c.refreshed n)) ∧
    ((c.refreshed n).user = c.user ∧ (c.refreshed n).config = c.config) ∧
    ((∃ u g, c = ofUser u g) ∨ (∃ s : Session, c = s.context) →
      (c.refreshed n).refreshPolicy.1 = .ok () ∧ (c.refreshed n).policy = c.policy ∧
      (c.refreshed n).policy.answers.queryIntervals? = (c.refreshed n).config.queryIntervals? ∧
      (c.refreshed n).policy.answers.dashboardIntervals? =
        (c.refreshed n).config.dashboardIntervals? ∧
      ∀ k ∈ Question.administrative,
        (c.refreshed n).policy.answers.allows k = (c.refreshed n).user.isAdmin) := by
  refine ⟨c.links_refreshed n, fun h m hm => by rw [refreshed_of_stays h hm],
    (c.refreshed n).refreshPolicy_ok_iff, fun failure h => refreshPolicy_of_error h,
    c.refreshed_keeps n, fun hmade => ?_⟩
  obtain ⟨u, g, rfl⟩ : ∃ u g, c = ofUser u g := by
    rcases hmade with hmade | ⟨s, rfl⟩
    · exact hmade
    · exact ⟨s.user.principal, s.config, rfl⟩
  rw [refreshed_ofUser]
  exact ⟨rfl, rfl, rfl, rfl, fun k hk => Question.allows_administrative hk u g⟩

/-- A host's policy that allows nothing yields to one that allows everything, whose refresh fails.
The first call follows the link, so that the answers are those of the second policy; the calls after
it return the failure, and the second policy stays.  And a session without any policy of a host,
refreshed twice. -/
theorem refreshed_along_chain_of_failing :
    let silent : Answers := ⟨fun _ => false, fun _ => false, none, none⟩
    let permissive : Answers := ⟨fun _ => true, fun _ => true, none, none⟩
    let c : Context := (ofUser User.anonymous.principal .empty).withPolicy
      ⟨silent, [permissive], .failing (.refresh "down")⟩
    let d : Context := Session.context ⟨.admin, .withDefaults⟩
    ((c.refreshed 1).policy ≠ c.policy ∧ Policy.Links 1 c.policy (c.refreshed 1).policy ∧
      c.policy.answers = silent ∧ (c.refreshed 1).policy.answers = permissive) ∧
    ((c.refreshed 1).policy.Stays ∧ (c.refreshed 2).policy = (c.refreshed 1).policy) ∧
    ((c.refreshed 2).policy.refresh = .error (.refresh "down") ∧
      (c.refreshed 2).refreshPolicy = (.error (.refresh "down"), c.refreshed 2)) ∧
    ((∃ s : Session, d = s.context) ∧ (d.refreshed 2).refreshPolicy.1 = .ok () ∧
      (d.refreshed 2).policy = d.policy) := by
  intro silent permissive c d
  have hchanged : (c.refreshed 1).policy ≠ c.policy := fun h =>
    List.cons_ne_nil _ _ (congrArg Policy.successors h).symm
  have hstays : (c.refreshed 1).policy.Stays := .inr ⟨.refresh "down", rfl⟩
  have hfailure : (c.refreshed 2).policy.refresh = .error (.refresh "down") := rfl
  have hsession : ∃ s : Session, d = s.context := ⟨⟨.admin, .withDefaults⟩, rfl⟩
  obtain ⟨⟨k, hk, hlinks, -⟩, hgood, -⟩ := refreshed_along_chain c 1
  have hlinked : Policy.Links 1 c.policy (c.refreshed 1).policy := by
    rcases Nat.le_one_iff_eq_zero_or_eq_one.1 hk with rfl | rfl
    · exact absurd hlinks.eq_of_zero.symm hchanged
    · exact hlinks
  obtain ⟨-, -, -, hcall, -⟩ := refreshed_along_chain c 2
  obtain ⟨hok, hsame, -⟩ := (refreshed_along_chain d 2).2.2.2.2.2 (.inr hsession)
  exact ⟨⟨hchanged, hlinked, rfl, rfl⟩, ⟨hstays, hgood hstays 2 (by decide)⟩,
    ⟨hfailure, hcall _ hfailure⟩, hsession, hok, hsame⟩

end Context
end QueryRights
