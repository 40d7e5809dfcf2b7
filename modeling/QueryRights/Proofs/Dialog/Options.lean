import Mathlib.Data.List.Sort
import QueryRights.Dialog.Basic
import QueryRights.Session

/-!
# The intervals that are offered

The dialog offers what is both configured and allowed.  The configuration gives the order, and the
policy can only take away: it is asked what it allows, and neither the order of its answer nor how
often it says something makes a difference.

`allowedOnce` is one pass over the configured intervals with a memory of those that it let through.
To say what such a pass results in, one is tempted to write the pass down again with other words.
`FirstOccurrences` avoids that.  It is a conjunction of what a user of the dialog would check:
nothing is offered that is not configured and allowed, nothing of that is left out, nothing is
there twice, and what comes first in the configuration comes first.  That these four together leave
no choice is `FirstOccurrences.unique`, and it is with uniqueness that the independence of the
policy's order follows without going through the pass a second time: two policies that allow the
same intervals have the same first occurrences.

There are three kinds of policies to tell apart.  One that has a list narrows what is configured,
and drops repetitions on the way.  One without a list does neither.  The default policy allows
exactly what is configured; it narrows nothing, but has a list whenever there is anything to offer,
so that repetitions are gone (`allowedOnce_self`).  Whether a setting is missing or malformed makes
no difference to any of them, since nothing is configured then.

## What is here

* `FirstOccurrences`: what is kept of a list if only some of it is allowed, and
  `FirstOccurrences.unique`: nothing but that list is.
* `firstOccurrences_allowedOnce`: the filter that remembers what it saw keeps just that.
* `allowedOnce_self`: of a list that allows itself, later repetitions are dropped.
* `refreshOptions_ordered_intersection`: **the intervals offered are the configured ones that the
  policy allows, in the order of the configuration**.
* `refreshOptions_nodup_iff`: **when no interval is offered twice**.
-/

set_option autoImplicit false

namespace QueryRights

/-! ## First occurrences

About lists of intervals and a memory, without any policy.  The memory is general, as the induction
needs it; only in the end is it empty. -/

/-- The first occurrences in a list of what is allowed, in their order. -/
structure FirstOccurrences (allowed offered kept : List Interval) : Prop where
  sublist : kept.Sublist offered
  nodup : kept.Nodup
  mem_iff : ∀ i, i ∈ kept ↔ i ∈ offered ∧ i ∈ allowed
  /-- What occurs first in the list stands first. -/
  ordered : kept.Pairwise fun i j => offered.idxOf i < offered.idxOf j

/-- There is one list of first occurrences, and only what is allowed matters for it. -/
theorem FirstOccurrences.unique {allowed allowed' offered kept kept' : List Interval}
    (h : FirstOccurrences allowed offered kept) (h' : FirstOccurrences allowed' offered kept')
    (hmem : ∀ i, i ∈ allowed ↔ i ∈ allowed') : kept = kept' := by
  let before (i j : Interval) : Prop := offered.idxOf i < offered.idxOf j
  have : Std.Irrefl before := ⟨fun _ => Nat.lt_irrefl _⟩
  have : Std.Antisymm before := ⟨fun _ _ hij hji => absurd hji (Nat.lt_asymm hij)⟩
  refine List.Pairwise.eq_of_mem_iff (r := before) h.ordered h'.ordered fun i => ?_
  rw [h.mem_iff, h'.mem_iff, hmem]

/-- What occurs first is kept first, whatever was seen before. -/
theorem ordered_allowedOnce (allowed seen offered : List Interval) :
    (allowedOnce allowed seen offered).Pairwise fun i j =>
      offered.idxOf i < offered.idxOf j := by
  induction offered generalizing seen with
  | nil => exact .nil
  | cons x rest ih =>
    -- Behind `x` all places are one further, and `x` itself is not kept there.
    have hbehind : ∀ seen, (∀ i ∈ allowedOnce allowed seen rest, x ≠ i) →
        (allowedOnce allowed seen rest).Pairwise fun i j =>
          (x :: rest).idxOf i < (x :: rest).idxOf j := by
      intro seen hne
      refine (ih seen).imp_of_mem fun hi hj hlt => ?_
      rw [List.idxOf_cons_ne _ (hne _ hi), List.idxOf_cons_ne _ (hne _ hj)]
      exact Nat.succ_lt_succ hlt
    rw [allowedOnce]
    split
    · have hne : ∀ i ∈ allowedOnce allowed (x :: seen) rest, x ≠ i := by
        rintro i hi rfl
        exact (mem_allowedOnce.1 hi).2.2 List.mem_cons_self
      refine List.pairwise_cons.2 ⟨fun i hi => ?_, hbehind _ hne⟩
      rw [List.idxOf_cons_self, List.idxOf_cons_ne _ (hne i hi)]
      exact Nat.succ_pos _
    · rename_i hx
      refine hbehind seen ?_
      rintro i hi rfl
      obtain ⟨-, hallowed, hseen⟩ := mem_allowedOnce.1 hi
      exact hx (by simp [hallowed, hseen])

/-- **A filter that remembers what it saw keeps first occurrences.** -/
theorem firstOccurrences_allowedOnce (allowed offered : List Interval) :
    FirstOccurrences allowed offered (allowedOnce allowed [] offered) where
  sublist := allowedOnce_sublist allowed [] offered
  nodup := nodup_allowedOnce allowed [] offered
  mem_iff i := by simp [mem_allowedOnce]
  ordered := ordered_allowedOnce allowed [] offered

/-- What is left of a list are the first occurrences of what is allowed and was not seen. -/
theorem allowedOnce_eq (allowed seen offered : List Interval) :
    allowedOnce allowed seen offered =
      (offered.filter fun i => allowed.contains i && !seen.contains i).eraseDups := by
  induction offered generalizing seen with
  | nil => rfl
  | cons x rest ih =>
    rw [allowedOnce]
    split
    · rename_i hx
      rw [List.filter_cons, if_pos hx, List.eraseDups_cons, List.filter_filter, ih]
      congr 2
      refine List.filter_congr fun i _ => ?_
      by_cases hi : i = x <;> simp [hi]
    · rename_i hx
      rw [List.filter_cons, if_neg hx, ih]

/-- A list that allows itself is offered without repetitions. -/
theorem allowedOnce_self (is : List Interval) : allowedOnce is [] is = is.eraseDups := by
  rw [allowedOnce_eq, List.filter_eq_self.2]
  intro i hi
  simp [hi]

/-! ## The options of the dialog

The two cases of `refreshOptions`, and what they amount to for the policies that there are. -/

/-- The intervals configured for queries: none, if the setting is missing or is no list. -/
def ClientConfig.configured (c : ClientConfig) : List Interval :=
  match c.querySetting with
  | some (.list is) => is
  | _ => []

theorem ClientConfig.queryIntervals?_getD (c : ClientConfig) :
    c.queryIntervals?.getD [] = c.configured := by
  obtain ⟨_ | _ | _, _⟩ := c <;> rfl

theorem refreshOptions_of_allowed (c : ClientConfig) {a : Answers} {allowed : List Interval}
    (h : a.queryIntervals? = some allowed) :
    refreshOptions c a = allowedOnce allowed [] c.configured := by
  rw [refreshOptions, h, c.queryIntervals?_getD]

theorem refreshOptions_of_none (c : ClientConfig) {a : Answers} (h : a.queryIntervals? = none) :
    refreshOptions c a = c.configured := by
  rw [refreshOptions, h, c.queryIntervals?_getD]

/-- Under the default policy, which allows what is configured, repetitions are dropped. -/
theorem refreshOptions_ofUser (u : Principal) (c : ClientConfig) :
    refreshOptions c (Context.ofUser u c).policy.answers = c.configured.eraseDups := by
  have hconfigured := c.queryIntervals?_getD
  have hanswer : (Context.ofUser u c).policy.answers.queryIntervals? = c.queryIntervals? := rfl
  cases h : c.queryIntervals? with
  | none =>
    rw [refreshOptions_of_none c (hanswer.trans h), ← hconfigured, h]
    rfl
  | some is =>
    rw [h, Option.getD_some] at hconfigured
    rw [refreshOptions_of_allowed c (hanswer.trans h), hconfigured, allowedOnce_self]

/-- **The intervals offered are the configured ones that the policy allows**, each once and in the
order of the configuration.  It matters which intervals the policy allows, and not in which order
or how often it says so; and if it has no list of them, all are offered as they are configured. -/
theorem refreshOptions_ordered_intersection (c : ClientConfig) (p : Policy) :
    (∀ allowed, p.answers.queryIntervals? = some allowed →
      FirstOccurrences allowed c.configured (refreshOptions c p.answers) ∧
      (∀ kept, FirstOccurrences allowed c.configured kept → kept = refreshOptions c p.answers) ∧
      ∀ (p' : Policy) (allowed' : List Interval),
        p'.answers.queryIntervals? = some allowed' → (∀ i, i ∈ allowed' ↔ i ∈ allowed) →
          refreshOptions c p'.answers = refreshOptions c p.answers) ∧
    (p.answers.queryIntervals? = none → refreshOptions c p.answers = c.configured) ∧
    (∀ u, refreshOptions (Context.ofUser u c).config (Context.ofUser u c).policy.answers =
      c.configured.eraseDups) ∧
    ∀ s : Session, refreshOptions s.context.config s.context.policy.answers =
      s.config.configured.eraseDups := by
  refine ⟨fun allowed h => ?_, refreshOptions_of_none c, fun u => refreshOptions_ofUser u c,
    fun s => refreshOptions_ofUser s.user.principal s.config⟩
  have hkept := firstOccurrences_allowedOnce allowed c.configured
  rw [refreshOptions_of_allowed c h]
  refine ⟨hkept, fun kept hother => hother.unique hkept fun i => Iff.rfl, ?_⟩
  intro p' allowed' h' hmem
  rw [refreshOptions_of_allowed c h']
  exact (firstOccurrences_allowedOnce allowed' c.configured).unique hkept hmem

/-- A policy that allows an interval twice and another that is not configured, in another order. -/
theorem refreshOptions_ordered_intersection_of_repetitions :
    let c : ClientConfig := ⟨some (.list [⟨60⟩, ⟨300⟩, ⟨60⟩, ⟨900⟩]), none⟩
    let policy (allowed : List Interval) : Policy :=
      ⟨{ Answers.ofUser User.anonymous.principal c with queryIntervals? := some allowed }, [],
        .settled⟩
    FirstOccurrences [⟨900⟩, ⟨5⟩, ⟨60⟩, ⟨900⟩] c.configured [⟨60⟩, ⟨900⟩] ∧
      refreshOptions c (policy [⟨900⟩, ⟨5⟩, ⟨60⟩, ⟨900⟩]).answers = [⟨60⟩, ⟨900⟩] ∧
      refreshOptions c (policy [⟨5⟩, ⟨60⟩, ⟨900⟩]).answers = [⟨60⟩, ⟨900⟩] := by
  intro c policy
  obtain ⟨hallowed, -⟩ :=
    refreshOptions_ordered_intersection c (policy [⟨900⟩, ⟨5⟩, ⟨60⟩, ⟨900⟩])
  obtain ⟨hkept, -, hsame⟩ := hallowed _ rfl
  have hoptions : refreshOptions c (policy [⟨900⟩, ⟨5⟩, ⟨60⟩, ⟨900⟩]).answers = [⟨60⟩, ⟨900⟩] := by
    decide
  refine ⟨hoptions ▸ hkept, hoptions, ?_⟩
  rw [← hoptions]
  exact hsame (policy [⟨5⟩, ⟨60⟩, ⟨900⟩]) _ rfl fun i => by grind

/-! ## Repetitions

Only the filter by what is allowed looks for repetitions, and without a list from the policy there
is no filter.  So whether something is offered twice is a question about the policy as much as
about the configuration, and a policy of the host can answer it either way. -/

theorem nodup_refreshOptions_of_allowed (c : ClientConfig) {a : Answers} {allowed : List Interval}
    (h : a.queryIntervals? = some allowed) : (refreshOptions c a).Nodup := by
  rw [refreshOptions_of_allowed c h]
  exact nodup_allowedOnce allowed [] c.configured

/-- Under the default policy nothing is offered twice: if it has no list, nothing is configured. -/
theorem nodup_refreshOptions_ofUser (u : Principal) (c : ClientConfig) :
    (refreshOptions c (Context.ofUser u c).policy.answers).Nodup := by
  rw [refreshOptions_ofUser, ← allowedOnce_self]
  exact nodup_allowedOnce c.configured [] c.configured

/-- **No interval is offered twice exactly if the policy has a list of what it allows, or no
interval is configured twice.**  Policies of the host may be without a list; the default policy is
so only where nothing is configured, and repeats nothing. -/
theorem refreshOptions_nodup_iff (c : ClientConfig) :
    (∀ p : Policy, (refreshOptions c p.answers).Nodup ↔
      (∃ allowed, p.answers.queryIntervals? = some allowed) ∨ c.configured.Nodup) ∧
    (∀ u, (refreshOptions (Context.ofUser u c).config
      (Context.ofUser u c).policy.answers).Nodup) ∧
    ∀ s : Session, (refreshOptions s.context.config s.context.policy.answers).Nodup := by
  refine ⟨fun p => ?_, fun u => nodup_refreshOptions_ofUser u c,
    fun s => nodup_refreshOptions_ofUser s.user.principal s.config⟩
  cases h : p.answers.queryIntervals? with
  | some allowed =>
    exact ⟨fun _ => .inl ⟨allowed, rfl⟩, fun _ => nodup_refreshOptions_of_allowed c h⟩
  | none =>
    rw [refreshOptions_of_none c h]
    refine ⟨.inr, fun hor => hor.resolve_left ?_⟩
    rintro ⟨allowed, hallowed⟩
    cases hallowed

/-- A policy that says yes to everything and has no list lets an interval be offered twice. -/
theorem refreshOptions_repeats :
    ¬ ∀ (c : ClientConfig) (p : Policy), (refreshOptions c p.answers).Nodup := by
  intro h
  have hnodup := h ⟨some (.list [⟨60⟩, ⟨60⟩]), none⟩
    ⟨⟨fun _ => true, fun _ => true, none, none⟩, [], .settled⟩
  revert hnodup
  decide

end QueryRights
