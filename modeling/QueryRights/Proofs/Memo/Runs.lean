import QueryRights.Proofs.Memo.Blocks

/-!
# Whole runs of a memo

Besides being asked for values, a memo is asked whether it holds a value for a key, and cleared.
Its entry has the key of the latest request that made it compute, while all that counts is the key
of the latest request.  Keys may be compared by any equivalence; the two keys are equal, but not
necessarily the same, and this is the invariant that carries over a run.

`Memo.Tracks` says it without an entry: whatever key is asked about, the answer is the comparison
with the key of the latest request.  It holds in the beginning, every operation preserves it
(`Tracks.perform`), and it decides whether a request computes.  So when a memo computes can be read
off the operations, with no look at the memo, and how often it did so is a count of the places in
the run where the key changes.

What is computed matters as much as when.  Each request comes with its own way to compute a value,
and the memo uses the one of the request that made it compute.  `Memo.Latest` is this request in
terms of the run: it computed, and nothing after it did.  What the memo holds was computed for it
(`exists_latest`).  Questions about a key leave everything as it is, and clearing a memo forgets
its value but not how many there were, so a number is never given twice.

The operations are performed one after the other.  A value that is asked for while another one is
being computed is not covered; the function that computes a value does not get at the memo here.

## What is here

* `Memo.Operation`, `Memo.performed` and `Memo.given`: what is asked of a memo, the memo after some
  operations, and what it then gives for a key.
* `Memo.Computes`, `Memo.latestKey?` and `Memo.changes`: the requests that make a memo compute, and
  what they are in terms of the operations alone.
* `Memo.Tracks` and `Memo.tracks_performed`: the invariant, with one step and for a run.
* `Memo.Latest` and `Memo.exists_latest`: the latest request that made the memo compute.
* `Memo.run_computes_on_change`: **when a memo computes over a whole run, what it gives and what it
  says**.
-/

set_option autoImplicit false

namespace QueryRights
namespace Memo

/-! ## Operations

A run is a list of operations.  That a request computes is defined by what happens to the memo, by
its count, and not by the condition that turns out to decide it. -/

variable {κ α : Type}

/-- What is asked of a memo. -/
inductive Operation (κ α : Type) where
  /-- A request for the value for a key, with what computes it. -/
  | get (key : κ) (value : Unit → α)
  /-- The question whether a value is held for a key. -/
  | isCurrent (key : κ)
  | clear

variable [BEq κ]

/-- The memo after an operation. -/
def perform (m : Memo κ α) : Operation κ α → Memo κ α
  | .get key value => (m.get key value).2
  | .isCurrent _ => m
  | .clear => m.clear

/-- The memo after some operations, the first of them first. -/
def performed (ops : List (Operation κ α)) : Memo κ α := ops.foldl perform empty

/-- What is given for a key after some operations. -/
def given (ops : List (Operation κ α)) (key : κ) (value : Unit → α) : Shared α :=
  ((performed ops).get key value).1

/-- A request makes the memo compute one more value, by what the request came with.  The memo counts
the values that it computes. -/
def Computes (ops : List (Operation κ α)) (key : κ) (value : Unit → α) : Prop :=
  ((performed ops).get key value).2.computed = (performed ops).computed + 1

instance (ops : List (Operation κ α)) (key : κ) (value : Unit → α) :
    Decidable (Computes ops key value) :=
  inferInstanceAs (Decidable (_ = _))

theorem performed_concat (ops : List (Operation κ α)) (op : Operation κ α) :
    performed (ops ++ [op]) = (performed ops).perform op := by
  simp [performed]

theorem performed_append (ops later : List (Operation κ α)) :
    performed (ops ++ later) = later.foldl perform (performed ops) :=
  List.foldl_append

/-! ## Keys

The same run, with the memo left out: what can be said by looking at nothing but the keys. -/

omit [BEq κ] in
/-- The key of the latest request, which was `last` before the operation.  There is none right after
the memo was cleared. -/
def Operation.latestKey? (last : Option κ) : Operation κ α → Option κ
  | .get key _ => some key
  | .isCurrent _ => last
  | .clear => none

omit [BEq κ] in
/-- The key of the latest request, if there was one since the start and since the memo was cleared
the last time. -/
def latestKey? (ops : List (Operation κ α)) : Option κ :=
  ops.foldl (fun last op => op.latestKey? last) none

/-- Whether an operation is a request for another key than the latest one, or the first request. -/
def Operation.isChange (last : Option κ) : Operation κ α → Bool
  | .get key _ => !last.any (· == key)
  | .isCurrent _ => false
  | .clear => false

/-- How many requests are for another key than the request before them, or are the first since the
start or since the memo was cleared; `last` is the key of the latest request at the beginning. -/
def changes (last : Option κ) : List (Operation κ α) → Nat
  | [] => 0
  | op :: rest => (if op.isChange last then 1 else 0) + changes (op.latestKey? last) rest

omit [BEq κ] in
theorem latestKey?_concat (ops : List (Operation κ α)) (op : Operation κ α) :
    latestKey? (ops ++ [op]) = op.latestKey? (latestKey? ops) := by
  simp [latestKey?]

/-! ## One operation

The invariant holds of a memo that was not asked yet, and each operation preserves it.  The only
case with an argument is a request that finds a value: the key that stays in the entry is not the
one asked about, and it compares with any other key in the same way because the comparison is an
equivalence. -/

/-- A memo holds a value for the keys that are equal to the key of the latest request. -/
def Tracks (m : Memo κ α) (last : Option κ) : Prop := ∀ key, m.isCurrent key = last.any (· == key)

theorem tracks_empty : (empty : Memo κ α).Tracks none := fun _ => rfl

/-- A request adds one to the values computed, unless a value is held for its key. -/
theorem computed_get (m : Memo κ α) (key : κ) (value : Unit → α) :
    (m.get key value).2.computed = (if m.isCurrent key then 0 else 1) + m.computed := by
  cases h : m.isCurrent key with
  | true => rw [get_of_isCurrent h, if_pos rfl, Nat.zero_add]
  | false => rw [get_of_not_isCurrent h, if_neg Bool.false_ne_true, Nat.add_comm]; rfl

section Equivalence

variable [EquivBEq κ]

/-- After a request, a memo holds a value for the keys that are equal to the one asked about. -/
theorem isCurrent_get_eq (m : Memo κ α) (key : κ) (value : Unit → α) (k : κ) :
    (m.get key value).2.isCurrent k = (key == k) := by
  cases h : m.isCurrent key with
  | true =>
    rw [get_of_isCurrent h]
    -- the key that is held is equal to the one asked about
    unfold isCurrent at h ⊢
    split at h
    · exact BEq.congr_left h
    · cases h
  | false =>
    rw [get_of_not_isCurrent h]
    rfl

theorem Tracks.perform {m : Memo κ α} {last : Option κ} (h : m.Tracks last) (op : Operation κ α) :
    (m.perform op).Tracks (op.latestKey? last) := by
  cases op with
  | get key value => exact isCurrent_get_eq m key value
  | isCurrent key => exact h
  | clear => exact m.isCurrent_clear

end Equivalence

theorem Tracks.computed_perform {m : Memo κ α} {last : Option κ} (h : m.Tracks last)
    (op : Operation κ α) :
    (m.perform op).computed = (if op.isChange last then 1 else 0) + m.computed := by
  cases op with
  | get key value =>
    rw [Memo.perform, computed_get, h key, Operation.isChange]
    cases last.any (· == key) <;> rfl
  | isCurrent key => exact (Nat.zero_add _).symm
  | clear => exact (Nat.zero_add _).symm

/-! ## Runs

The same for all operations of a run, by induction.  Which requests compute, and what a request
does that does not, follows before any run is looked at. -/

theorem computes_iff {ops : List (Operation κ α)} {key : κ} {value : Unit → α} :
    Computes ops key value ↔ (performed ops).isCurrent key = false := by
  rw [Computes, computed_get]
  cases (performed ops).isCurrent key with
  | true => simp
  | false => simp [Nat.add_comm]

/-- A request that makes the memo compute is given the new value. -/
theorem Computes.given_eq {ops : List (Operation κ α)} {key : κ} {value : Unit → α}
    (h : Computes ops key value) : given ops key value = ⟨(performed ops).computed, value ()⟩ := by
  rw [given, get_of_not_isCurrent (computes_iff.1 h)]
  rfl

/-- A request that does not is given the value that is held, and changes nothing. -/
theorem entry_of_not_computes {ops : List (Operation κ α)} {key : κ} {value : Unit → α}
    (h : ¬ Computes ops key value) :
    (∃ held, (performed ops).entry = some (held, given ops key value)) ∧
      performed (ops ++ [.get key value]) = performed ops := by
  have hcurrent : (performed ops).isCurrent key = true := by
    rw [computes_iff, Bool.not_eq_false] at h
    exact h
  have hsame : ((performed ops).get key value).2 = performed ops := get_of_isCurrent hcurrent value
  refine ⟨?_, by rw [performed_concat, perform, hsame]⟩
  obtain ⟨held, hentry⟩ := exists_entry_get (performed ops) key value
  exact ⟨held, by rw [← hsame]; exact hentry⟩

theorem numbered_performed (ops : List (Operation κ α)) : (performed ops).Numbered := by
  induction ops using List.reverseRecOn with
  | nil => exact numbered_empty
  | append_singleton ops op ih =>
    rw [performed_concat]
    cases op with
    | get key value => exact ih.get key value
    | isCurrent key => exact ih
    | clear => exact nofun

section Equivalence

variable [EquivBEq κ]

/-- **A memo holds a value for the key of the latest request**, and for no other. -/
theorem tracks_performed (ops : List (Operation κ α)) :
    (performed ops).Tracks (latestKey? ops) := by
  induction ops using List.reverseRecOn with
  | nil => exact tracks_empty
  | append_singleton ops op ih =>
    rw [performed_concat, latestKey?_concat]
    exact ih.perform op

/-- **The values computed are as many as the changes of the key.** -/
theorem Tracks.computed_foldl {m : Memo κ α} {last : Option κ} (h : m.Tracks last)
    (ops : List (Operation κ α)) :
    (ops.foldl Memo.perform m).computed = changes last ops + m.computed := by
  induction ops generalizing m last with
  | nil => exact (Nat.zero_add _).symm
  | cons op rest ih =>
    rw [List.foldl_cons, ih (h.perform op), h.computed_perform op, changes]
    omega

end Equivalence

/-! ## Values that are given again

A request that does not compute is given what is held, and that was computed for an earlier
request.  This is where the run is searched backwards, past operations that change nothing. -/

/-- Of a run, the request for a key after the operations `before` is the latest one that made the
memo compute. -/
structure Latest (ops before : List (Operation κ α)) (key : κ) (value : Unit → α) : Prop where
  computes : Computes before key value
  since : ∃ after, ops = before ++ .get key value :: after ∧ ∀ between k w rest,
    after = between ++ .get k w :: rest → ¬ Computes (before ++ .get key value :: between) k w

/-- It remains the latest one with an operation that does not make the memo compute. -/
theorem Latest.concat {ops before : List (Operation κ α)} {key : κ} {value : Unit → α}
    (h : Latest ops before key value) {op : Operation κ α}
    (hop : ∀ k w, op = .get k w → ¬ Computes ops k w) : Latest (ops ++ [op]) before key value where
  computes := h.computes
  since := by
    obtain ⟨after, rfl, hquiet⟩ := h.since
    refine ⟨after ++ [op], by simp, fun between k w rest hsplit => ?_⟩
    rcases List.eq_nil_or_concat rest with rfl | ⟨rest, last, rfl⟩
    · obtain ⟨rfl, hlast⟩ := List.append_inj' hsplit rfl
      exact hop k w (List.singleton_inj.1 hlast)
    · rw [List.concat_eq_append, ← List.cons_append, ← List.append_assoc] at hsplit
      exact hquiet between k w rest (List.append_inj' hsplit rfl).1

/-- **What a memo holds was computed for the latest request that made it compute.** -/
theorem exists_latest {ops : List (Operation κ α)} {held : κ} {shared : Shared α}
    (h : (performed ops).entry = some (held, shared)) :
    ∃ before key value, Latest ops before key value ∧ shared = given before key value := by
  induction ops using List.reverseRecOn with
  | nil => cases h
  | append_singleton ops op ih =>
    cases op with
    | get key value =>
      by_cases hcomputes : Computes ops key value
      · have hlatest : Latest (ops ++ [.get key value]) ops key value :=
          ⟨hcomputes, [], rfl, by simp⟩
        obtain ⟨_, hentry⟩ := exists_entry_get (performed ops) key value
        rw [performed_concat, perform, hentry] at h
        cases h
        exact ⟨ops, key, value, hlatest, rfl⟩
      · rw [(entry_of_not_computes hcomputes).2] at h
        obtain ⟨before, k, w, hlatest, hshared⟩ := ih h
        refine ⟨before, k, w, hlatest.concat fun i v hop => ?_, hshared⟩
        cases hop
        exact hcomputes
    | isCurrent key =>
      rw [performed_concat] at h
      obtain ⟨before, k, w, hlatest, hshared⟩ := ih h
      exact ⟨before, k, w, hlatest.concat nofun, hshared⟩
    | clear =>
      rw [performed_concat] at h
      cases h

/-- Without requests nothing is computed, and what is held is lost or remains. -/
theorem foldl_perform_of_no_get (m : Memo κ α) {ops : List (Operation κ α)}
    (h : ∀ op ∈ ops, ∀ k w, op ≠ .get k w) :
    (ops.foldl perform m).computed = m.computed ∧
      ∀ e ∈ (ops.foldl perform m).entry, m.entry = some e := by
  induction ops generalizing m with
  | nil => exact ⟨rfl, fun e he => he⟩
  | cons op rest ih =>
    rw [List.forall_mem_cons] at h
    obtain ⟨hcomputed, hentry⟩ := ih (m.perform op) h.2
    cases op with
    | get k w => exact absurd rfl (h.1 k w)
    | isCurrent k => exact ⟨hcomputed, hentry⟩
    | clear => exact ⟨hcomputed, fun e he => absurd (hentry e he) nofun⟩

/-- **A request is given the very value that the request before was given, exactly if it does not
make the memo compute.** -/
theorem serial_given_iff {before after : List (Operation κ α)} {k key : κ} {w value : Unit → α}
    (h : ∀ op ∈ after, ∀ i v, op ≠ .get i v) :
    (given (before ++ .get k w :: after) key value).serial = (given before k w).serial ↔
      ¬ Computes (before ++ .get k w :: after) key value := by
  have hrun : performed (before ++ .get k w :: after) =
      after.foldl perform ((performed before).get k w).2 := performed_append _ _
  obtain ⟨hcomputed, hentry⟩ := foldl_perform_of_no_get ((performed before).get k w).2 h
  rw [← hrun] at hcomputed hentry
  constructor
  · intro hserial hcomputes
    rw [hcomputes.given_eq, hcomputed] at hserial
    exact Nat.ne_of_gt ((numbered_performed before).serial_get_lt k w) hserial
  · intro hcomputes
    obtain ⟨⟨held, hheld⟩, -⟩ := entry_of_not_computes hcomputes
    obtain ⟨held', hheld'⟩ := exists_entry_get (performed before) k w
    have hsame := (hentry _ hheld).symm.trans hheld'
    rw [Option.some.injEq, Prod.mk.injEq] at hsame
    rw [hsame.2, given]

/-- **When a memo computes over a whole run, what it gives and what it says.**  A request makes it
compute exactly if there was no request since the start and since the memo was cleared, or the key
of the latest one was another one.  It is given the value of the latest request that made the memo
compute, and this is the very value given to the request before exactly if it did not do so itself.
A value is held exactly for the keys that are equal to the key of the latest request, if the memo
has not been cleared since.  To ask about that changes nothing.  So the values computed are as many
as the requests whose key is not that of the request before, or that are the first since the start
or since the memo was cleared. -/
theorem run_computes_on_change [EquivBEq κ] (ops : List (Operation κ α)) (key : κ)
    (value : Unit → α) :
    (Computes ops key value ↔
      latestKey? ops = none ∨ ∃ last, latestKey? ops = some last ∧ (last == key) = false) ∧
    (∃ before k w, Latest (ops ++ [.get key value]) before k w ∧
      given ops key value = given before k w ∧ (given ops key value).value = w ()) ∧
    (∀ before k w after, ops = before ++ .get k w :: after →
      (∀ op ∈ after, ∀ i v, op ≠ .get i v) →
        ((given ops key value).serial = (given before k w).serial ↔ ¬ Computes ops key value)) ∧
    ((performed ops).isCurrent key = true ↔
      ∃ last, latestKey? ops = some last ∧ (last == key) = true) ∧
    (∀ later, performed (ops ++ .isCurrent key :: later) = performed (ops ++ later)) ∧
    (performed ops).computed = changes none ops := by
  have hcurrent : (performed ops).isCurrent key = (latestKey? ops).any (· == key) :=
    tracks_performed ops key
  refine ⟨?_, ?_, ?_, ?_, fun later => ?_, tracks_empty.computed_foldl ops⟩
  · rw [computes_iff, hcurrent]
    cases latestKey? ops <;> simp
  · obtain ⟨held, hentry⟩ := exists_entry_get (performed ops) key value
    rw [← perform, ← performed_concat] at hentry
    obtain ⟨before, k, w, hlatest, hgiven⟩ := exists_latest hentry
    exact ⟨before, k, w, hlatest, hgiven,
      (congrArg Shared.value hgiven).trans (congrArg Shared.value hlatest.computes.given_eq)⟩
  · rintro before k w after rfl hquiet
    exact serial_given_iff hquiet
  · rw [hcurrent, Option.any_eq_true]
  · rw [performed_append, performed_append, List.foldl_cons, perform]

/-- Three requests for one key, the last of them after the memo was cleared, and a question about
another key.  Two values have been computed, and one more request for the first key is given the
second of them, while a request for the other key makes the memo compute. -/
theorem run_computes_on_change_after_clear :
    let ops : List (Operation Nat String) :=
      [.get 1 fun _ => "a", .get 1 fun _ => "b", .clear, .get 1 fun _ => "a", .isCurrent 2]
    (latestKey? ops = some 1 ∧ ¬ Computes ops 1 fun _ => "c") ∧
      (given ops 1 fun _ => "c").serial = (given (ops.take 3) 1 fun _ => "a").serial ∧
      (Computes ops 2 fun _ => "c") ∧
      ((performed ops).isCurrent 1 = true ∧ (performed ops).isCurrent 2 = false) ∧
      (performed ops).computed = 2 := by
  intro ops
  obtain ⟨-, -, hserial, hcurrent, -, hcount⟩ := run_computes_on_change ops 1 fun _ => "c"
  obtain ⟨hcomputes, -, -, hcurrent', -⟩ := run_computes_on_change ops 2 fun _ => "c"
  have hkey : latestKey? ops = some 1 := rfl
  have hkept : ¬ Computes ops 1 fun _ => "c" := by decide
  have hother : ¬ ∃ last, latestKey? ops = some last ∧ (last == 2) = true := by
    simp [hkey]
  have hquiet : ∀ op ∈ [Operation.isCurrent 2], ∀ i v, op ≠ (.get i v : Operation Nat String) := by
    simp
  exact ⟨⟨hkey, hkept⟩, (hserial (ops.take 3) 1 (fun _ => "a") [.isCurrent 2] rfl hquiet).2 hkept,
    hcomputes.2 (.inr ⟨1, hkey, rfl⟩),
    ⟨hcurrent.2 ⟨1, hkey, rfl⟩, eq_false_of_ne_true (mt hcurrent'.1 hother)⟩, hcount⟩

end Memo
end QueryRights
