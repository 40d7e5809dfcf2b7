import Mathlib.Data.List.DropRight
import QueryRights.Memo

/-!
# Blocks of requests to a memo

A memo is asked for one thing after the other.  Each request has a key, and a value that would be
computed for it; the memo compares nothing but the keys.  So a run of requests falls into *blocks*,
the longest stretches of consecutive requests with equal keys, and all of a block are given the
value that was computed for its first request, whatever the others would have computed.

The difficulty is only one of point of view.  The memo keeps one entry and forgets everything else;
a statement about blocks speaks about all that was asked before.  The two meet in one fact: after a
request the entry is just what was handed out for it, under its key (`entry_get`), whether it was
computed or found.  So a request can look at the request before it in the place of the entry, and
what is handed out becomes a recursion over the run from its end (`handed_concat`).  The start of a
block is defined by the same recursion (`blockStart_concat`), and that the value handed out is the
one of the first request is then one induction.

To speak about *the very same value*, and not just about an equal one, values that are handed out
carry a serial number.  Two requests share a value when the numbers agree, and a request that
starts a block gets a number that was never given before, since all numbers in use are below the
next one (`Numbered`).

A request is left abstract here, with a key and a value for it.  The flags of a query and the
dialog of a query are two instances, and both take over from here what a block is and what it
shares; what the requests of a block have in common besides their key is a question about the
instance.  Keys are compared with `==`, which in this module is equality.  Clearing a memo, and
keys that are compared in some other way, are in `QueryRights.Proofs.Memo.Runs`.

## What is here

* `Memo.handed`: what a memo hands out for a request that follows others, and `Memo.blockStart`:
  the first request of its block.
* `Memo.value_handed`: the value handed out is the one of the first request of the block.
* `Memo.serial_handed_concat`: two consecutive requests get the same shared value exactly when
  their keys are equal.
* `Memo.IsBlock` and `Memo.exists_block`: a block in terms of nothing but the requests, and that
  every run ends with one, whose first request was handed what the last one is handed.
-/

set_option autoImplicit false

namespace QueryRights
namespace Memo

/-! ## One request

What a request leaves behind, found or computed: an entry with what was handed out, and numbers
that are all below the next one. -/

section Get

variable {κ α : Type}

/-- What a memo holds was computed before: its serial number is below the next one. -/
def Numbered (m : Memo κ α) : Prop := ∀ e ∈ m.entry, e.2.serial < m.computed

theorem numbered_empty : (empty : Memo κ α).Numbered := by
  intro e he
  simp [empty] at he

variable [BEq κ] [LawfulBEq κ]

/-- Whatever happened, a memo now holds what it handed out last, under the key asked about. -/
theorem entry_get (m : Memo κ α) (key : κ) (value : Unit → α) :
    (m.get key value).2.entry = some (key, (m.get key value).1) := by
  unfold get
  split
  · rename_i held shared hentry
    split
    · rename_i hkey
      rw [hentry, eq_of_beq hkey]
    · rfl
  · rfl

omit [LawfulBEq κ] in
theorem get_of_entry {m : Memo κ α} {held : κ} {shared : Shared α}
    (h : m.entry = some (held, shared)) (key : κ) (value : Unit → α) :
    m.get key value = if held == key then (shared, m) else m.compute key (value ()) := by
  rw [get, h]

omit [LawfulBEq κ] in
/-- The serial number handed out is below the next one, too. -/
theorem Numbered.serial_get_lt {m : Memo κ α} (h : m.Numbered) (key : κ) (value : Unit → α) :
    (m.get key value).1.serial < (m.get key value).2.computed := by
  unfold get
  split
  · rename_i held shared hentry
    split
    · exact h _ hentry
    · exact Nat.lt_succ_self _
  · exact Nat.lt_succ_self _

omit [LawfulBEq κ] in
/-- However keys are compared, a memo now holds what it handed out last. -/
theorem exists_entry_get (m : Memo κ α) (key : κ) (value : Unit → α) :
    ∃ held, (m.get key value).2.entry = some (held, (m.get key value).1) := by
  unfold get
  split
  · rename_i held shared hentry
    split
    · exact ⟨held, hentry⟩
    · exact ⟨key, rfl⟩
  · exact ⟨key, rfl⟩

omit [LawfulBEq κ] in
theorem Numbered.get {m : Memo κ α} (h : m.Numbered) (key : κ) (value : Unit → α) :
    (m.get key value).2.Numbered := by
  intro e he
  obtain ⟨held, hentry⟩ := exists_entry_get m key value
  rw [hentry, Option.mem_some_iff] at he
  subst he
  exact h.serial_get_lt key value

end Get

/-! ## Runs

The memo after some requests.  Runs grow at their end here, so that the memo before the last
request is again the memo after a run. -/

variable {ρ κ α : Type} [BEq κ] (key : ρ → κ) (value : ρ → α)

/-- Asks a memo for what a request wants. -/
def ask (m : Memo κ α) (r : ρ) : Shared α × Memo κ α := m.get (key r) fun _ => value r

/-- The memo after some requests, the first of them first. -/
def asked (requests : List ρ) : Memo κ α :=
  requests.foldl (fun m r => (ask key value m r).2) empty

/-- What is handed out for a request that follows others. -/
def handed (earlier : List ρ) (r : ρ) : Shared α := (ask key value (asked key value earlier) r).1

/-- The first request of the block that ends with a request: of the longest stretch of consecutive
requests with its key. -/
def blockStart (earlier : List ρ) (r : ρ) : ρ :=
  (earlier.rtakeWhile fun p => key p == key r).headD r

theorem asked_concat (requests : List ρ) (r : ρ) :
    asked key value (requests ++ [r]) = (ask key value (asked key value requests) r).2 := by
  simp [asked]

variable [LawfulBEq κ]

/-- After a request the memo holds what was handed out for it. -/
theorem entry_asked_concat (requests : List ρ) (r : ρ) :
    (asked key value (requests ++ [r])).entry = some (key r, handed key value requests r) := by
  rw [asked_concat]
  exact entry_get _ _ _

omit [LawfulBEq κ] in
theorem numbered_asked (requests : List ρ) : (asked key value requests).Numbered := by
  induction requests using List.reverseRecOn with
  | nil => exact numbered_empty
  | append_singleton requests r ih =>
    rw [asked_concat]
    exact ih.get _ _

/-! ## What is handed out

Two recursions over a run from its end, one for what the memo hands out and one for where the block
starts.  They branch on the same condition, the key of the request before. -/

/-- A request is given what the one before was given, or a value of its own. -/
theorem handed_concat (requests : List ρ) (p r : ρ) :
    handed key value (requests ++ [p]) r =
      if key p == key r then handed key value requests p
      else ⟨(asked key value (requests ++ [p])).computed, value r⟩ := by
  rw [handed, ask, get_of_entry (entry_asked_concat key value requests p)]
  split
  · rfl
  · rfl

/-- A request is in the block of the one before, or starts a block. -/
theorem blockStart_concat (requests : List ρ) (p r : ρ) :
    blockStart key (requests ++ [p]) r =
      if key p == key r then blockStart key requests p else r := by
  rw [blockStart, List.rtakeWhile_concat]
  split
  · rename_i h
    rw [← eq_of_beq h]
    simp [blockStart, List.headD_eq_head?_getD, List.head?_append]
  · rfl

/-- The first request of a block has the key of all of them. -/
theorem key_blockStart (requests : List ρ) (r : ρ) : key (blockStart key requests r) = key r := by
  induction requests using List.reverseRecOn generalizing r with
  | nil => rfl
  | append_singleton requests p ih =>
    rw [blockStart_concat]
    split
    · rename_i h
      rw [ih, eq_of_beq h]
    · rfl

/-- A request whose key is not that of the one before starts a block. -/
theorem blockStart_eq_self {requests : List ρ} {r : ρ}
    (h : ∀ p ∈ requests.getLast?, key p ≠ key r) : blockStart key requests r = r := by
  induction requests using List.reverseRecOn with
  | nil => rfl
  | append_singleton requests p _ =>
    rw [blockStart_concat, if_neg]
    exact fun hkey => h p (by simp) (eq_of_beq hkey)

/-- **The value handed out is the one of the first request of the block.** -/
theorem value_handed (requests : List ρ) (r : ρ) :
    (handed key value requests r).value = value (blockStart key requests r) := by
  induction requests using List.reverseRecOn generalizing r with
  | nil => rfl
  | append_singleton requests p ih =>
    rw [handed_concat, blockStart_concat]
    split
    · exact ih p
    · rfl

/-- **Two consecutive requests get the same shared value exactly when their keys are equal.** -/
theorem serial_handed_concat (requests : List ρ) (p r : ρ) :
    (handed key value (requests ++ [p]) r).serial = (handed key value requests p).serial ↔
      key p = key r := by
  have hlt : (handed key value requests p).serial < (asked key value (requests ++ [p])).computed :=
    numbered_asked key value (requests ++ [p]) _ (entry_asked_concat key value requests p)
  by_cases h : key p = key r
  · rw [handed_concat, if_pos (beq_iff_eq.2 h)]
    exact ⟨fun _ => h, fun _ => rfl⟩
  · rw [handed_concat, if_neg (mt eq_of_beq h)]
    exact ⟨fun heq => absurd heq (Nat.ne_of_gt hlt), fun hkey => absurd hkey h⟩

/-! ## Blocks as parts of a run

So far the start of a block is what a function computes.  Here a block is a part of the run, with
what makes it one said in so many words, and a run is cut at the start of its last block. -/

omit [BEq κ] [LawfulBEq κ] in
/-- Requests are a block, from the first to the last of the rest: they have one key, and the request
before them, if there is one, has another. -/
structure IsBlock (key : ρ → κ) (before : List ρ) (first : ρ) (rest : List ρ) : Prop where
  alike : ∀ p ∈ rest, key p = key first
  longest : ∀ p ∈ before.getLast?, key p ≠ key first

omit [BEq κ] [LawfulBEq κ] in
/-- A request with the key of the block before it belongs to that block. -/
theorem IsBlock.concat {key : ρ → κ} {before rest : List ρ} {first r : ρ}
    (h : IsBlock key before first rest) (hr : key r = key first) :
    IsBlock key before first (rest ++ [r]) where
  alike := by
    intro p hp
    rcases List.mem_append.1 hp with hp | hp
    · exact h.alike p hp
    · rw [List.mem_singleton.1 hp, hr]
  longest := h.longest

/-- **Every run ends with a block, and the last request of a block is handed the very value that was
computed for the first.** -/
theorem exists_block (requests : List ρ) (r : ρ) :
    ∃ before first rest, requests ++ [r] = before ++ first :: rest ∧
      IsBlock key before first rest ∧ key first = key r ∧
      handed key value requests r = handed key value before first ∧
      (handed key value before first).value = value first := by
  have hcomputed : ∀ before first, (∀ p ∈ before.getLast?, key p ≠ key first) →
      (handed key value before first).value = value first := by
    intro before first hlongest
    rw [value_handed, blockStart_eq_self key hlongest]
  induction requests using List.reverseRecOn generalizing r with
  | nil => exact ⟨[], r, [], rfl, ⟨nofun, nofun⟩, rfl, rfl, hcomputed [] r nofun⟩
  | append_singleton requests p ih =>
    rw [handed_concat]
    by_cases h : key p = key r
    · obtain ⟨before, first, rest, hrun, hblock, hkey, hsame, hvalue⟩ := ih p
      rw [if_pos (beq_iff_eq.2 h)]
      refine ⟨before, first, rest ++ [r], ?_, hblock.concat (h ▸ hkey.symm), h ▸ hkey, hsame,
        hvalue⟩
      rw [hrun, List.append_assoc, List.cons_append]
    · have hlongest : ∀ q ∈ (requests ++ [p]).getLast?, key q ≠ key r := by
        intro q hq
        rw [List.getLast?_concat, Option.mem_some_iff] at hq
        exact hq ▸ h
      refine ⟨requests ++ [p], r, [], rfl, ⟨nofun, hlongest⟩, rfl, ?_, hcomputed _ r hlongest⟩
      rw [handed_concat]

end Memo
end QueryRights
