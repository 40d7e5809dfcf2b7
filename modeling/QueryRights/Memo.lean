/-!
# Memos

A memo holds the value for the last key that it was asked about.  Asked again about an equal key
it gives the same value, the very same one; any other key replaces it.

## What is here

* `Shared`: a value that is handed out more than once, with a number that tells it from all other
  values that the same memo computed.
* `Memo`, `Memo.get`, `Memo.isCurrent`, `Memo.clear`.  A memo counts the values it has computed, so
  clearing it does not bring an old number back.
* `get_of_isCurrent` and `get_of_not_isCurrent`: what asking about a key does, in the two cases
  that there are.
-/

set_option autoImplicit false

namespace QueryRights

/-- A value that is handed out more than once. -/
structure Shared (α : Type) where
  /-- Which of the values that a memo computed this is, from zero. -/
  serial : Nat
  value : α

/-- The value for the last key asked about. -/
structure Memo (κ α : Type) where
  entry : Option (κ × Shared α)
  /-- How many values have been computed so far. -/
  computed : Nat

namespace Memo

variable {κ α : Type}

/-- The memo that has not been asked yet. -/
def empty : Memo κ α := ⟨none, 0⟩

/-- Whether a value is held for a key. -/
def isCurrent [BEq κ] (m : Memo κ α) (key : κ) : Bool :=
  match m.entry with
  | some (held, _) => held == key
  | none => false

/-- Computes the value for a key anew. -/
def compute (m : Memo κ α) (key : κ) (value : α) : Shared α × Memo κ α :=
  let shared : Shared α := ⟨m.computed, value⟩
  (shared, ⟨some (key, shared), m.computed + 1⟩)

/-- The value for a key: the one held, if it is held for an equal key, and otherwise the one that
`value` computes. -/
def get [BEq κ] (m : Memo κ α) (key : κ) (value : Unit → α) : Shared α × Memo κ α :=
  match m.entry with
  | some (held, shared) => if held == key then (shared, m) else m.compute key (value ())
  | none => m.compute key (value ())

/-- Forgets the value. -/
def clear (m : Memo κ α) : Memo κ α := { m with entry := none }

/-! ## What is held -/

/-- A value that is held is handed out again, and the memo stays as it is. -/
theorem get_of_isCurrent [BEq κ] {m : Memo κ α} {key : κ} (h : m.isCurrent key = true)
    (value : Unit → α) : (m.get key value).2 = m := by
  unfold isCurrent at h
  unfold get
  split <;> simp_all

/-- A value that is not held is computed. -/
theorem get_of_not_isCurrent [BEq κ] {m : Memo κ α} {key : κ} (h : m.isCurrent key = false)
    (value : Unit → α) : m.get key value = m.compute key (value ()) := by
  unfold isCurrent at h
  unfold get
  split <;> simp_all

/-- A memo that was cleared holds nothing. -/
@[simp] theorem isCurrent_clear [BEq κ] (m : Memo κ α) (key : κ) :
    m.clear.isCurrent key = false := rfl

end Memo
end QueryRights
