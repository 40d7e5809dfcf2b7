/-!
# The order of texts, and of keys in general

Whatever this library writes in sorted order (the names of a permission set, the members of a
kept JSON object, the groups of a data source) is sorted by one rule for each kind of key.

## What is here

* `KeyOrder`: a strict linear order given as a test, with the three laws that make a sorted list
  without repetitions the only such list of its members.
* `Text.before`: the order of texts, by code point, a text coming after each of its beginnings.
  This is also the order of their UTF-8 bytes.
* The instances for `String` and for `Int64`.
-/

set_option autoImplicit false

namespace QueryRights

/-- A strict linear order on keys, as a test. -/
class KeyOrder (κ : Type) where
  /-- Whether the first key comes strictly before the second. -/
  before : κ → κ → Bool
  before_irrefl : ∀ a, before a a = false
  before_trans : ∀ a b c, before a b = true → before b c = true → before a c = true
  eq_of_unordered : ∀ a b, before a b = false → before b a = false → a = b

namespace KeyOrder

variable {κ : Type} [KeyOrder κ]

theorem before_asymm {a b : κ} (h : before a b = true) : before b a = false := by
  cases hba : before b a with
  | false => rfl
  | true =>
    have := before_trans a b a h hba
    rw [before_irrefl] at this
    exact absurd this (by decide)

theorem ne_of_before {a b : κ} (h : before a b = true) : a ≠ b := by
  rintro rfl
  rw [before_irrefl] at h
  exact absurd h (by decide)

end KeyOrder

namespace Text

/-- Whether the first text comes strictly before the second, by code point. -/
def before : List Char → List Char → Bool
  | _, [] => false
  | [], _ :: _ => true
  | c :: s, d :: t => Nat.blt c.toNat d.toNat || (Nat.beq c.toNat d.toNat && before s t)

private theorem before_cons {c d : Char} {s t : List Char} :
    before (c :: s) (d :: t) = true ↔
      c.toNat < d.toNat ∨ (c.toNat = d.toNat ∧ before s t = true) := by
  simp only [before, Bool.or_eq_true, Bool.and_eq_true]
  exact or_congr (by rw [Nat.blt_eq]) (and_congr (by rw [Nat.beq_eq]) Iff.rfl)

theorem before_irrefl (s : List Char) : before s s = false := by
  induction s with
  | nil => rfl
  | cons c s ih =>
    cases h : before (c :: s) (c :: s) with
    | false => rfl
    | true =>
      rcases before_cons.1 h with h | ⟨_, h⟩
      · exact absurd h (Nat.lt_irrefl _)
      · rw [ih] at h; exact absurd h (by decide)

theorem before_trans (s t u : List Char) (h₁ : before s t = true) (h₂ : before t u = true) :
    before s u = true := by
  induction s generalizing t u with
  | nil =>
    cases u with
    | nil => cases t <;> simp [before] at h₂
    | cons e u => rfl
  | cons c s ih =>
    cases t with
    | nil => simp [before] at h₁
    | cons d t =>
      cases u with
      | nil => simp [before] at h₂
      | cons e u =>
        rw [before_cons] at h₁ h₂ ⊢
        rcases h₁ with h₁ | ⟨e₁, h₁⟩ <;> rcases h₂ with h₂ | ⟨e₂, h₂⟩
        · exact .inl (by omega)
        · exact .inl (by omega)
        · exact .inl (by omega)
        · exact .inr ⟨by omega, ih t u h₁ h₂⟩

theorem eq_of_unordered (s t : List Char) (h₁ : before s t = false) (h₂ : before t s = false) :
    s = t := by
  induction s generalizing t with
  | nil =>
    cases t with
    | nil => rfl
    | cons d t => simp [before] at h₁
  | cons c s ih =>
    cases t with
    | nil => simp [before] at h₂
    | cons d t =>
      have n₁ : ¬ before (c :: s) (d :: t) = true := by rw [h₁]; decide
      have n₂ : ¬ before (d :: t) (c :: s) = true := by rw [h₂]; decide
      rw [before_cons] at n₁ n₂
      have hcd : c.toNat = d.toNat := by omega
      have hst : s = t := by
        refine ih t ?_ ?_
        · cases h : before s t with
          | false => rfl
          | true => exact absurd (.inr ⟨hcd, h⟩) n₁
        · cases h : before t s with
          | false => rfl
          | true => exact absurd (.inr ⟨hcd.symm, h⟩) n₂
      rw [hst, Char.toNat_inj.1 hcd]

end Text

/-- Texts are ordered by code point. -/
instance : KeyOrder String where
  before a b := Text.before a.toList b.toList
  before_irrefl a := Text.before_irrefl a.toList
  before_trans a b c := Text.before_trans a.toList b.toList c.toList
  eq_of_unordered _ _ h₁ h₂ := String.toList_inj.1 (Text.eq_of_unordered _ _ h₁ h₂)

/-- Signed words are ordered by their value. -/
instance : KeyOrder Int64 where
  before a b := decide (a.toInt < b.toInt)
  before_irrefl a := by simp
  before_trans a b c h₁ h₂ := by simp only [decide_eq_true_eq] at *; omega
  eq_of_unordered _ _ h₁ h₂ := by
    simp only [decide_eq_false_iff_not] at h₁ h₂
    exact Int64.toInt_inj.1 (by omega)

end QueryRights
