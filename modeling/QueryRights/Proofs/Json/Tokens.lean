import QueryRights.Json.Reader
import QueryRights.Json.Writer

/-!
# Strings and numbers read back

A string is written with an escape for every character that needs one, and reading it takes the
same characters off again.  A number is written in decimal; integers of 64 bits are read back as
they are, while for a double this is a property of the number (`Number.ReadsBack`), since decimals
are not read with correct rounding.

Strings and numbers are the only tokens of a text that have parts.  A string is read character by
character, and there are three ways to write one: as itself, as a backslash and a letter, or as
four hexadecimal digits.  `Piece.Writes` has a case for each, and each case carries what the reader
needs to know.  So the writer's long list of special characters is gone through once, in
`exists_writes`; after that, reading a string is an induction with three cases.  The reader also
marks a string in which all characters stand for themselves, since group ids are only recognized in
such strings.  That mark is read back too.

A string ends with a mark of its own, but a number ends where something else begins.  Whatever is
read of a number is therefore read in the same way with more text behind it, as long as that text
does not begin with what a number could go on with.  The scanner has a function for each part of a
number, and for each of them this is one lemma (`scanWhole_append`, `scanFraction_append` and so
on).

Integers are written by their digits.  Those begin with no zero, unless the number is zero, so they
are the whole part of a numeral, and the value of the digits is the number.  With 64 bits it is
also kept as an integer.  A larger integer would be read as a double; none is ever written, which
is proved elsewhere.

## What is here

* `Piece.Writes`: how one character is written, and `Piece.scanString_written`: **a written string
  is read back**.
* `Numeral.Closed` and `Numeral.scan_append`: what may follow a number without becoming part of it.
* `Number.ReadsBack`, `Number.Fits` and `Number.readsBack_integer`: **integers of 64 bits are read
  back**.
-/

set_option autoImplicit false

namespace QueryRights

/-! ## Digits

Digits and their values, for the integers of this module and for the dates of the calendar. -/

namespace Text

theorem digitValue?_digitChar :
    ∀ base ≤ 16, ∀ n < base, digitValue? base (Nat.digitChar n) = some n := by decide

theorem isDigit_of_mem_toDigits {n : Nat} {c : Char} (h : c ∈ Nat.toDigits 10 n) :
    isDigit c = true := by
  have hdigit : c.isDigit = true := Nat.isDigit_of_mem_toDigits (by decide) (by decide) h
  rw [Char.isDigit_iff_toNat] at hdigit
  rw [isDigit, Bool.and_eq_true, Nat.ble_eq, Nat.ble_eq]
  exact hdigit

theorem valueFrom_append (base acc : Nat) (xs ys : List Char) :
    valueFrom base acc (xs ++ ys) = valueFrom base (valueFrom base acc xs) ys := by
  induction xs generalizing acc with
  | nil => rfl
  | cons c xs ih => exact ih _

theorem valueOf_toDigits (n : Nat) : valueOf (Nat.toDigits 10 n) = n := by
  induction n using Nat.strongRecOn with
  | ind n ih =>
    by_cases hn : n < 10
    · rw [Nat.toDigits_of_lt_base hn, valueOf, valueFrom,
        digitValue?_digitChar 10 (by decide) n hn]
      exact Nat.zero_add n
    · have hlast := digitValue?_digitChar 10 (by decide) (n % 10) (Nat.mod_lt n (by decide))
      have hfront : valueFrom 10 0 (Nat.toDigits 10 (n / 10)) = n / 10 := ih (n / 10) (by omega)
      rw [Nat.toDigits_of_base_le (by decide) (by omega), valueOf, valueFrom_append, hfront,
        valueFrom, hlast]
      exact Nat.div_add_mod' n 10

/-- The digits of a number do not begin with zero, unless the number is zero. -/
theorem toDigits_eq_cons {n : Nat} (h : 0 < n) :
    ∃ c ds, Nat.toDigits 10 n = c :: ds ∧ c ≠ '0' := by
  have hdigit : ∀ n < 10, 0 < n → Nat.digitChar n ≠ '0' := by decide
  induction n using Nat.strongRecOn with
  | ind n ih =>
    by_cases hn : n < 10
    · exact ⟨_, [], Nat.toDigits_of_lt_base hn, hdigit n hn h⟩
    · obtain ⟨c, ds, hfront, hc⟩ := ih (n / 10) (by omega) (by omega)
      refine ⟨c, ds ++ [Nat.digitChar (n % 10)], ?_, hc⟩
      rw [Nat.toDigits_of_base_le (by decide) (by omega), hfront, List.cons_append]

end Text

/-! ## Strings

How a character is written, how that is read, and what it denotes: three lemmas with the same three
cases, and one induction over the characters of a string. -/

theorem Quoted.escapes_eq_false_iff {c : Char} :
    escapes c = false ↔ c ≠ '"' ∧ c ≠ '\\' ∧ ¬ c.toNat < 0x20 := by
  rw [escapes, Bool.or_eq_false_iff, Bool.or_eq_false_iff, beq_eq_false_iff_ne,
    beq_eq_false_iff_ne, and_assoc, ← Bool.not_eq_true, Nat.blt_eq]

namespace Piece

/-- How a character is written in a string, and the piece that this is read as. -/
inductive Writes (c : Char) : List Char → Piece → Prop where
  | letter {l : Char} (notUnit : l ≠ 'u') (stands : ofLetter? l = some c)
      (escapes : Quoted.escapes c = true) : Writes c ['\\', l] (.escaped c)
  | unit (control : c.toNat < 0x20) :
      Writes c ['\\', 'u', '0', '0', Nat.digitChar (c.toNat / 16), Nat.digitChar (c.toNat % 16)]
        (.unit c.toNat)
  | plain (itself : Quoted.escapes c = false) : Writes c [c] (.plain c)

theorem exists_writes (c : Char) : ∃ p, Writes c (Value.writtenChar c) p := by
  rw [Value.writtenChar]
  split
  · rename_i hc
    subst hc
    exact ⟨_, .letter (by decide) (by decide) (by decide)⟩
  split
  · rename_i hc
    subst hc
    exact ⟨_, .letter (by decide) (by decide) (by decide)⟩
  split
  · rename_i hc
    obtain rfl : c = Char.ofNat 0x8 := Char.toNat_inj.1 hc
    exact ⟨_, .letter (by decide) (by decide) (by decide)⟩
  split
  · rename_i hc
    obtain rfl : c = Char.ofNat 0xc := Char.toNat_inj.1 hc
    exact ⟨_, .letter (by decide) (by decide) (by decide)⟩
  split
  · rename_i hc
    subst hc
    exact ⟨_, .letter (by decide) (by decide) (by decide)⟩
  split
  · rename_i hc
    subst hc
    exact ⟨_, .letter (by decide) (by decide) (by decide)⟩
  split
  · rename_i hc
    subst hc
    exact ⟨_, .letter (by decide) (by decide) (by decide)⟩
  split
  · rename_i hc
    exact ⟨_, .unit hc⟩
  · rename_i hquote hbackslash _ _ _ _ _ hcontrol
    exact ⟨_, .plain (Quoted.escapes_eq_false_iff.2 ⟨hquote, hbackslash, hcontrol⟩)⟩

theorem ofHex?_written {n : Nat} (h : n < 0x20) :
    ofHex? '0' '0' (Nat.digitChar (n / 16)) (Nat.digitChar (n % 16)) = some n := by
  have hhigh := Text.digitValue?_digitChar 16 (by decide) (n / 16) (by omega)
  have hlow := Text.digitValue?_digitChar 16 (by decide) (n % 16) (by omega)
  have hzero : Text.digitValue? 16 '0' = some 0 := by decide
  rw [ofHex?, hhigh, hlow, hzero]
  simp only [Option.bind_eq_bind, Option.bind_some, Option.pure_def, Option.some.injEq]
  omega

/-- One written character is read as its piece. -/
theorem Writes.scanString {c : Char} {cs : List Char} {p : Piece} (h : Writes c cs p)
    (s : List Symbol) :
    scanString (cs.map .char ++ s) = (scanString s).map fun q => (p :: q.1, q.2) := by
  cases h with
  | @letter l hunit hstands _ =>
    show Piece.scanString (.char '\\' :: .char l :: s) = _
    rw [Piece.scanString]
    · rw [hstands]
      cases Piece.scanString s <;> rfl
    · exact fun _ _ _ _ _ _ hl => hunit hl
  | unit hcontrol =>
    show Piece.scanString (.char '\\' :: .char 'u' :: .char '0' :: .char '0' :: .char _ ::
      .char _ :: s) = _
    rw [Piece.scanString, ofHex?_written hcontrol]
    cases Piece.scanString s <;> rfl
  | plain hitself =>
    obtain ⟨hquote, hbackslash, hcontrol⟩ := Quoted.escapes_eq_false_iff.1 hitself
    show Piece.scanString (.char c :: s) = _
    rw [Piece.scanString]
    · rw [if_neg (by simp [hbackslash, hcontrol])]
      cases Piece.scanString s <;> rfl
    · exact hquote
    · exact fun _ _ _ _ _ _ hc => hbackslash hc
    · exact fun _ _ _ hc => hbackslash hc

/-- The piece of a character denotes the character. -/
theorem Writes.textOf? {c : Char} {cs : List Char} {p : Piece} (h : Writes c cs p)
    (ps : List Piece) : textOf? (p :: ps) = (textOf? ps).map (c :: ·) := by
  cases h with
  | letter _ _ _ => rfl
  | plain _ => rfl
  | unit hcontrol =>
    have hnot : ∀ n, 0x20 ≤ n → Nat.ble n c.toNat = false := fun n hn => by
      rw [← Bool.not_eq_true, Nat.ble_eq]
      omega
    have hhigh : isHigh c.toNat = false := by rw [isHigh, hnot _ (by decide), Bool.false_and]
    have hlow : isLow c.toNat = false := by rw [isLow, hnot _ (by decide), Bool.false_and]
    rw [Piece.textOf?.eq_def]
    simp only [hhigh, hlow, Bool.false_eq_true, if_false, Char.ofNat_toNat]

theorem Writes.isPlain {c : Char} {cs : List Char} {p : Piece} (h : Writes c cs p) :
    p.isPlain = !Quoted.escapes c := by
  cases h with
  | letter _ _ hescapes => rw [hescapes]; rfl
  | plain hitself => rw [hitself]; rfl
  | unit hcontrol =>
    have hescapes : Quoted.escapes c = true := by simp [Quoted.escapes, hcontrol]
    rw [hescapes]
    rfl

/-- **A written string is read back.** -/
theorem scanString_written (cs : List Char) (rest : List Symbol) :
    ∃ ps, scanString ((cs.flatMap Value.writtenChar).map .char ++ .char '"' :: rest) =
        some (ps, rest) ∧
      textOf? ps = some cs ∧ ps.all Piece.isPlain = cs.all fun c => !Quoted.escapes c := by
  induction cs with
  | nil => exact ⟨[], rfl, rfl, rfl⟩
  | cons c cs ih =>
    obtain ⟨ps, hscan, htext, hplain⟩ := ih
    obtain ⟨p, hp⟩ := exists_writes c
    refine ⟨p :: ps, ?_, ?_, ?_⟩
    · rw [List.flatMap_cons, List.map_append, List.append_assoc, hp.scanString, hscan]
      rfl
    · rw [hp.textOf?, htext]
      rfl
    · rw [List.all_cons, List.all_cons, hp.isPlain, hplain]

end Piece

/-- A written string is read back as it was, marks included. -/
theorem Json.readString_written (s : String) (rest : List Symbol) :
    readString (Symbol.ofText (Value.writtenString s) ++ rest) = some (.ofText s, rest) := by
  obtain ⟨ps, hscan, htext, hplain⟩ := Piece.scanString_written s.toList rest
  have hsymbols : Symbol.ofText (Value.writtenString s) ++ rest =
      .char '"' :: ((s.toList.flatMap Value.writtenChar).map .char ++ .char '"' :: rest) := by
    simp [Symbol.ofText, Value.writtenString]
  rw [hsymbols, readString, hscan]
  simp [Piece.quoted, Quoted.ofText, htext, hplain]

/-! ## Numbers

One lemma for each function of the scanner, in the order in which it calls them: the digits, the
whole part, the fraction, the exponent, and the numeral. -/

namespace Numeral

/-- What may follow a number without becoming part of it. -/
def Closed (rest : List Symbol) : Prop :=
  ∀ c s, rest = .char c :: s →
    Text.isDigit c = false ∧ c ≠ '.' ∧ c ≠ 'e' ∧ c ≠ 'E'

theorem closed_nil : Closed [] := fun _ _ h => by cases h

theorem closed_cons {c : Char} (h : Text.isDigit c = false ∧ c ≠ '.' ∧ c ≠ 'e' ∧ c ≠ 'E')
    (s : List Symbol) : Closed (.char c :: s) := by
  intro d t hs
  cases hs
  exact h

theorem digits_append (s : List Symbol) {rest : List Symbol} (hrest : Closed rest) :
    digits (s ++ rest) = ((digits s).1, (digits s).2 ++ rest) := by
  induction s with
  | nil =>
    cases rest with
    | nil => rfl
    | cons x rest =>
      cases x with
      | stray b => rfl
      | char c =>
        rw [List.nil_append, digits, (hrest c rest rfl).1]
        rfl
  | cons x s ih =>
    cases x with
    | stray b => rfl
    | char c =>
      rw [List.cons_append, digits, digits, ih]
      cases Text.isDigit c <;> rfl

theorem scanWhole_append {s t : List Symbol} {ds : List Char} {rest : List Symbol}
    (hrest : Closed rest) (h : scanWhole s = some (ds, t)) :
    scanWhole (s ++ rest) = some (ds, t ++ rest) := by
  rw [scanWhole] at h ⊢
  rw [digits_append s hrest]
  generalize digits s = p at h ⊢
  obtain ⟨_ | ⟨c, _ | ⟨d, ds⟩⟩, u⟩ := p
  · cases h
  · cases h
    rfl
  · simp only at h ⊢
    split at h
    · cases h
    · rename_i hc
      cases h
      rw [if_neg hc]

theorem scanFraction_of_ne {s : List Symbol} (h : ∀ t, s ≠ .char '.' :: t) :
    scanFraction s = some (none, s) := by
  unfold scanFraction
  split
  · exact absurd rfl (h _)
  · rfl

theorem scanFraction_append {s t : List Symbol} {ds : Option (List Char)} {rest : List Symbol}
    (hrest : Closed rest) (h : scanFraction s = some (ds, t)) :
    scanFraction (s ++ rest) = some (ds, t ++ rest) := by
  -- without a point nothing is taken, also if `s` is empty: `rest` does not begin with one
  by_cases hpoint : ∃ u, s = .char '.' :: u
  · obtain ⟨u, rfl⟩ := hpoint
    rw [scanFraction] at h
    rw [List.cons_append, scanFraction, digits_append u hrest]
    generalize digits u = p at h ⊢
    obtain ⟨_ | ⟨c, ds⟩, v⟩ := p
    · cases h
    · cases h
      rfl
  · have hs : ∀ u, s ≠ .char '.' :: u := fun u hu => hpoint ⟨u, hu⟩
    rw [scanFraction_of_ne hs] at h
    cases h
    refine scanFraction_of_ne fun u hu => ?_
    cases s with
    | nil => exact (hrest _ _ hu).2.1 rfl
    | cons x s => exact hs s (by rw [(List.cons.inj hu).1])

theorem scanExponentDigits_append {negative : Bool} {s t : List Symbol} {e : Option Int}
    {rest : List Symbol} (hrest : Closed rest) (h : scanExponentDigits negative s = some (e, t)) :
    scanExponentDigits negative (s ++ rest) = some (e, t ++ rest) := by
  rw [scanExponentDigits] at h ⊢
  rw [digits_append s hrest]
  generalize digits s = p at h ⊢
  obtain ⟨_ | ⟨c, ds⟩, u⟩ := p
  · cases h
  · cases h
    rfl

theorem scanExponent_of_ne {s : List Symbol}
    (h : ∀ c t, s = .char c :: t → c ≠ 'e' ∧ c ≠ 'E') : scanExponent s = some (none, s) := by
  unfold scanExponent
  split
  · rename_i c t
    obtain ⟨he, hE⟩ := h c t rfl
    rw [if_neg (by simp [he, hE])]
  · rfl

theorem scanExponent_append {s t : List Symbol} {e : Option Int} {rest : List Symbol}
    (hrest : Closed rest) (h : scanExponent s = some (e, t)) :
    scanExponent (s ++ rest) = some (e, t ++ rest) := by
  by_cases hmark : ∃ c u, s = .char c :: u ∧ (c = 'e' ∨ c = 'E')
  · obtain ⟨c, u, rfl, hc⟩ := hmark
    unfold scanExponent at h ⊢
    simp only [List.cons_append, if_pos hc] at h ⊢
    split at h
    · exact scanExponentDigits_append hrest h
    · exact scanExponentDigits_append hrest h
    · rename_i hplus hminus
      -- the mark alone is no exponent, so what follows it is part of the text and not of `rest`
      have hu : u ≠ [] := by
        rintro rfl
        cases h
      obtain ⟨x, u, rfl⟩ := List.exists_cons_of_ne_nil hu
      split
      · rename_i hx
        exact absurd (by rw [(List.cons.inj hx).1]) (hplus u)
      · rename_i hx
        exact absurd (by rw [(List.cons.inj hx).1]) (hminus u)
      · exact scanExponentDigits_append hrest h
  · have hs : ∀ c u, s = .char c :: u → c ≠ 'e' ∧ c ≠ 'E' := fun c u hu =>
      ⟨fun hc => hmark ⟨c, u, hu, .inl hc⟩, fun hc => hmark ⟨c, u, hu, .inr hc⟩⟩
    rw [scanExponent_of_ne hs] at h
    cases h
    refine scanExponent_of_ne fun c u hu => ?_
    cases s with
    | nil => exact (hrest c u hu).2.2
    | cons x s => exact hs c s (by rw [(List.cons.inj hu).1])

/-- A number begins with a sign or a digit. -/
theorem head_of_scan {s t : List Symbol} {n : Numeral} (h : scan s = some (n, t)) :
    ∃ c u, s = .char c :: u ∧ (c = '-' ∨ Text.isDigit c = true) := by
  have hdigits : ∀ s : List Symbol, (∃ c u, s = .char c :: u ∧ Text.isDigit c = true) ∨
      scanWhole s = none := by
    intro s
    match s with
    | [] => exact .inr rfl
    | .stray b :: u => exact .inr rfl
    | .char c :: u =>
      cases hc : Text.isDigit c with
      | true => exact .inl ⟨c, u, rfl, hc⟩
      | false => exact .inr (by rw [scanWhole, digits, hc]; rfl)
  by_cases hminus : ∃ u, s = .char '-' :: u
  · obtain ⟨u, rfl⟩ := hminus
    exact ⟨'-', u, rfl, .inl rfl⟩
  · have hsign : scanSign s = (false, s) := by
      rw [scanSign]
      exact fun u hu => hminus ⟨u, hu⟩
    rcases hdigits s with ⟨c, u, rfl, hc⟩ | hnone
    · exact ⟨c, u, rfl, .inr hc⟩
    · rw [scan, hsign] at h
      simp [hnone] at h

/-- A number is read in the same way if something follows that cannot become part of it. -/
theorem scan_append {s t : List Symbol} {n : Numeral} {rest : List Symbol}
    (hrest : Closed rest) (h : scan s = some (n, t)) : scan (s ++ rest) = some (n, t ++ rest) := by
  have hsign : scanSign (s ++ rest) = ((scanSign s).1, (scanSign s).2 ++ rest) := by
    obtain ⟨c, u, rfl, -⟩ := head_of_scan h
    by_cases hc : c = '-'
    · rw [hc]
      rfl
    · have hplain : ∀ u, scanSign (.char c :: u) = (false, .char c :: u) := fun u => by
        rw [scanSign]
        exact fun v hv => hc (Symbol.char.inj (List.cons.inj hv).1)
      rw [List.cons_append, hplain, hplain]
      rfl
  rw [scan] at h ⊢
  rw [hsign]
  obtain ⟨⟨whole, u⟩, hwhole, h⟩ := Option.bind_eq_some_iff.1 h
  obtain ⟨⟨fraction, v⟩, hfraction, h⟩ := Option.bind_eq_some_iff.1 h
  obtain ⟨⟨exponent, w⟩, hexponent, h⟩ := Option.bind_eq_some_iff.1 h
  cases h
  refine Option.bind_eq_some_iff.2 ⟨_, scanWhole_append hrest hwhole, ?_⟩
  refine Option.bind_eq_some_iff.2 ⟨_, scanFraction_append hrest hfraction, ?_⟩
  exact Option.bind_eq_some_iff.2 ⟨_, scanExponent_append hrest hexponent, rfl⟩

end Numeral

/-! ## Integers

The digits of an integer are a numeral without fraction and exponent, and it denotes the integer. -/

namespace Numeral

theorem digits_of_forall {ds : List Char} (h : ∀ c ∈ ds, Text.isDigit c = true) :
    digits (ds.map .char) = (ds, []) := by
  induction ds with
  | nil => rfl
  | cons c ds ih =>
    obtain ⟨hc, hds⟩ := List.forall_mem_cons.1 h
    rw [List.map_cons, digits, hc, ih hds]
    rfl

/-- The digits of a natural number are the whole part of a numeral. -/
theorem scanWhole_toDigits (n : Nat) :
    scanWhole ((Nat.toDigits 10 n).map .char) = some (Nat.toDigits 10 n, []) := by
  rw [scanWhole, digits_of_forall fun c => Text.isDigit_of_mem_toDigits]
  rcases Nat.eq_zero_or_pos n with rfl | hn
  · rfl
  · obtain ⟨c, ds, hds, hc⟩ := Text.toDigits_eq_cons hn
    rw [hds]
    cases ds with
    | nil => rfl
    | cons d ds =>
      show (if c = '0' then none else some (c :: d :: ds, [])) = some (c :: d :: ds, [])
      rw [if_neg hc]

theorem scanSign_toDigits (n : Nat) :
    scanSign ((Nat.toDigits 10 n).map .char) = (false, (Nat.toDigits 10 n).map .char) := by
  rw [scanSign]
  intro s hs
  obtain ⟨c, ds, hds, hc, -⟩ := List.map_eq_cons_iff.1 hs
  have hdigit : Text.isDigit c = true :=
    Text.isDigit_of_mem_toDigits (hds ▸ List.mem_cons_self)
  rw [Symbol.char.inj hc] at hdigit
  exact absurd hdigit (by decide)

/-- The digits of a natural number, with a sign or without, are a numeral. -/
theorem scan_toDigits (negative : Bool) (n : Nat) :
    scan ((if negative then [.char '-'] else []) ++ (Nat.toDigits 10 n).map .char) =
      some (⟨negative, Nat.toDigits 10 n, none, none⟩, []) := by
  have hsign : scanSign ((if negative then [.char '-'] else []) ++
      (Nat.toDigits 10 n).map .char) = (negative, (Nat.toDigits 10 n).map .char) := by
    cases negative with
    | false => exact scanSign_toDigits n
    | true => rfl
  rw [scan, hsign]
  simp only [scanWhole_toDigits]
  rfl

end Numeral

namespace Number

/-- A number whose text is read as the number itself. -/
def ReadsBack (n : Number) : Prop :=
  ∃ m : Numeral, Numeral.scan (Symbol.ofText n.text) = some (m, []) ∧ m.number? = some n

/-- Integers have 64 bits, with or without a sign. -/
def Fits : Number → Prop
  | .integer n => -9223372036854775808 ≤ n ∧ n < 18446744073709551616
  | .double _ => True

theorem text_integer (n : Int) :
    Symbol.ofText (integer n).text =
      (if n < 0 then [.char '-'] else []) ++ (Nat.toDigits 10 n.natAbs).map .char := by
  rw [text, Int.toString_eq_repr, Int.repr_eq_if, Symbol.ofText]
  by_cases hn : n < 0
  · rw [if_neg (by omega), if_pos hn, Nat.repr_eq_ofList_toDigits, String.toList_append,
      List.map_append, String.toList_ofList, String.toList_ofList,
      show (-n).toNat = n.natAbs by omega]
    rfl
  · rw [if_pos (by omega), if_neg hn, Nat.repr_eq_ofList_toDigits, String.toList_ofList,
      show n.toNat = n.natAbs by omega]
    rfl

/-- **Integers of 64 bits are read back.** -/
theorem readsBack_integer {n : Int} (h : (integer n).Fits) : (integer n).ReadsBack := by
  obtain ⟨hlow, hhigh⟩ := h
  refine ⟨⟨decide (n < 0), Nat.toDigits 10 n.natAbs, none, none⟩, ?_, ?_⟩
  · rw [text_integer, ← Numeral.scan_toDigits (decide (n < 0)) n.natAbs]
    simp only [decide_eq_true_eq]
  · have hinteger : Numeral.integer? ⟨decide (n < 0), Nat.toDigits 10 n.natAbs, none, none⟩ =
        some n := by
      rw [Numeral.integer?]
      simp only [Option.isNone_none, Bool.and_self, if_true, Text.valueOf_toDigits,
        decide_eq_true_eq, Word.limit, Word.signedLimit]
      by_cases hn : n < 0
      · rw [if_pos hn, if_pos (by omega), show -(n.natAbs : Int) = n by omega]
      · rw [if_neg hn, if_pos (by omega), show (n.natAbs : Int) = n by omega]
    rw [Numeral.number?, hinteger]

end Number
end QueryRights
