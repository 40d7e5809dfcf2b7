import QueryRights.Proofs.Json.Tokens
import QueryRights.Toml.Reader

/-!
# Arrays of numbers in documents

Where a value begins with a digit, a date or a time is tried first, then a float, then an integer.
Which of them it is shows only behind the digits, so a number that is closed by a blank, a comma or
a bracket is read as an integer, and an array of such numbers is read number by number.

This is the file to read for how a list of intervals may be written in a document.  The grammar of
TOML allows more than what is covered: comments between the items, underscores between digits,
other bases, a carriage return before a line end.  What is covered is what a program or a person
would write, that is decimal digits, blanks and line ends wherever they are allowed, and a comma
behind the last number or not.

The difficulty is that a scanner is not finished with a number when its digits are.  Four of them
begin a year, so `2026` might go on as a date, and two begin a time; a point or a letter `e` makes
a float of what looked like an integer.  So nothing can be said about digits alone.  What can be
said is about digits with a character behind them that ends the number, `Closes`, and with such a
character the attempts fail one after the other: `scanMoment_digits`, `scanFloatParts_digits`, and
at last `scanNumber_digits` reads the integer.  Which character it is does not matter to them, and
this is what lets one lemma serve for the numbers in the middle of an array and for the last.

The fuel of the scanners is counted as well.  An array needs one call more than it has numbers, and
a document offers twice its length.

## What is here

* `Closes`: what stands right behind the digits of a number in an array.
* `scanMoment_digits`, `scanFloatParts_digits` and `scanItem_digits`: digits that are closed are no
  date, no time and no float, and **decimal digits are read as their number**.
* `WritesItems` and `scanItems_written`: the texts of an array, and what they are read as.
* `Document.ofText?_written`: **a document with an array under one key says just that**.
-/

set_option autoImplicit false

namespace QueryRights
namespace Toml

/-- What stands right behind the digits of a number in an array. -/
def Closes (c : Char) : Prop := c ∈ [' ', '\t', '\n', ',', ']']

theorem Closes.isDigit {c : Char} (h : Closes c) : Text.isDigit c = false := by
  have hall : [' ', '\t', '\n', ',', ']'].all (fun c => !Text.isDigit c) = true := by decide
  simpa only [Bool.not_eq_true'] using List.all_eq_true.1 hall c h

theorem Closes.ne {c d : Char} (h : Closes c) (hd : d ∉ [' ', '\t', '\n', ',', ']']) : c ≠ d := by
  rintro rfl
  exact hd h

/-- A character of a class is none that is not of the class. -/
theorem ne_of_class {test : Char → Bool} {c d : Char} (hc : test c = true) (hd : test d = false) :
    c ≠ d := by
  rintro rfl
  rw [hc] at hd
  cases hd

/-- A text that begins with a character of a class begins with no other. -/
theorem cons_ne_of_class {test : Char → Bool} {c d : Char} (hc : test c = true)
    (hd : test d = false) (s t : List Char) : c :: s ≠ d :: t := fun h =>
  ne_of_class hc hd (List.cons.inj h).1

section Digits

variable {ds : List Char} {c : Char} (hds : ∀ d ∈ ds, Text.isDigit d = true) (hc : Closes c)
  (rest : List Char)

/-! ## Dates and times

A date has a hyphen behind its first digits and a time has a colon.  Neither closes a number, so
both attempts fail where they look for their mark, if they have not failed before for want of
digits. -/

include hds hc in
/-- Behind digits that were taken comes another digit, or what closes the number, but no mark. -/
theorem skipMark_of_scanFixed {mark : Char} (hmark : mark ∉ [' ', '\t', '\n', ',', ']'])
    (hdigit : Text.isDigit mark = false) {n limit v : Nat} {s : List Char}
    (hscan : scanFixed n limit (ds ++ c :: rest) = some (v, s)) : skipMark mark s = none := by
  rw [scanFixed] at hscan
  simp only [Option.ite_none_right_eq_some, Option.some.injEq, Prod.mk.injEq] at hscan
  obtain ⟨⟨-, hall, -⟩, -, rfl⟩ := hscan
  -- what closes the number is no digit, so it was not taken
  have hle : n ≤ ds.length := by
    refine Nat.le_of_not_lt fun hlt => ?_
    obtain ⟨m, hm⟩ : ∃ m, n - ds.length = m + 1 := ⟨n - ds.length - 1, by omega⟩
    rw [List.take_append, hm, List.take_succ_cons, List.all_append, List.all_cons, hc.isDigit,
      Bool.false_and, Bool.and_false] at hall
    cases hall
  rw [List.drop_append_of_le_length hle]
  cases hrest : ds.drop n with
  | nil => exact if_neg (hc.ne hmark)
  | cons d more =>
    have hd : d ∈ ds := List.mem_of_mem_drop (hrest ▸ List.mem_cons_self)
    exact if_neg (ne_of_class (hds d hd) hdigit)

include hds hc in
/-- Digits that are closed are no date and no time. -/
theorem scanMoment_digits : scanMoment (ds ++ c :: rest) = none := by
  have hdate : scanDate (ds ++ c :: rest) = none := by
    rw [scanDate]
    cases hyear : scanFixed 4 9999 (ds ++ c :: rest) with
    | none => rfl
    | some year =>
      have hmark : skipMark '-' year.2 = none :=
        skipMark_of_scanFixed hds hc rest (by decide) (by decide) hyear
      simp [hmark]
  have htime : scanTime (ds ++ c :: rest) = none := by
    rw [scanTime]
    cases hhour : scanFixed 2 23 (ds ++ c :: rest) with
    | none => rfl
    | some hour =>
      have hmark : skipMark ':' hour.2 = none :=
        skipMark_of_scanFixed hds hc rest (by decide) (by decide) hhour
      simp [hmark]
  rw [scanMoment, hdate]
  exact htime

/-! ## Numbers

With dates and times out of the way, a number is left.  It is no float, since nothing of what makes
one follows; and no number in another base, since that would need a letter behind a leading zero. -/

/-- A digit is no sign. -/
theorem scanSign_digit {d : Char} (hd : Text.isDigit d = true) (s : List Char) :
    scanSign (d :: s) = (false, d :: s) := by
  rw [scanSign]
  · exact fun _ => cons_ne_of_class hd (by decide) _ _
  · exact fun _ => cons_ne_of_class hd (by decide) _ _

include hds hc in
theorem scanGrouped_digits : scanGrouped Text.isDigit (ds ++ c :: rest) = (ds, c :: rest) := by
  induction ds with
  | nil =>
    rw [List.nil_append, scanGrouped, if_neg (by simp [hc.isDigit])]
    exact fun _ _ h _ => hc.ne (by decide) h
  | cons d ds ih =>
    obtain ⟨hd, hds⟩ := List.forall_mem_cons.1 hds
    rw [List.cons_append, scanGrouped, if_pos hd, ih hds]
    exact fun _ _ h _ => ne_of_class hd (by decide) h

end Digits

section Numbers

variable {c : Char} (hc : Closes c) (n : Nat) (rest : List Char)

include hc in
/-- Decimal digits are read up to what closes the number. -/
theorem scanDecimal_digits :
    scanDecimal (Nat.toDigits 10 n ++ c :: rest) =
      some ((false, Nat.toDigits 10 n), c :: rest) := by
  rcases Nat.eq_zero_or_pos n with rfl | hn
  · rfl
  · obtain ⟨d, ds, hds, hzero⟩ := Text.toDigits_eq_cons hn
    have hdigits : ∀ e ∈ d :: ds, Text.isDigit e = true := fun e he =>
      Text.isDigit_of_mem_toDigits (hds ▸ he)
    obtain ⟨hd, hmore⟩ := List.forall_mem_cons.1 hdigits
    rw [hds, List.cons_append, scanDecimal, scanSign_digit hd]
    simp only
    split
    · rename_i h
      exact absurd (List.cons.inj h).1 hzero
    · rw [scanDigits, if_pos hd, scanGrouped_digits hmore hc]
      rfl

include hc in
/-- Digits that are closed are no float. -/
theorem scanFloatParts_digits : scanFloatParts (Nat.toDigits 10 n ++ c :: rest) = none := by
  have hfraction : scanFraction (c :: rest) = none := by
    rw [scanFraction]
    exact fun s h => hc.ne (by decide) (List.cons.inj h).1
  have hexponent : scanExponent (c :: rest) = none := by
    refine if_neg ?_
    rintro (h | h)
    · exact hc.ne (by decide) h
    · exact hc.ne (by decide) h
  rw [scanFloatParts, scanDecimal_digits hc]
  simp only [Option.bind_eq_bind, Option.bind_some, hfraction, hexponent, Option.bind_none]

/-- The digits of a number begin with a digit. -/
theorem toDigits_eq_digit_cons : ∃ d ds, Nat.toDigits 10 n = d :: ds ∧ Text.isDigit d = true := by
  obtain ⟨d, ds, hds⟩ := List.exists_cons_of_ne_nil (Nat.toDigits_ne_nil (n := n) (b := 10))
  exact ⟨d, ds, hds, Text.isDigit_of_mem_toDigits (hds ▸ List.mem_cons_self)⟩

include hc in
/-- Decimal digits are read as their number, if 64 bits with a sign hold it. -/
theorem scanNumber_digits (hn : n < Word.signedLimit) :
    scanNumber (Nat.toDigits 10 n ++ c :: rest) = some (.integer n, c :: rest) := by
  have hdecimal := scanDecimal_digits hc n rest
  have hfloat := scanFloatParts_digits hc n rest
  obtain ⟨d, ds, hds, hd⟩ := toDigits_eq_digit_cons n
  have hspecial : scanSpecial (Nat.toDigits 10 n ++ c :: rest) = none := by
    rw [hds, List.cons_append, scanSpecial, scanSign_digit hd]
    split
    · rename_i h
      exact absurd h (cons_ne_of_class hd (by decide) _ _)
    · rename_i h
      exact absurd h (cons_ne_of_class hd (by decide) _ _)
    · rfl
  -- a zero in front is the whole number, so no letter for a base comes behind it
  have hbase : ∀ letter ∉ [' ', '\t', '\n', ',', ']'], Text.isDigit letter = false →
      ∀ s, Nat.toDigits 10 n ++ c :: rest ≠ '0' :: letter :: s := by
    intro letter hletter hdigit s h
    rcases Nat.eq_zero_or_pos n with rfl | hpos
    · exact hc.ne hletter (List.cons.inj (List.cons.inj h).2).1
    · obtain ⟨e, es, hes, he⟩ := Text.toDigits_eq_cons hpos
      rw [hes] at h
      exact he (List.cons.inj h).1
  have hfits : Word.FitsSigned n := ⟨by omega, Int.ofNat_lt.2 hn⟩
  have hinteger : integerItem? (n : Int) = some (.integer n) := by
    rw [integerItem?, if_pos hfits]
  rw [scanNumber, hfloat, hspecial]
  · rw [hdecimal, Option.bind_eq_bind, Option.bind_some]
    simp only [Bool.false_eq_true, if_false, Text.valueOf_toDigits, hinteger,
      Option.bind_eq_bind, Option.bind_some, Option.pure_def]
  · exact hbase 'x' (by decide) (by decide)
  · exact hbase 'o' (by decide) (by decide)
  · exact hbase 'b' (by decide) (by decide)

include hc in
/-- **Decimal digits are read as their number**, if 64 bits with a sign hold it. -/
theorem scanItem_digits (hn : n < Word.signedLimit) (fuel room : Nat) :
    scanItem (fuel + 1) room (Nat.toDigits 10 n ++ c :: rest) =
      some (.integer n, c :: rest) := by
  have hnumber := scanNumber_digits hc n rest hn
  have hmoment : scanMoment (Nat.toDigits 10 n ++ c :: rest) = none :=
    scanMoment_digits (fun d => Text.isDigit_of_mem_toDigits) hc rest
  obtain ⟨d, ds, hds, hd⟩ := toDigits_eq_digit_cons n
  have hne : ∀ e s, Text.isDigit e = false → d :: (ds ++ c :: rest) ≠ e :: s :=
    fun _ _ he => cons_ne_of_class hd he _ _
  have hstring : scanString (Nat.toDigits 10 n ++ c :: rest) = none := by
    rw [hds, List.cons_append, scanString]
    · exact fun s h => hne _ _ (by decide) h
    · exact fun s h => hne _ _ (by decide) h
    · exact fun s h => hne _ _ (by decide) h
    · exact fun s h => hne _ _ (by decide) h
  rw [hds, List.cons_append] at hstring hmoment hnumber ⊢
  rw [scanItem.eq_def]
  simp only
  split
  case h_5 => simp only [hstring, hmoment, hnumber]
  -- no other kind of value begins with a digit
  all_goals
    rename_i h
    exact absurd h (hne _ _ (by decide))

end Numbers

/-! ## Arrays

The texts of an array as an inductive predicate, one constructor for each way to end it and one to
go on.  The scanner is then followed along the predicate. -/

/-- Blanks and line ends between the parts of an array. -/
def Spacing (s : List Char) : Prop := ∀ c ∈ s, c ∈ [' ', '\t', '\n']

/-- A text of an array of numbers behind its opening bracket: decimal digits, blanks and line ends
around them, and a comma behind each number, which may be missing behind the last. -/
inductive WritesItems : List Char → List Nat → Prop where
  | close {before : List Char} (spacing : Spacing before) : WritesItems (before ++ [']']) []
  | last {before after : List Char} (n : Nat) (spacing : Spacing before)
      (spacing' : Spacing after) :
      WritesItems (before ++ (Nat.toDigits 10 n ++ (after ++ [']']))) [n]
  | more {before after s : List Char} {ns : List Nat} (n : Nat) (spacing : Spacing before)
      (spacing' : Spacing after) (others : WritesItems s ns) :
      WritesItems (before ++ (Nat.toDigits 10 n ++ (after ++ ',' :: s))) (n :: ns)

theorem skipFiller_spacing {before : List Char} (h : Spacing before) (s : List Char) :
    skipFiller false (before ++ s) = skipFiller false s := by
  induction before with
  | nil => rfl
  | cons c before ih =>
    obtain ⟨hc, hbefore⟩ := List.forall_mem_cons.1 h
    rw [List.cons_append, ← ih hbefore]
    have hcases : c = ' ' ∨ c = '\t' ∨ c = '\n' := by simpa using hc
    rcases hcases with rfl | rfl | rfl <;> rfl

theorem skipFiller_of_isDigit {c : Char} (h : Text.isDigit c = true) (s : List Char) :
    skipFiller false (c :: s) = c :: s := by
  rw [skipFiller]
  · rw [if_neg (by simp), if_neg, if_neg (ne_of_class h (by decide))]
    rintro (rfl | rfl)
    · cases h
    · cases h
  · rintro rfl
    cases h
  · rintro s rfl
    cases h

/-- After a number comes what closes it, a blank or else the mark that follows. -/
theorem closes_spacing {after : List Char} (h : Spacing after) {mark : Char} (hmark : Closes mark)
    (s : List Char) : ∃ c t, after ++ mark :: s = c :: t ∧ Closes c := by
  cases after with
  | nil => exact ⟨_, _, rfl, hmark⟩
  | cons c after =>
    have hc : c ∈ [' ', '\t', '\n'] := h c List.mem_cons_self
    exact ⟨_, _, rfl, List.mem_append_left [',', ']'] hc⟩

/-- Behind a number, blanks and line ends are passed over up to the mark that follows. -/
theorem skipFiller_mark {after : List Char} (h : Spacing after) {mark : Char}
    (hmark : mark ∈ [',', ']']) (s : List Char) :
    skipFiller false (after ++ mark :: s) = mark :: s := by
  rw [skipFiller_spacing h]
  have hcases : mark = ',' ∨ mark = ']' := by simpa using hmark
  rcases hcases with rfl | rfl <;> rfl

theorem length_le_of_writesItems {s : List Char} {ns : List Nat} (h : WritesItems s ns) :
    ns.length ≤ s.length := by
  induction h with
  | close _ => exact Nat.zero_le _
  | last n _ _ =>
    simp only [List.length_append, List.length_cons]
    omega
  | more n _ _ _ ih =>
    simp only [List.length_append, List.length_cons]
    omega

/-- The first number of an array and what follows it, up to the mark behind it. -/
theorem scanItems_number {before after : List Char} (hbefore : Spacing before)
    (hafter : Spacing after) {mark : Char} (hmark : mark ∈ [',', ']']) {n : Nat}
    (hn : n < Word.signedLimit) (s : List Char) (fuel room : Nat) :
    scanItems (fuel + 2) room (before ++ (Nat.toDigits 10 n ++ (after ++ mark :: s))) =
      if mark = ']' then some ([.integer n], s)
      else (scanItems (fuel + 1) room s).map fun p => (.integer n :: p.1, p.2) := by
  have hcloses : Closes mark := List.mem_append_right [' ', '\t', '\n'] hmark
  obtain ⟨c, t, ht, hc⟩ := closes_spacing hafter hcloses s
  obtain ⟨d, ds, hds, hd⟩ := toDigits_eq_digit_cons n
  have hitem := scanItem_digits hc n t hn fuel room
  rw [← ht, hds, List.cons_append] at hitem
  rw [scanItems, skipFiller_spacing hbefore, hds, List.cons_append, skipFiller_of_isDigit hd]
  split
  · rename_i h
    exact absurd h (cons_ne_of_class hd (by decide) _ _)
  · rw [hitem, Option.bind_eq_bind, Option.bind_some]
    simp only [skipFiller_mark hafter hmark]
    have hcases : mark = ',' ∨ mark = ']' := by simpa using hmark
    rcases hcases with rfl | rfl
    · rw [if_neg (by decide)]
      show ((scanItems (fuel + 1) room s).bind fun p => some (.integer n :: p.1, p.2)) = _
      cases scanItems (fuel + 1) room s <;> rfl
    · rfl

/-- **A text of an array of numbers is read as these numbers.** -/
theorem scanItems_written {s : List Char} {ns : List Nat} (h : WritesItems s ns)
    (hfits : ∀ n ∈ ns, n < Word.signedLimit) (room : Nat) (rest : List Char) (fuel : Nat)
    (hfuel : ns.length < fuel) :
    scanItems fuel room (s ++ rest) = some (ns.map fun n => .integer (n : Int), rest) := by
  induction h generalizing fuel with
  | close hbefore =>
    obtain ⟨fuel, rfl⟩ : ∃ m, fuel = m + 1 := ⟨fuel - 1, by omega⟩
    rw [scanItems, List.append_assoc, skipFiller_spacing hbefore]
    rfl
  | last n hbefore hafter =>
    obtain ⟨fuel, rfl⟩ : ∃ m, fuel = m + 2 := ⟨fuel - 2, by simp at hfuel; omega⟩
    have hn := hfits n (List.mem_singleton_self n)
    simp only [List.append_assoc, List.cons_append, List.nil_append]
    rw [scanItems_number hbefore hafter (by decide) hn, if_pos rfl]
    rfl
  | @more _ _ _ ns n hbefore hafter _ ih =>
    rw [List.length_cons] at hfuel
    obtain ⟨fuel, rfl⟩ : ∃ m, fuel = m + 2 := ⟨fuel - 2, by omega⟩
    obtain ⟨hn, hmore⟩ := List.forall_mem_cons.1 hfits
    simp only [List.append_assoc, List.cons_append]
    rw [scanItems_number hbefore hafter (by decide) hn, if_neg (by decide),
      ih hmore (fuel + 1) (by omega)]
    rfl

/-! ## Documents

A key that needs no quotation marks, an equals sign and the array make a statement, and a statement
makes a document. -/

section Keys

variable {c : Char} {cs : List Char} (hkey : ∀ d ∈ c :: cs, isBare d = true) (s : List Char)

include hkey in
theorem skipSpace_bare : skipSpace (c :: s) = c :: s := by
  have hc : isBare c = true := hkey c List.mem_cons_self
  rw [skipSpace, List.dropWhile_cons_of_neg]
  simp [ne_of_class hc (show isBare ' ' = false by decide),
    ne_of_class hc (show isBare '\t' = false by decide)]

include hkey in
/-- A bare key is read up to the mark behind it. -/
theorem scanKey_bare :
    scanKey (c :: cs ++ ' ' :: '=' :: s) = some (([], String.ofList (c :: cs)), '=' :: s) := by
  have hc : isBare c = true := hkey c List.mem_cons_self
  have hname : (c :: cs ++ ' ' :: '=' :: s).takeWhile isBare = c :: cs := by
    rw [List.takeWhile_append_of_pos hkey]
    simp [isBare, Text.isDigit]
  have hpart : scanPart (c :: cs ++ ' ' :: '=' :: s) =
      some (String.ofList (c :: cs), ' ' :: '=' :: s) := by
    rw [List.cons_append] at hname ⊢
    rw [scanPart, hname]
    · rw [if_neg (by simp), ← List.cons_append, List.drop_left]
    · exact fun _ => cons_ne_of_class hc (by decide) _ _
    · exact fun _ => cons_ne_of_class hc (by decide) _ _
  have hparts : scanParts ((c :: cs ++ ' ' :: '=' :: s).length + 1) (c :: cs ++ ' ' :: '=' :: s) =
      some ([String.ofList (c :: cs)], '=' :: s) := by
    rw [scanParts, List.cons_append, skipSpace_bare hkey, ← List.cons_append, hpart]
    rfl
  rw [scanKey, hparts]
  rfl

include hkey in
/-- An array of numbers under a bare key is one statement. -/
theorem scanStatement_written {ns : List Nat} (h : WritesItems s ns)
    (hfits : ∀ n ∈ ns, n < Word.signedLimit) :
    scanStatement (c :: cs ++ ' ' :: '=' :: ' ' :: '[' :: s) =
      some (.assign [] (String.ofList (c :: cs)) (.array (ns.map fun n : Nat => .integer n)),
        []) := by
  have hc : isBare c = true := hkey c List.mem_cons_self
  have hitems := scanItems_written h hfits 78 [] (2 * (' ' :: '[' :: s).length + 1) (by
    have hle := length_le_of_writesItems h
    simp only [List.length_cons]
    omega)
  rw [List.append_nil] at hitems
  have hitem : scanItem (2 * (' ' :: '[' :: s).length + 2) deepest ('[' :: s) =
      some (.array (ns.map fun n : Nat => .integer n), []) := by
    show (scanItems (2 * (' ' :: '[' :: s).length + 1) 78 s).map _ = _
    rw [hitems]
    rfl
  rw [List.cons_append, scanStatement]
  · rw [← List.cons_append, scanKey_bare hkey]
    show (scanItem (2 * (' ' :: '[' :: s).length + 2) deepest ('[' :: s)).bind _ = _
    rw [hitem]
    rfl
  · exact fun _ => cons_ne_of_class hc (by decide) _ _
  · exact fun _ => cons_ne_of_class hc (by decide) _ _

end Keys

/-- **A document with an array of numbers under one bare key says just that.** -/
theorem Document.ofText?_written {key : String} (hne : key ≠ "")
    (hkey : ∀ c ∈ key.toList, isBare c = true) {s : List Char} {ns : List Nat}
    (h : WritesItems s ns) (hfits : ∀ n ∈ ns, n < Word.signedLimit) :
    ofText? (key ++ " = [" ++ String.ofList s) =
      some [(key, .array (ns.map fun n : Nat => .integer n))] := by
  have hsome : key.toList ≠ [] := fun hnil => hne (String.toList_eq_nil_iff.1 hnil)
  obtain ⟨c, cs, hcs⟩ := List.exists_cons_of_ne_nil hsome
  have hname : String.ofList (c :: cs) = key := by rw [← hcs, String.ofList_toList]
  rw [hcs] at hkey
  have hc : isBare c = true := hkey c List.mem_cons_self
  have htext : (key ++ " = [" ++ String.ofList s).toList =
      c :: cs ++ ' ' :: '=' :: ' ' :: '[' :: s := by
    simp [hcs]
  have horder : ¬ c.toNat = 0xfeff := fun horder =>
    ne_of_class hc (show isBare (Char.ofNat 0xfeff) = false by decide) (Char.toNat_inj.1 horder)
  have hplain : ¬ (c = '#' ∨ c = '\n' ∨ c = '\r') := by
    rintro (rfl | rfl | rfl)
    · cases hc
    · cases hc
    · cases hc
  have hstatement := scanStatement_written hkey s h hfits
  rw [List.cons_append] at htext hstatement
  rw [ofText?, htext, skipMarkOfOrder, if_neg horder, scanStatements, skipSpace_bare hkey]
  simp only [if_neg hplain, hstatement, hname]
  rfl

end Toml
end QueryRights
