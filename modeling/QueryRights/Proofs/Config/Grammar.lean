import Mathlib.Data.List.Basic
import Mathlib.Data.List.Forall2
import Mathlib.Data.List.TakeWhile
import QueryRights.Config.IntervalList

/-!
# The grammar of interval lists

A text lists intervals by numbers between commas.  What stands between two commas counts without
the blanks around it, and not at all if nothing else is there.  Every other entry must be a number
of 64 bits: digits, perhaps with a plus sign in front.  A text with a wrong entry is refused for
the leftmost of them, and an entry is wrong for the first thing in it that is, which is a number
that has become too large already, or else a character that is no digit.

`IntervalList.parse` is three scans, one inside the other: over the commas, over the entries, over
the characters of an entry.  The grammar is written down without any of them, so that it can be
read beside the documentation of the variables, and each scan is then shown to agree with its part
of it.

* **Commas and blanks.** `Separated` says that the parts, joined by commas, are the text, and that
  no part has a comma in it.  `Trimmed` says that nothing but blanks was left out, and that no end
  of the rest is blank.  Both determine what they describe, so `entries_iff` is an equality: a text
  has one list of entries and the scan finds it.
* **Digits.** The scan multiplies and adds as it goes, and gives up at the first digit that takes
  it beyond 64 bits, or at the first character that is no digit, whichever is earlier.  `digits_eq`
  puts that into one equation about the digits in front of the first other character.  Since one
  more digit makes a number no smaller (`le_valueFrom`), the digits are too many at some point
  exactly if all of them together are.
* **Entries.** Only the leftmost wrong entry is reported.  `FirstFault` names it by splitting the
  list there, into entries that denote numbers, the wrong one, and whatever follows.

Which characters are blanks and which are digits is not the same question.  Blanks are all
characters with the Unicode property, since the text is trimmed by it; digits are the ten of ASCII,
and a digit of another script makes an entry wrong.

## What is here

* `Text.Trimmed` and `IntervalList.Entries`: the entries of a text, in terms of how they make up
  the text; `IntervalList.entries_iff`: they are what the reader takes.
* `IntervalList.Denotes`: the entries that are numbers, and `IntervalList.fault`: what is wrong
  with the others.
* `IntervalList.digits_eq`: reading digits as long as 64 bits hold them, in one equation, and
  `IntervalList.seconds_eq_ok_iff`, `IntervalList.seconds_eq_error_iff` for whole entries.
* `IntervalList.parse_grammar`: **a text is read as its numbers, or refused for its first fault**.
-/

set_option autoImplicit false

namespace QueryRights

/-! ## Trimming

`Text.trim` drops blanks from the front, turns the text round, and does the same again.  That the
result is the text without the blanks around it, and nothing else is, is what is left of that here.
-/

namespace Text

/-- A text without the blanks around it: nothing but blanks is left out, and neither end of what
remains is a blank. -/
structure Trimmed (s t : List Char) : Prop where
  around : ∃ before after, s = before ++ t ++ after ∧
    (∀ c ∈ before, isBlank c = true) ∧ ∀ c ∈ after, isBlank c = true
  front : ∀ c ∈ t.head?, isBlank c = false
  back : ∀ c ∈ t.getLast?, isBlank c = false

theorem trimmed_trim (s : List Char) : Trimmed s (trim s) := by
  have hsplit : s = s.takeWhile isBlank ++ trim s ++
      ((s.dropWhile isBlank).reverse.takeWhile isBlank).reverse := by
    rw [trim, List.append_assoc, ← List.reverse_append, List.takeWhile_append_dropWhile,
      List.reverse_reverse, List.takeWhile_append_dropWhile]
  have hrest : s.dropWhile isBlank =
      trim s ++ ((s.dropWhile isBlank).reverse.takeWhile isBlank).reverse := by
    rw [trim, ← List.reverse_append, List.takeWhile_append_dropWhile, List.reverse_reverse]
  refine ⟨⟨_, _, hsplit, fun c hc => ?_, fun c hc => ?_⟩, fun c hc => ?_, fun c hc => ?_⟩
  · exact List.mem_takeWhile_imp hc
  · exact List.mem_takeWhile_imp (List.mem_reverse.1 hc)
  · -- the first character that is left is the first after the blanks in front
    have hhead : (s.dropWhile isBlank).head? = some c := by
      rw [hrest, List.head?_append, Option.mem_def.1 hc]
      rfl
    have hnot := List.head?_dropWhile_not isBlank s
    rw [hhead] at hnot
    simpa using hnot
  · rw [trim, List.getLast?_reverse] at hc
    have hnot := List.head?_dropWhile_not isBlank (s.dropWhile isBlank).reverse
    rw [Option.mem_def.1 hc] at hnot
    simpa using hnot

theorem trim_of_trimmed {s t : List Char} (h : Trimmed s t) : trim s = t := by
  obtain ⟨⟨before, after, rfl, hbefore, hafter⟩, hfront, hback⟩ := h
  have hdrop : (before ++ t ++ after).dropWhile isBlank = (t ++ after).dropWhile isBlank := by
    rw [List.append_assoc, List.dropWhile_append_of_pos hbefore]
  rw [trim, hdrop]
  cases t with
  | nil =>
    rw [List.nil_append, List.dropWhile_eq_nil_iff.2 hafter]
    rfl
  | cons c t =>
    have hc : isBlank c = false := hfront c rfl
    have hafter' : ∀ d ∈ after.reverse, isBlank d = true := fun d hd =>
      hafter d (List.mem_reverse.1 hd)
    rw [List.cons_append, List.dropWhile_cons_of_neg (by simp [hc]), ← List.cons_append,
      List.reverse_append, List.dropWhile_append_of_pos hafter']
    have hhead : ∀ d ∈ (c :: t).reverse.head?, isBlank d = false := by
      rw [List.head?_reverse]
      exact hback
    cases hreverse : (c :: t).reverse with
    | nil => simp at hreverse
    | cons d rest =>
      rw [hreverse] at hhead
      rw [List.dropWhile_cons_of_neg (by simp [hhead d rfl]), ← hreverse, List.reverse_reverse]

/-- Trimming leaves what remains without the blanks around a text. -/
theorem trimmed_iff {s t : List Char} : Trimmed s t ↔ t = trim s :=
  ⟨fun h => (trim_of_trimmed h).symm, fun h => h ▸ trimmed_trim s⟩

end Text

namespace IntervalList

/-! ## Entries

The commas of a text leave no choice about its parts, and the blanks of a part leave none about
what remains of it.  So the entries of a text can be spoken of without saying how they are found. -/

/-- What a text falls into at its commas. -/
structure Separated (text : List Char) (parts : List (List Char)) : Prop where
  some : parts ≠ []
  joined : [','].intercalate parts = text
  noComma : ∀ p ∈ parts, ',' ∉ p

/-- The entries of a text: what is left of the parts between commas when they are trimmed, without
the parts of which nothing is left. -/
def Entries (text : List Char) (es : List (List Char)) : Prop :=
  ∃ parts trimmed, Separated text parts ∧ List.Forall₂ Text.Trimmed parts trimmed ∧
    es = trimmed.filter fun e => !e.isEmpty

theorem pieces_eq_splitOn (text : List Char) : pieces text = text.splitOn ',' := by
  induction text with
  | nil => rfl
  | cons c rest ih =>
    rw [pieces, ih, List.splitOn_eq_splitOnP, List.splitOn_eq_splitOnP,
      List.splitOnP_cons_eq_if_modifyHead]
    by_cases hc : c = ','
    · rw [if_pos hc, if_pos (beq_iff_eq.2 hc)]
    · rw [if_neg hc, if_neg (by simpa using hc)]
      obtain ⟨p, ps, hsplit⟩ := List.exists_cons_of_ne_nil (List.splitOnP_ne_nil (· == ',') rest)
      rw [hsplit]
      rfl

theorem noComma_of_mem_pieces {text p : List Char} (h : p ∈ pieces text) : ',' ∉ p := by
  induction text generalizing p with
  | nil =>
    rw [List.mem_singleton.1 h]
    exact List.not_mem_nil
  | cons c rest ih =>
    rw [pieces] at h
    split at h
    · rcases List.mem_cons.1 h with rfl | h
      · exact List.not_mem_nil
      · exact ih h
    · rename_i hc
      have hcons : ∀ q : List Char, ',' ∉ q → ',' ∉ c :: q := fun q hq hmem => by
        rcases List.mem_cons.1 hmem with hcomma | hmem
        · exact hc hcomma.symm
        · exact hq hmem
      split at h
      · rw [List.mem_singleton.1 h]
        exact hcons [] List.not_mem_nil
      · rename_i q qs hrest
        rcases List.mem_cons.1 h with rfl | h
        · exact hcons q (ih (hrest ▸ List.mem_cons_self))
        · exact ih (hrest ▸ List.mem_cons_of_mem q h)

theorem separated_iff {text : List Char} {parts : List (List Char)} :
    Separated text parts ↔ parts = pieces text := by
  constructor
  · rintro ⟨hsome, rfl, hcomma⟩
    rw [pieces_eq_splitOn, List.splitOn_intercalate ',' hcomma hsome]
  · rintro rfl
    refine ⟨?_, ?_, fun p hp => noComma_of_mem_pieces hp⟩
    · rw [pieces_eq_splitOn]
      exact List.splitOn_ne_nil _ _
    · rw [pieces_eq_splitOn, List.intercalate_splitOn]

/-- **The reader takes the entries of a text, and a text has no others.** -/
theorem entries_iff {text : List Char} {es : List (List Char)} :
    Entries text es ↔ es = entries text := by
  have hmap : ∀ parts trimmed : List (List Char),
      List.Forall₂ Text.Trimmed parts trimmed ↔ trimmed = parts.map Text.trim := by
    intro parts trimmed
    have htrim : Text.Trimmed = fun s t => Text.trim s = t := by
      funext s t
      rw [eq_iff_iff, Text.trimmed_iff, eq_comm]
    rw [htrim, eq_comm, ← List.forall₂_map_left_iff, List.forall₂_eq_eq_eq]
  simp only [Entries, separated_iff, hmap]
  constructor
  · rintro ⟨parts, trimmed, rfl, rfl, rfl⟩
    rfl
  · rintro rfl
    exact ⟨_, _, rfl, rfl, rfl⟩

/-! ## Numbers

One entry at a time: what it denotes, and if it denotes nothing, which of the two faults it has.
The accumulator of the scan is general here, since the induction has to begin in the middle of an
entry. -/

/-- An entry denotes a number: it is made of digits, at least one, perhaps with a plus sign in
front, and 64 bits hold their value. -/
def Denotes (entry : List Char) (n : Nat) : Prop :=
  ∃ ds, (entry = ds ∨ entry = '+' :: ds) ∧ ds ≠ [] ∧ (∀ c ∈ ds, Text.isDigit c = true) ∧
    Text.valueOf ds = n ∧ n < Word.limit

/-- An entry without the plus sign in front of it. -/
def unsigned : List Char → List Char
  | '+' :: rest => rest
  | s => s

/-- What is wrong with an entry that denotes no number: the digits before the first other character
are too many already, or that character is wrong. -/
def fault (entry : List Char) : DigitFault :=
  if Word.limit ≤ Text.valueOf ((unsigned entry).takeWhile Text.isDigit) then .tooLarge
  else .invalidDigit

theorem unsigned_of_isDigit {ds : List Char} (h : ∀ c ∈ ds, Text.isDigit c = true) :
    unsigned ds = ds := by
  unfold unsigned
  split
  · exact absurd (h '+' List.mem_cons_self) (by decide)
  · rfl

/-- An entry denotes a number if it is one without its sign. -/
theorem denotes_iff {entry : List Char} {n : Nat} :
    Denotes entry n ↔ unsigned entry ≠ [] ∧ (∀ c ∈ unsigned entry, Text.isDigit c = true) ∧
      Text.valueOf (unsigned entry) = n ∧ n < Word.limit := by
  constructor
  · rintro ⟨ds, rfl | rfl, hsome, hdigits, hvalue⟩
    · rw [unsigned_of_isDigit hdigits]
      exact ⟨hsome, hdigits, hvalue⟩
    · exact ⟨hsome, hdigits, hvalue⟩
  · intro h
    refine ⟨unsigned entry, ?_, h⟩
    unfold unsigned
    split
    · exact .inr rfl
    · exact .inl rfl

theorem digitValue?_of_isDigit {c : Char} (h : Text.isDigit c = true) :
    Text.digitValue? 10 c = some (Text.digitValue c) := by
  have hrange : 0x30 ≤ c.toNat ∧ c.toNat ≤ 0x39 := by
    rwa [Text.isDigit, Bool.and_eq_true, Nat.ble_eq, Nat.ble_eq] at h
  have hlt : Nat.blt (c.toNat - 0x30) 10 = true := by
    rw [Nat.blt_eq]
    omega
  rw [Text.digitValue?, if_pos h, Option.filter_some, if_pos hlt, Text.digitValue]

/-- Digits in front of others make a number no smaller. -/
theorem le_valueFrom (acc : Nat) (ds : List Char) : acc ≤ Text.valueFrom 10 acc ds := by
  induction ds generalizing acc with
  | nil => exact Nat.le_refl acc
  | cons c rest ih => exact Nat.le_trans (by omega) (ih _)

/-- **Digits are read up to the first that makes the number too large, or up to the first character
that is no digit**, whichever comes first. -/
theorem digits_eq {acc : Nat} (h : acc < Word.limit) (ds : List Char) :
    digits acc ds =
      if Word.limit ≤ Text.valueFrom 10 acc (ds.takeWhile Text.isDigit) then .error .tooLarge
      else if ds.all Text.isDigit then .ok (Text.valueFrom 10 acc ds)
      else .error .invalidDigit := by
  induction ds generalizing acc with
  | nil =>
    rw [digits, List.takeWhile_nil, Text.valueFrom, if_neg (Nat.not_le.2 h), List.all_nil,
      if_pos rfl]
  | cons c rest ih =>
    rw [digits]
    by_cases hc : Text.isDigit c = true
    · have hvalue : ∀ ds, Text.valueFrom 10 acc (c :: ds) =
          Text.valueFrom 10 (acc * 10 + Text.digitValue c) ds := by
        intro ds
        rw [Text.valueFrom, digitValue?_of_isDigit hc, Option.getD_some]
      rw [if_pos hc, List.takeWhile_cons_of_pos hc, hvalue, hvalue, List.all_cons, hc,
        Bool.true_and]
      by_cases hnext : acc * 10 + Text.digitValue c < Word.limit
      · rw [← ih hnext]
        exact if_pos hnext
      · have hlarge : Word.limit ≤ Text.valueFrom 10 (acc * 10 + Text.digitValue c)
            (rest.takeWhile Text.isDigit) :=
          Nat.le_trans (Nat.le_of_not_lt hnext) (le_valueFrom _ _)
        rw [if_pos hlarge]
        exact if_neg hnext
    · rw [if_neg hc, List.takeWhile_cons_of_neg hc, List.all_cons, Bool.eq_false_iff.2 hc,
        Bool.false_and, Text.valueFrom, if_neg (Nat.not_le.2 h)]
      rfl

theorem seconds_eq (entry : List Char) :
    seconds entry = if unsigned entry = [] then .error .invalidDigit
      else digits 0 (unsigned entry) := by
  unfold seconds unsigned
  split <;> simp only [List.isEmpty_iff]

/-- **An entry is read as the number that it denotes.** -/
theorem seconds_eq_ok_iff {entry : List Char} {n : Nat} :
    seconds entry = .ok n ↔ Denotes entry n := by
  rw [seconds_eq, denotes_iff]
  by_cases hsome : unsigned entry = []
  · simp [hsome]
  · rw [if_neg hsome, digits_eq (by decide), ← Text.valueOf, ← Text.valueOf]
    by_cases hdigits : ∀ c ∈ unsigned entry, Text.isDigit c = true
    · rw [List.takeWhile_eq_self_iff.2 hdigits, if_pos (List.all_eq_true.2 hdigits)]
      by_cases hlarge : Word.limit ≤ Text.valueOf (unsigned entry)
      · rw [if_pos hlarge]
        simp only [reduceCtorEq, false_iff]
        rintro ⟨-, -, rfl, hlt⟩
        omega
      · rw [if_neg hlarge, Except.ok.injEq]
        exact ⟨fun h => ⟨hsome, hdigits, h, by omega⟩, fun h => h.2.2.1⟩
    · rw [if_neg (fun h => hdigits (List.all_eq_true.1 h))]
      simp only [hdigits, false_and, and_false, iff_false]
      split <;> simp

/-- **An entry is refused if it denotes no number, for its first fault.** -/
theorem seconds_eq_error_iff {entry : List Char} {reason : DigitFault} :
    seconds entry = .error reason ↔ (∀ n, ¬ Denotes entry n) ∧ reason = fault entry := by
  have hfault : (∀ n, ¬ Denotes entry n) → seconds entry = .error (fault entry) := by
    intro hnone
    cases hread : seconds entry with
    | ok n => exact absurd (seconds_eq_ok_iff.1 hread) (hnone n)
    | error found =>
      rw [seconds_eq] at hread
      by_cases hsome : unsigned entry = []
      · rw [if_pos hsome] at hread
        cases hread
        rw [fault, hsome]
        rfl
      · rw [if_neg hsome, digits_eq (by decide), ← Text.valueOf] at hread
        rw [fault]
        split at hread
        · rename_i hlarge
          cases hread
          rw [if_pos hlarge]
        · rename_i hlarge
          split at hread
          · cases hread
          · cases hread
            rw [if_neg hlarge]
  constructor
  · intro h
    have hnone : ∀ n, ¬ Denotes entry n := fun n hn => by
      rw [seconds_eq_ok_iff.2 hn] at h
      cases h
    rw [hfault hnone, Except.error.injEq] at h
    exact ⟨hnone, h.symm⟩
  · rintro ⟨hnone, rfl⟩
    exact hfault hnone

/-! ## Lists

From one entry to all of them.  Entries in front of the first wrong one have been read when it is
found, which is what `FirstFault` asks of them. -/

/-- The failure of a list of entries: its leftmost entry that denotes no number, with what is wrong
with it. -/
inductive FirstFault : List (List Char) → Failure → Prop where
  | leftmost {before : List (List Char)} {e : List Char} {after : List (List Char)}
      (fine : ∀ x ∈ before, ∃ n, Denotes x n) (wrong : ∀ n, ¬ Denotes e n) :
      FirstFault (before ++ e :: after) (.config (.invalidInterval (String.ofList e) (fault e)))

theorem FirstFault.cons {es : List (List Char)} {failure : Failure} (h : FirstFault es failure)
    {x : List Char} {n : Nat} (hx : Denotes x n) : FirstFault (x :: es) failure := by
  cases h with
  | @leftmost before e after hfine hwrong =>
    have hfine' : ∀ y ∈ x :: before, ∃ n, Denotes y n :=
      List.forall_mem_cons.2 ⟨⟨n, hx⟩, hfine⟩
    exact .leftmost hfine' hwrong

/-- Entries are read one by one. -/
theorem ofEntries_eq_ok_iff {es : List (List Char)} {intervals : List Interval} :
    ofEntries es = .ok intervals ↔
      List.Forall₂ (fun e (i : Interval) => Denotes e i.seconds.toNat) es intervals := by
  induction es generalizing intervals with
  | nil => simp [ofEntries, eq_comm]
  | cons e rest ih =>
    rw [List.forall₂_cons_left_iff, ofEntries]
    cases hread : seconds e with
    | error reason =>
      have hnone := (seconds_eq_error_iff.1 hread).1
      simp [hnone]
    | ok n =>
      have hn : ∀ i : Interval, Denotes e i.seconds.toNat ↔ i = ⟨UInt64.ofNat n⟩ := by
        intro i
        have hlt : n < Word.limit := (seconds_eq_ok_iff.1 hread).choose_spec.2.2.2.2
        rw [← seconds_eq_ok_iff, hread, Except.ok.injEq]
        constructor
        · rintro rfl
          rw [UInt64.ofNat_toNat]
        · rintro rfl
          exact (UInt64.toNat_ofNat_of_lt' hlt).symm
      cases hrest : ofEntries rest with
      | error failure =>
        simp [← ih, hrest]
      | ok found =>
        simp [← ih, hrest, hn, eq_comm]

/-- Entries are refused for their first fault. -/
theorem ofEntries_eq_error_iff {es : List (List Char)} {failure : Failure} :
    ofEntries es = .error failure ↔ FirstFault es failure := by
  constructor
  · intro h
    induction es with
    | nil => cases h
    | cons e rest ih =>
      rw [ofEntries] at h
      split at h
      · rename_i reason hread
        obtain ⟨hnone, rfl⟩ := seconds_eq_error_iff.1 hread
        cases h
        exact .leftmost (List.forall_mem_nil _) hnone
      · rename_i n hread
        split at h
        · rename_i hrest
          cases h
          exact (ih hrest).cons (seconds_eq_ok_iff.1 hread)
        · cases h
  · rintro ⟨hfine, hwrong⟩
    rename_i before e after
    induction before with
    | nil =>
      rw [List.nil_append, ofEntries, seconds_eq_error_iff.2 ⟨hwrong, rfl⟩]
    | cons x before ih =>
      obtain ⟨⟨n, hn⟩, hfine⟩ := List.forall_mem_cons.1 hfine
      rw [List.cons_append, ofEntries, seconds_eq_ok_iff.2 hn, ih hfine]

/-- Entries that all denote numbers are read, as these numbers. -/
theorem exists_ofEntries_iff {es : List (List Char)} :
    (∃ intervals, ofEntries es = .ok intervals) ↔ ∀ e ∈ es, ∃ n, Denotes e n := by
  constructor
  · rintro ⟨intervals, hread⟩
    have hall := ofEntries_eq_ok_iff.1 hread
    clear hread
    induction hall with
    | nil => exact List.forall_mem_nil _
    | cons hi _ ih => exact List.forall_mem_cons.2 ⟨⟨_, hi⟩, ih⟩
  · intro hfine
    cases hread : ofEntries es with
    | ok intervals => exact ⟨intervals, rfl⟩
    | error failure =>
      obtain ⟨-, hwrong⟩ := ofEntries_eq_error_iff.1 hread
      obtain ⟨n, hn⟩ := hfine _ List.mem_append_cons_self
      exact absurd hn (hwrong n)

/-- Whatever a text is refused for is about the configuration. -/
theorem parse_error {text : String} {failure : Failure} (h : parse text = .error failure) :
    ∃ fault, failure = .config fault := by
  rw [parse] at h
  generalize entries text.toList = es at h
  obtain ⟨-, -⟩ := ofEntries_eq_error_iff.1 h
  exact ⟨_, rfl⟩

/-- **A text is read exactly when all its entries denote numbers, as the list of these numbers in
their order, and it is otherwise refused for the leftmost entry that denotes none**, and for the
first fault of that entry. -/
theorem parse_grammar (text : String) :
    ∃ es, (∀ es', Entries text.toList es' ↔ es' = es) ∧
      ((∃ intervals, parse text = .ok intervals) ↔ ∀ e ∈ es, ∃ n, Denotes e n) ∧
      (∀ intervals, parse text = .ok intervals ↔
        List.Forall₂ (fun e (i : Interval) => Denotes e i.seconds.toNat) es intervals) ∧
      ∀ failure, parse text = .error failure ↔ FirstFault es failure :=
  ⟨entries text.toList, fun _ => entries_iff, exists_ofEntries_iff,
    fun _ => ofEntries_eq_ok_iff, fun _ => ofEntries_eq_error_iff⟩

/-- A number that is too large already is refused as such, whatever comes after it. -/
example : fault "+018446744073709551616s".toList = .tooLarge := by decide

end IntervalList
end QueryRights
