import QueryRights.Proofs.Json.Kept
import QueryRights.Proofs.Json.Tokens

/-!
# Written values read back

A value is written without white space, and what may follow a value in a text (a comma, a closing
bracket, nothing) never becomes part of a number at its end.  So reading goes through the text of a
value as it was put together, and gives what the value says.

A text is read from the front, and a reader does not know where the part ends that it is to read.
What has to be proved by induction is therefore not that the text of a value is read, but that it
is read wherever it stands: `ReadsAs` quantifies over what follows.  For most values what follows
makes no difference.  A number is the exception, since it has no end of its own, so what follows a
value must not begin with a digit, a point or an exponent (`Numeral.Closed`).  A comma and brackets
do not, and nothing else stands behind a value in a written text.

The readers call each other, and a number bounds the calls.  Twice the length of the text is
enough: one call takes a value, one goes on to the next item, and each leaves at least one symbol
fewer.  So `ReadsAs` asks for that many calls, and each part of an array or an object is found to
have enough left.  Nowhere else is a bound on calls used or mentioned; in the end there is a text,
and the bound is taken from it.

The numbers in a value must be read back one by one.  Integers of 64 bits are
(`QueryRights.Proofs.Json.Tokens`), and doubles may not be, which is why this is a hypothesis about
the numbers of the value.  For values that were read before, half of the hypothesis is settled
here: every integer that is read has 64 bits.

## What is here

* `Json.ReadsAs`: a text is read in the same way wherever it stands.
* `Json.readItems_written`, `Json.readMembers_written`: the parts of arrays and objects.
* `Json.ofText?_text`: **a written value is read as the value**, if its numbers are read back; and
  `Json.ofBytes?_toUTF8`, for the bytes of the text.
* `Json.fits_of_ofBytes?`: **all integers that are read have 64 bits**, so they are read back when
  they are written again.
-/

set_option autoImplicit false

namespace QueryRights

/-! ## Texts as symbols

The symbols of a text that is put together, and the first symbol of each kind of value, by which
the reader decides what kind it is.  From here on a reader is entered by one of these lemmas, and
its cases are not looked at again. -/

namespace Symbol

theorem ofText_append (s t : String) : ofText (s ++ t) = ofText s ++ ofText t := by
  rw [ofText, String.toList_append, List.map_append]
  rfl

theorem ofText_intercalate_cons (t u : String) (ts : List String) :
    ofText (String.intercalate "," (t :: u :: ts)) =
      ofText t ++ .char ',' :: ofText (String.intercalate "," (u :: ts)) := by
  simp [ofText, String.toList_intercalate]

/-- A text of several parts begins with the first of them. -/
theorem exists_ofText_intercalate (t : String) (ts : List String) :
    ∃ s, ofText (String.intercalate "," (t :: ts)) = ofText t ++ s := by
  cases ts with
  | nil => exact ⟨[], (List.append_nil _).symm⟩
  | cons u ts => exact ⟨_, ofText_intercalate_cons t u ts⟩

end Symbol

namespace Json

/-- White space and the bracket that closes an array begin no value. -/
def Opens (c : Char) : Prop := c ≠ ']' ∧ c ≠ ' ' ∧ c ≠ '\t' ∧ c ≠ '\n' ∧ c ≠ '\r'

instance (c : Char) : Decidable (Opens c) := inferInstanceAs (Decidable (_ ∧ _))

theorem skipSpace_of_ne {c : Char} (h : c ≠ ' ' ∧ c ≠ '\t' ∧ c ≠ '\n' ∧ c ≠ '\r')
    (s : List Symbol) : skipSpace (.char c :: s) = .char c :: s := by
  rw [skipSpace, if_neg (by simp [h])]

theorem opens_of_scan {s t : List Symbol} {n : Numeral} (h : Numeral.scan s = some (n, t)) :
    ∃ c u, s = .char c :: u ∧ Opens c := by
  obtain ⟨c, u, rfl, hc⟩ := Numeral.head_of_scan h
  refine ⟨c, u, rfl, ?_⟩
  rcases hc with rfl | hc
  · decide
  · refine ⟨?_, ?_, ?_, ?_, ?_⟩ <;> rintro rfl <;> exact absurd hc (by decide)

/-- A number is read where one begins. -/
theorem readValue_number {s t : List Symbol} {n : Numeral} (h : Numeral.scan s = some (n, t))
    (fuel : Nat) : readValue (fuel + 1) s = some (.number n.number?, t) := by
  obtain ⟨c, u, rfl, hc⟩ := Numeral.head_of_scan h
  obtain ⟨_, _, hs, hopens⟩ := opens_of_scan h
  cases hs
  have hhead : ∀ d : Char, d ≠ '-' → Text.isDigit d = false → c ≠ d := by
    rintro d hminus hdigit rfl
    rcases hc with rfl | hc
    · exact hminus rfl
    · rw [hc] at hdigit
      cases hdigit
  rw [readValue.eq_def]
  simp only [skipSpace_of_ne hopens.2]
  split
  case h_7 =>
    rw [h]
    rfl
  -- no other kind of value begins with a sign or a digit
  all_goals
    rename_i hs
    exact absurd (Symbol.char.inj (List.cons.inj hs).1) (hhead _ (by decide) (by decide))

theorem ofText_writtenString (s : String) :
    ∃ t, Symbol.ofText (Value.writtenString s) = .char '"' :: t := by
  rw [Symbol.ofText, Value.writtenString, String.toList_ofList]
  exact ⟨_, rfl⟩

/-- A written string is read as a value where one begins. -/
theorem readValue_string (s : String) (rest : List Symbol) (fuel : Nat) :
    readValue (fuel + 1) (Symbol.ofText (Value.writtenString s) ++ rest) =
      some (.string (.ofText s), rest) := by
  have hread := readString_written s rest
  obtain ⟨t, ht⟩ := ofText_writtenString s
  rw [ht, List.cons_append] at hread ⊢
  rw [readString] at hread
  rw [readValue, skipSpace_of_ne (by decide)]
  simp only
  obtain ⟨⟨ps, u⟩, hscan, hp⟩ := Option.map_eq_some_iff.1 hread
  obtain ⟨hquoted, hrest⟩ := Prod.mk.inj hp
  rw [hscan, Option.map_some, hquoted, hrest]

theorem readValue_array {c : Char} (hc : Opens c) (s : List Symbol) (fuel : Nat) :
    readValue (fuel + 1) (.char '[' :: .char c :: s) =
      (readItems fuel (.char c :: s)).map fun p => (.array p.1, p.2) := by
  rw [readValue, skipSpace_of_ne (by decide)]
  simp only [skipSpace_of_ne hc.2]
  split
  · rename_i hs
    exact absurd (Symbol.char.inj (List.cons.inj hs).1) hc.1
  · rfl

theorem readValue_object (s : List Symbol) (fuel : Nat) :
    readValue (fuel + 1) (.char '\x7b' :: .char '"' :: s) =
      (readMembers fuel (.char '"' :: s)).map fun p => (.object p.1, p.2) := by
  rw [readValue, skipSpace_of_ne (by decide)]
  rfl

/-! ## Values

By induction over the value.  Items and members are lists, and reading them is an induction of its
own, in which all parts are known to be read; the values then follow one kind after the other. -/

/-- A text is read as `j` wherever it stands, unless what follows would become part of a number at
its end. -/
def ReadsAs (text : List Symbol) (j : Json) : Prop :=
  ∀ fuel rest, 2 * text.length ≤ fuel + 1 → Numeral.Closed rest →
    readValue (fuel + 1) (text ++ rest) = some (j, rest)

/-- The items of an array are read one after the other. -/
theorem readItems_written {items : List Value} (hne : items ≠ [])
    (h : ∀ v ∈ items, ReadsAs (Symbol.ofText v.text) v.json) (rest : List Symbol) (fuel : Nat)
    (hfuel : 2 * (Symbol.ofText (String.intercalate "," (Value.textsOfItems items))).length + 1 <
      fuel) :
    readItems fuel (Symbol.ofText (String.intercalate "," (Value.textsOfItems items)) ++
      .char ']' :: rest) = some (Value.jsonOfItems items, rest) := by
  induction items generalizing fuel with
  | nil => exact absurd rfl hne
  | cons v more ih =>
    obtain ⟨hv, hmore⟩ := List.forall_mem_cons.1 h
    -- one call for the items and one for the value in front
    obtain ⟨fuel, rfl⟩ : ∃ n, fuel = n + 2 := ⟨fuel - 2, by omega⟩
    cases more with
    | nil =>
      have htext : String.intercalate "," (Value.textsOfItems [v]) = v.text := rfl
      rw [htext] at hfuel ⊢
      rw [readItems, hv fuel _ (by omega) (Numeral.closed_cons (by decide) rest)]
      rfl
    | cons w ws =>
      have htext := Symbol.ofText_intercalate_cons v.text w.text (Value.textsOfItems ws)
      have hrest := ih (List.cons_ne_nil _ _) hmore (fuel + 1)
      simp only [Value.textsOfItems] at hfuel hrest ⊢
      rw [htext, List.length_append, List.length_cons] at hfuel
      rw [htext, List.append_assoc, List.cons_append, readItems,
        hv fuel _ (by omega) (Numeral.closed_cons (by decide) _)]
      simp only [Option.bind_eq_bind, Option.bind_some]
      rw [skipSpace_of_ne (by decide)]
      simp only [hrest (by omega)]
      rfl

/-- The key of a member and the value after it, up to what follows them. -/
theorem readMembers_written_cons {k : String} {v : Value}
    (hv : ReadsAs (Symbol.ofText v.text) v.json) {fuel : Nat}
    (hfuel : 2 * (Symbol.ofText v.text).length ≤ fuel + 1) {s : List Symbol}
    (hs : Numeral.Closed s) :
    readMembers (fuel + 2) (Symbol.ofText (Value.writtenString k ++ ":" ++ v.text) ++ s) =
      match skipSpace s with
      | .char '\x7d' :: rest => some ([(.ofText k, v.json)], rest)
      | .char ',' :: rest => do
        let (members, rest) ← readMembers (fuel + 1) rest
        return ((.ofText k, v.json) :: members, rest)
      | _ => none := by
  have htext : Symbol.ofText (Value.writtenString k ++ ":" ++ v.text) ++ s =
      Symbol.ofText (Value.writtenString k) ++ .char ':' :: (Symbol.ofText v.text ++ s) := by
    rw [Symbol.ofText_append, Symbol.ofText_append, List.append_assoc, List.append_assoc]
    rfl
  have hspace : ∀ t, skipSpace (Symbol.ofText (Value.writtenString k) ++ t) =
      Symbol.ofText (Value.writtenString k) ++ t := by
    intro t
    obtain ⟨u, hu⟩ := ofText_writtenString k
    rw [hu, List.cons_append, skipSpace_of_ne (by decide)]
  rw [htext, readMembers, hspace, readString_written]
  simp only [Option.bind_eq_bind, Option.bind_some]
  rw [skipSpace_of_ne (by decide)]
  simp only [hv fuel s hfuel hs, Option.bind_some]
  rfl

/-- The members of an object are read one after the other. -/
theorem readMembers_written {members : List (String × Value)} (hne : members ≠ [])
    (h : ∀ m ∈ members, ReadsAs (Symbol.ofText m.2.text) m.2.json) (rest : List Symbol)
    (fuel : Nat)
    (hfuel : 2 * (Symbol.ofText (String.intercalate ","
      (Value.textsOfMembers members))).length + 1 < fuel) :
    readMembers fuel (Symbol.ofText (String.intercalate "," (Value.textsOfMembers members)) ++
      .char '\x7d' :: rest) = some (Value.jsonOfMembers members, rest) := by
  induction members generalizing fuel with
  | nil => exact absurd rfl hne
  | cons m more ih =>
    obtain ⟨hm, hmore⟩ := List.forall_mem_cons.1 h
    obtain ⟨k, v⟩ := m
    have hm : ReadsAs (Symbol.ofText v.text) v.json := hm
    obtain ⟨fuel, rfl⟩ : ∃ n, fuel = n + 2 := ⟨fuel - 2, by omega⟩
    have hlength : (Symbol.ofText v.text).length ≤
        (Symbol.ofText (Value.writtenString k ++ ":" ++ v.text)).length := by
      rw [Symbol.ofText_append, List.length_append]
      omega
    cases more with
    | nil =>
      have htext : String.intercalate "," (Value.textsOfMembers [(k, v)]) =
          Value.writtenString k ++ ":" ++ v.text := rfl
      rw [htext] at hfuel ⊢
      rw [readMembers_written_cons hm (by omega) (Numeral.closed_cons (by decide) rest)]
      rfl
    | cons e es =>
      have htext := Symbol.ofText_intercalate_cons (Value.writtenString k ++ ":" ++ v.text)
        (Value.writtenString e.1 ++ ":" ++ e.2.text) (Value.textsOfMembers es)
      have hrest := ih (List.cons_ne_nil _ _) hmore (fuel + 1)
      simp only [Value.textsOfMembers] at hfuel hrest ⊢
      rw [htext, List.length_append, List.length_cons] at hfuel
      rw [htext, List.append_assoc, List.cons_append,
        readMembers_written_cons hm (by omega) (Numeral.closed_cons (by decide) _),
        skipSpace_of_ne (by decide)]
      simp only [hrest (by omega)]
      rfl

/-- A written value does not begin like white space or the end of an array. -/
theorem opens_text {v : Value} (h : ∀ n ∈ v.numbers, n.ReadsBack) :
    ∃ c u, Symbol.ofText v.text = .char c :: u ∧ Opens c := by
  cases v with
  | null => exact ⟨_, _, rfl, by decide⟩
  | bool b => cases b <;> exact ⟨_, _, rfl, by decide⟩
  | number n =>
    obtain ⟨m, hscan, -⟩ := h n (List.mem_singleton_self n)
    exact opens_of_scan hscan
  | string s =>
    obtain ⟨t, ht⟩ := ofText_writtenString s
    exact ⟨_, _, ht, by decide⟩
  | array items =>
    rw [Value.text, Symbol.ofText_append, Symbol.ofText_append]
    exact ⟨_, _, rfl, by decide⟩
  | object members =>
    rw [Value.text, Symbol.ofText_append, Symbol.ofText_append]
    exact ⟨_, _, rfl, by decide⟩

theorem readsAs_array {items : List Value}
    (h : ∀ v ∈ items, ReadsAs (Symbol.ofText v.text) v.json)
    (hopens : ∀ v ∈ items, ∃ c u, Symbol.ofText v.text = .char c :: u ∧ Opens c) :
    ReadsAs (Symbol.ofText (Value.array items).text) (Value.array items).json := by
  intro fuel rest hfuel _
  have htext : Symbol.ofText (Value.array items).text =
      .char '[' :: (Symbol.ofText (String.intercalate "," (Value.textsOfItems items)) ++
        [.char ']']) := by
    rw [Value.text, Symbol.ofText_append, Symbol.ofText_append]
    rfl
  rw [htext, List.length_cons, List.length_append, List.length_singleton] at hfuel
  rw [htext, List.cons_append, List.append_assoc]
  cases items with
  | nil => rfl
  | cons v more =>
    have hread := readItems_written (List.cons_ne_nil v more) h rest fuel (by omega)
    obtain ⟨c, u, hu, hc⟩ := hopens v List.mem_cons_self
    obtain ⟨t, ht⟩ := Symbol.exists_ofText_intercalate v.text (Value.textsOfItems more)
    rw [Value.textsOfItems, ht, hu] at hread ⊢
    rw [List.cons_append, List.cons_append] at hread ⊢
    rw [readValue_array hc, List.singleton_append, hread]
    rfl

theorem readsAs_object {members : List (String × Value)}
    (h : ∀ m ∈ members, ReadsAs (Symbol.ofText m.2.text) m.2.json) :
    ReadsAs (Symbol.ofText (Value.object members).text) (Value.object members).json := by
  intro fuel rest hfuel _
  have htext : Symbol.ofText (Value.object members).text =
      .char '\x7b' :: (Symbol.ofText (String.intercalate "," (Value.textsOfMembers members)) ++
        [.char '\x7d']) := by
    rw [Value.text, Symbol.ofText_append, Symbol.ofText_append]
    rfl
  rw [htext, List.length_cons, List.length_append, List.length_singleton] at hfuel
  rw [htext, List.cons_append, List.append_assoc]
  cases members with
  | nil => rfl
  | cons m more =>
    obtain ⟨k, v⟩ := m
    have hread := readMembers_written (List.cons_ne_nil (k, v) more) h rest fuel (by omega)
    obtain ⟨u, hu⟩ := ofText_writtenString k
    obtain ⟨t, ht⟩ := Symbol.exists_ofText_intercalate (Value.writtenString k ++ ":" ++ v.text)
      (Value.textsOfMembers more)
    rw [Value.textsOfMembers, ht, Symbol.ofText_append, Symbol.ofText_append, hu] at hread ⊢
    simp only [List.cons_append, List.nil_append] at hread ⊢
    rw [readValue_object, hread]
    rfl

/-- **What is written for a value is read as the value**, if the numbers in it are read back. -/
theorem readsAs_text {v : Value} (h : ∀ n ∈ v.numbers, n.ReadsBack) :
    ReadsAs (Symbol.ofText v.text) v.json := by
  induction v using Value.induct with
  | null => exact fun fuel rest _ _ => rfl
  | bool b =>
    intro fuel rest _ _
    cases b <;> rfl
  | number n =>
    intro fuel rest _ hrest
    obtain ⟨m, hscan, hm⟩ := h n (List.mem_singleton_self n)
    have hread := readValue_number (Numeral.scan_append hrest hscan) fuel
    rw [hm] at hread
    exact hread
  | string s => exact fun fuel rest _ _ => readValue_string s rest fuel
  | array items ih =>
    have hparts : ∀ v ∈ items, ∀ n ∈ v.numbers, n.ReadsBack := fun v hv n hn =>
      h n (Value.mem_numbers_array.2 ⟨v, hv, hn⟩)
    exact readsAs_array (fun v hv => ih v hv (hparts v hv)) fun v hv => opens_text (hparts v hv)
  | object members ih =>
    exact readsAs_object fun m hm => ih m hm fun n hn =>
      h n (Value.mem_numbers_object.2 ⟨m, hm, hn⟩)

/-- **A written value is read as the value.** -/
theorem ofText?_text {v : Value} (h : ∀ n ∈ v.numbers, n.ReadsBack) :
    ofText? v.text = some v.json := by
  have hread := readsAs_text h (2 * (Symbol.ofText v.text).length + 1) [] (by omega)
    Numeral.closed_nil
  rw [List.append_nil] at hread
  rw [ofText?, read?, hread]
  rfl

end Json

/-! ## Bytes

What arrives are bytes.  Those of a text are decoded to its characters, from any position on, as
the decoder goes. -/

namespace Symbol

/-- Behind other bytes, the bytes of characters are read as these characters. -/
theorem ofBytesFrom_utf8Encode (bytes : ByteArray) (cs : List Char) :
    ofBytesFrom (bytes ++ cs.utf8Encode) bytes.size = cs.map .char := by
  induction cs generalizing bytes with
  | nil =>
    have hend : ¬ bytes.size < (bytes ++ ([] : List Char).utf8Encode).size := by simp
    rw [ofBytesFrom, dif_neg hend]
    rfl
  | cons c cs ih =>
    have hdecode : (bytes ++ (c :: cs).utf8Encode).utf8DecodeChar? bytes.size = some c := by
      rw [ByteArray.utf8DecodeChar?_eq_utf8DecodeChar?_extract,
        ByteArray.extract_append_eq_right rfl ByteArray.size_append,
        List.utf8DecodeChar?_utf8Encode_cons]
    have hlt : bytes.size < (bytes ++ (c :: cs).utf8Encode).size :=
      ByteArray.lt_size_of_isSome_utf8DecodeChar? (by rw [hdecode]; rfl)
    have hsize : (bytes ++ [c].utf8Encode).size = bytes.size + c.utf8Size := by
      rw [ByteArray.size_append, List.utf8Encode_singleton, List.size_toByteArray,
        String.length_utf8EncodeChar]
    rw [ofBytesFrom, dif_pos hlt, hdecode]
    simp only [List.map_cons]
    rw [List.utf8Encode_cons, ← ByteArray.append_assoc, ← hsize, ih]

/-- The symbols of the bytes of a text are its characters. -/
theorem ofBytes_toUTF8 (s : String) : ofBytes s.toUTF8 = ofText s := by
  have hread := ofBytesFrom_utf8Encode ByteArray.empty s.toList
  rw [ByteArray.empty_append, String.utf8Encode_toList, ← String.toUTF8_eq_toByteArray] at hread
  exact hread

end Symbol

/-- The bytes of a text say what the text says. -/
theorem Json.ofBytes?_toUTF8 (s : String) : ofBytes? s.toUTF8 = ofText? s := by
  rw [ofBytes?, Symbol.ofBytes_toUTF8, ofText?]

/-! ## Numbers that are read

Now the other way, from a text that is read successfully to what came out.  It is an induction on
the number of calls, for the three readers together: with one more call each, what they give is
made of what they gave before and of single numbers. -/

/-- An integer that a numeral denotes has 64 bits. -/
theorem Numeral.fits_number? {m : Numeral} {n : Number} (h : m.number? = some n) : n.Fits := by
  rw [number?] at h
  split at h
  · rename_i k hk
    cases h
    rw [integer?] at hk
    split at hk
    · simp only [Word.limit, Word.signedLimit] at hk
      split at hk
      · split at hk
        · cases hk
          exact ⟨by omega, by omega⟩
        · cases hk
      · split at hk
        · cases hk
          exact ⟨by omega, by omega⟩
        · cases hk
    · cases hk
  · obtain ⟨x, -, rfl⟩ := Option.map_eq_some_iff.1 h
    trivial

namespace Json

/-- With at most so many calls, the readers give no integer beyond 64 bits. -/
structure ReadsFitting (fuel : Nat) : Prop where
  value : ∀ s j rest, readValue fuel s = some (j, rest) → ∀ n ∈ j.numbers, n.Fits
  items : ∀ s items rest, readItems fuel s = some (items, rest) →
    ∀ j ∈ items, ∀ n ∈ j.numbers, n.Fits
  members : ∀ s members rest, readMembers fuel s = some (members, rest) →
    ∀ m ∈ members, ∀ n ∈ m.2.numbers, n.Fits

namespace ReadsFitting

variable {fuel : Nat} {s rest : List Symbol}

theorem value_succ (h : ReadsFitting fuel) {j : Json}
    (hread : readValue (fuel + 1) s = some (j, rest)) : ∀ n ∈ j.numbers, n.Fits := by
  have hnone : ∀ j : Json, j.numbers = [] → ∀ n ∈ j.numbers, n.Fits := fun j hj n hn => by
    rw [hj] at hn
    cases hn
  rw [readValue.eq_def] at hread
  dsimp only at hread
  split at hread
  · cases hread
    exact hnone _ rfl
  · cases hread
    exact hnone _ rfl
  · cases hread
    exact hnone _ rfl
  · obtain ⟨⟨ps, t⟩, -, hread⟩ := Option.map_eq_some_iff.1 hread
    cases hread
    exact hnone _ rfl
  · split at hread
    · cases hread
      exact hnone _ rfl
    · obtain ⟨⟨items, t⟩, hitems, hread⟩ := Option.map_eq_some_iff.1 hread
      cases hread
      intro n hn
      obtain ⟨j, hj, hn⟩ := mem_numbers_array.1 hn
      exact h.items _ _ _ hitems j hj n hn
  · split at hread
    · cases hread
      exact hnone _ rfl
    · obtain ⟨⟨members, t⟩, hmembers, hread⟩ := Option.map_eq_some_iff.1 hread
      cases hread
      intro n hn
      obtain ⟨m, hm, hn⟩ := mem_numbers_object.1 hn
      exact h.members _ _ _ hmembers m hm n hn
  -- what is no other kind of value is a number, and only here one is made
  · obtain ⟨⟨m, t⟩, -, hread⟩ := Option.map_eq_some_iff.1 hread
    cases hread
    intro n hn
    exact Numeral.fits_number? (Option.mem_toList.1 hn)

theorem items_succ (h : ReadsFitting fuel) {items : List Json}
    (hread : readItems (fuel + 1) s = some (items, rest)) :
    ∀ j ∈ items, ∀ n ∈ j.numbers, n.Fits := by
  obtain ⟨⟨j, t⟩, hvalue, hread⟩ := Option.bind_eq_some_iff.1 hread
  have hj := h.value _ _ _ hvalue
  dsimp only at hread
  split at hread
  · cases hread
    exact fun i hi => List.mem_singleton.1 hi ▸ hj
  · obtain ⟨⟨more, u⟩, hmore, hread⟩ := Option.bind_eq_some_iff.1 hread
    cases hread
    exact List.forall_mem_cons.2 ⟨hj, h.items _ _ _ hmore⟩
  · cases hread

theorem members_succ (h : ReadsFitting fuel) {members : List (Quoted × Json)}
    (hread : readMembers (fuel + 1) s = some (members, rest)) :
    ∀ m ∈ members, ∀ n ∈ m.2.numbers, n.Fits := by
  obtain ⟨⟨key, t⟩, -, hread⟩ := Option.bind_eq_some_iff.1 hread
  dsimp only at hread
  split at hread
  · obtain ⟨⟨j, t⟩, hvalue, hread⟩ := Option.bind_eq_some_iff.1 hread
    have hj := h.value _ _ _ hvalue
    dsimp only at hread
    split at hread
    · cases hread
      exact fun m hm => List.mem_singleton.1 hm ▸ hj
    · obtain ⟨⟨more, u⟩, hmore, hread⟩ := Option.bind_eq_some_iff.1 hread
      cases hread
      exact List.forall_mem_cons.2 ⟨hj, h.members _ _ _ hmore⟩
    · cases hread
  · cases hread

end ReadsFitting

theorem readsFitting (fuel : Nat) : ReadsFitting fuel := by
  induction fuel with
  | zero => exact ⟨nofun, nofun, nofun⟩
  | succ fuel ih =>
    exact ⟨fun _ _ _ => ih.value_succ, fun _ _ _ => ih.items_succ, fun _ _ _ => ih.members_succ⟩

/-- **All integers that are read have 64 bits.** -/
theorem fits_of_ofBytes? {bytes : ByteArray} {j : Json} (h : ofBytes? bytes = some j) :
    ∀ n ∈ j.numbers, n.Fits := by
  rw [ofBytes?, read?] at h
  split at h
  · rename_i k rest hread
    split at h
    · cases h
      exact (readsFitting _).value _ _ _ hread
    · cases h
  · cases h

end Json
end QueryRights
