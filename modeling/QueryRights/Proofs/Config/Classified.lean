import QueryRights.Json.Numeral
import QueryRights.Proofs.Config.Layers
import QueryRights.Proofs.Toml.WellFormed

/-!
# What becomes of a value given for a setting

A value that is given for a setting is read as a list of intervals or else kept as it is, so a
wrong setting never makes a payload or a file fail.  Where the line is drawn does not depend on how
deep or in which place a part is wrong: one part that is no interval makes the whole value
malformed.

The same line is drawn for two kinds of text, and each has its own way of writing a number.  In a
payload an interval is an integer of 64 bits without a sign, written without fraction and exponent;
a `60.0` or a `6e1` is another number, for all that it has the same value, and so is `-0`.  In a
document an integer has a sign and 63 bits beside it, and a larger one does not make a setting
malformed but the document.  `Json.Lists` and `Toml.Item.Lists` say these things in terms of what
stands in the text, and `Setting.Classified` takes them as a parameter: what is said of the outcome
is the same for both.

`Setting.Classified` has three clauses, for a setting that is missing, a list, or malformed, and
each of them is an equivalence.  So it says not only what becomes of a value, but also that nothing
else does: a malformed setting has the very value that was given, and none but a value that is no
list is malformed.  With the clauses the getters are settled as well, since they give the list if
there is one and otherwise nothing.

What can still make a reader fail is little.  A setting that is given twice does, for both readers,
and it does not matter under which of its keys.  A payload may also have something in it that is no
value at all, such as a string with half of a surrogate pair, or be nested too deep
(`Json.Readable`).

## What is here

* `Setting.Classified`: a setting is missing, a list, or the value itself, in terms of the value.
* `Setting.intervalsOf?_eq_some_iff` and `Setting.classified_ofValue`: where the line is drawn.
* `Json.Readable`, `Json.Lists`, `Numeral.number?_eq_interval_iff` and `Toml.Item.Lists`: the lists
  as texts and documents write them.
* `ClientConfig.classified_of_ofJson?` and `Loader.classified_of_load`: the two readers.
* `ClientConfig.settings_classified`: **both readers fail for nothing but a repeated setting or a
  value that is no value, and draw the same line**.
-/

set_option autoImplicit false

namespace QueryRights

/-- What becomes of a value that is given for a setting: none where the value says nothing, a list
where it lists intervals, and what is kept of the value in every other case. -/
structure Setting.Classified (s : Option Setting) (isNull : Prop)
    (lists : List Interval → Prop) (kept : Value) : Prop where
  absent : s = none ↔ isNull
  list : ∀ intervals, s = some (.list intervals) ↔ lists intervals
  malformed : ∀ v, s = some (.malformed v) ↔ v = kept ∧ ¬ isNull ∧ ∀ intervals, ¬ lists intervals

/-! ## Values

The line itself, drawn between values and without regard to how they were written: the lists are
the arrays whose items are all intervals, which is to say the values that `Value.list` writes. -/

/-- A list that is read part by part is what it is written as, if each part is. -/
theorem map_eq_map_iff_of {α β γ : Type} {f : α → γ} {g : β → γ} {h : β → α}
    (hpart : ∀ a b, f a = g b ↔ a = h b) {as : List α} {bs : List β} :
    as.map f = bs.map g ↔ as = bs.map h := by
  rw [← List.forall₂_eq_eq_eq, ← List.forall₂_eq_eq_eq, List.forall₂_map_left_iff,
    List.forall₂_map_right_iff, List.forall₂_map_right_iff]
  simp only [hpart]

theorem Interval.ofInt?_eq_some_iff {n : Int} {i : Interval} :
    ofInt? n = some i ↔ n = i.seconds.toNat := by
  obtain ⟨seconds⟩ := i
  rw [ofInt?]
  constructor
  · intro h
    split at h
    · rename_i hfits
      have hlt : n.toNat < 18446744073709551616 := (Int.toNat_lt hfits.1).2 hfits.2
      cases h
      show n = ((UInt64.ofNat n.toNat).toNat : Int)
      rw [UInt64.toNat_ofNat_of_lt' hlt, Int.toNat_of_nonneg hfits.1]
    · cases h
  · rintro rfl
    have hfits : Word.FitsUnsigned seconds.toNat :=
      ⟨Int.natCast_nonneg _, Int.ofNat_lt.2 seconds.toNat_lt⟩
    rw [if_pos hfits, Int.toNat_natCast, UInt64.ofNat_toNat]

namespace Setting

theorem intervalOf?_eq_some_iff {v : Value} {i : Interval} :
    intervalOf? v = some i ↔ v = i.toValue := by
  rw [Interval.toValue, Value.int]
  cases v with
  | number n =>
    cases n with
    | integer n => rw [intervalOf?, Interval.ofInt?_eq_some_iff]; simp
    | double x => simp [intervalOf?]
  | _ => simp [intervalOf?]

theorem intervalsOf?_eq_some_iff {items : List Value} {intervals : List Interval} :
    intervalsOf? items = some intervals ↔ items = intervals.map Interval.toValue := by
  have hmap : intervalsOf? items = items.mapM intervalOf? := by
    induction items with
    | nil => rfl
    | cons v rest ih => rw [intervalsOf?, ih, List.mapM_cons]
  rw [hmap, mapM_eq_some_iff, ← List.forall₂_eq_eq_eq, List.forall₂_map_right_iff]
  simp only [intervalOf?_eq_some_iff]

theorem ofValue_eq_list_iff {v : Value} {intervals : List Interval} :
    ofValue v = .list intervals ↔ v = .list Interval.toValue intervals := by
  rw [Value.list]
  cases v with
  | array items =>
    rw [Value.array.injEq, ← intervalsOf?_eq_some_iff, ofValue]
    cases intervalsOf? items <;> simp
  | _ => simp [ofValue]

theorem ofValue_eq_malformed_iff {v w : Value} :
    ofValue v = .malformed w ↔ w = v ∧ ∀ intervals, v ≠ .list Interval.toValue intervals := by
  cases hv : ofValue v with
  | list intervals =>
    have hlist := ofValue_eq_list_iff.1 hv
    exact ⟨fun h => absurd h (by simp), fun h => absurd hlist (h.2 intervals)⟩
  | malformed u =>
    have hkept : u = v := by
      cases v with
      | array items =>
        rw [ofValue] at hv
        cases hitems : intervalsOf? items <;> rw [hitems] at hv <;> cases hv
        rfl
      | _ => cases hv; rfl
    have hnone : ∀ intervals, v ≠ .list Interval.toValue intervals := fun intervals h => by
      rw [ofValue_eq_list_iff.2 h] at hv
      cases hv
    rw [hkept, malformed.injEq, eq_comm]
    exact ⟨fun h => ⟨h, hnone⟩, fun h => h.1⟩

/-- **A value is read as a list exactly where it is an array of intervals, and is kept as it is
otherwise.** -/
theorem classified_ofValue (v : Value) :
    Classified (some (ofValue v)) False (fun intervals => v = .list Interval.toValue intervals)
      v where
  absent := by simp
  list := fun intervals => by rw [Option.some.injEq, ofValue_eq_list_iff]
  malformed := fun w => by
    rw [Option.some.injEq, ofValue_eq_malformed_iff]
    simp

end Setting

/-! ## Texts

Which texts are read as such an array.  A reader that takes a text for a list has no choice about
the list, so these are equivalences, too. -/

namespace Json

/-- A text can be read as a value: it says one, and arrays and objects are nested in it no deeper
than `room`. -/
def Readable (room : Nat) (j : Json) : Prop := j.depth ≤ room ∧ ∃ v, j.value? = some v

/-- A text writes an array of intervals. -/
def Lists (j : Json) (intervals : List Interval) : Prop :=
  j = .array (intervals.map fun i => .number (some (.integer i.seconds.toNat)))

theorem value?_eq_null_iff {j : Json} : j.value? = some .null ↔ j = .null := by
  cases j <;> simp [value?]

theorem value?_eq_number_iff {j : Json} {n : Number} :
    j.value? = some (.number n) ↔ j = .number (some n) := by
  cases j <;> simp [value?]

theorem value?_eq_list_iff {j : Json} {intervals : List Interval} :
    j.value? = some (.list Interval.toValue intervals) ↔ j.Lists intervals := by
  rw [Lists, Value.list]
  cases j with
  | array items =>
    rw [value?_array_eq_some, Json.array.injEq, ← List.forall₂_eq_eq_eq,
      List.forall₂_map_right_iff]
    simp only [Value.array.injEq, exists_eq_right', List.forall₂_map_right_iff, Interval.toValue,
      Value.int, value?_eq_number_iff]
  | _ => simp [value?]

end Json

/-- **The numbers that are intervals are written without sign, fraction and exponent**, and 64 bits
hold them. -/
theorem Numeral.number?_eq_interval_iff {n : Numeral} {i : Interval} :
    n.number? = some (.integer i.seconds.toNat) ↔
      n.negative = false ∧ n.fraction = none ∧ n.exponent = none ∧
        Text.valueOf n.whole = i.seconds.toNat := by
  have hlt : i.seconds.toNat < Word.limit := i.seconds.toNat_lt
  have hinteger : n.number? = some (.integer i.seconds.toNat) ↔
      n.integer? = some (i.seconds.toNat : Int) := by
    rw [number?]
    cases n.integer? <;> simp
  rw [hinteger, integer?]
  by_cases hplain : n.fraction = none ∧ n.exponent = none
  · rw [if_pos (by simp [hplain])]
    cases n.negative with
    | true =>
      simp only [if_true]
      split <;> simp; omega
    | false =>
      simp only [hplain, Bool.false_eq_true, if_false]
      split
      · rw [Option.some.injEq, Int.natCast_inj]
        simp
      · simp only [reduceCtorEq, true_and, false_iff]
        exact fun h => absurd (h ▸ hlt) ‹_›
  · rw [if_neg (by simpa using hplain)]
    simp only [reduceCtorEq, false_iff]
    exact fun h => hplain ⟨h.2.1, h.2.2.1⟩

/-! ## Items of a document

The same for documents.  An item can only be taken for a list that it fits, which is why the limit
of 63 bits stands in `Item.Lists`; for a well-formed item it holds anyway. -/

namespace Toml

/-- An item is an array of intervals, each below two to the power of 63. -/
def Item.Lists (i : Item) (intervals : List Interval) : Prop :=
  i = .array (intervals.map fun x => .integer x.seconds.toNat) ∧
    ∀ x ∈ intervals, x.seconds.toNat < Word.signedLimit

theorem Item.value_eq_int_iff {i : Item} {n : Int} : i.value = .int n ↔ i = .integer n := by
  cases i with
  | float x => cases x <;> simp [value, Value.int]
  | _ => simp [value, Value.int]

theorem Item.WellFormed.value_eq_list_iff {i : Item} (h : i.WellFormed)
    {intervals : List Interval} :
    i.value = .list Interval.toValue intervals ↔ i.Lists intervals := by
  rw [Lists, Value.list]
  cases h with
  | @array items hparts =>
    rw [value, valuesOfItems_eq, Value.array.injEq, Item.array.injEq,
      map_eq_map_iff_of (g := Interval.toValue) fun i x => value_eq_int_iff]
    refine ⟨fun hitems => ⟨hitems, fun x hx => ?_⟩, fun hitems => hitems.1⟩
    have hmem : Item.integer x.seconds.toNat ∈ items := by
      rw [hitems]
      exact List.mem_map_of_mem hx
    cases hparts _ hmem with
    | integer hfits => exact Int.ofNat_lt.1 hfits.2
  | float x => cases x <;> simp [value]
  | _ => simp [value, Value.int]

end Toml

/-! ## The two readers

What was proved about one value, put to use for a whole object and for a whole document.  The
lemmas of `QueryRights.Proofs.Config.Settings` reduce both to one setting at a time. -/

namespace ClientConfig

theorem settingOfJson?_eq_some_iff {room : Nat} {j : Json} (hj : j ≠ .null)
    {s : Option Setting} :
    settingOfJson? room j = some s ↔
      j.depth ≤ room - 1 ∧ ∃ v, j.value? = some v ∧ s = some (.ofValue v) := by
  rw [settingOfJson?, Json.optional?_of_ne_null _ hj, Setting.ofJson?]
  split
  · rename_i hdepth
    rw [Option.map_map, Option.map_eq_some_iff]
    simp [hdepth, eq_comm]
  · rename_i hdepth
    simp [hdepth]

/-- What is given for a setting is read if it is a value at all. -/
theorem exists_settingOfJson? {room : Nat} {j : Json} :
    (∃ s, settingOfJson? room j = some s) ↔ j.Readable (room - 1) := by
  by_cases hj : j = .null
  · rw [hj]
    exact ⟨fun _ => ⟨Nat.zero_le _, .null, rfl⟩, fun _ => ⟨none, rfl⟩⟩
  · simp only [settingOfJson?_eq_some_iff hj, Json.Readable]
    exact ⟨fun ⟨_, hdepth, v, hv, _⟩ => ⟨hdepth, v, hv⟩,
      fun ⟨hdepth, v, hv⟩ => ⟨_, hdepth, v, hv, rfl⟩⟩

theorem classified_of_settingOfJson? {room : Nat} {j : Json} {s : Option Setting}
    (hs : settingOfJson? room j = some s) {v : Value} (hv : j.value? = some v) :
    Setting.Classified s (j = .null) j.Lists v := by
  have hlists : ∀ intervals, j.Lists intervals ↔ v = .list Interval.toValue intervals := by
    intro intervals
    rw [← Json.value?_eq_list_iff, hv, Option.some.injEq]
  by_cases hj : j = .null
  · subst hj
    cases hs
    exact ⟨by simp, fun intervals => by simp [Json.Lists], fun w => by simp⟩
  · obtain ⟨-, w, hw, rfl⟩ := (settingOfJson?_eq_some_iff hj).1 hs
    cases hv.symm.trans hw
    obtain ⟨-, hlist, hmalformed⟩ := Setting.classified_ofValue v
    refine ⟨by simp [hj], fun intervals => ?_, fun w => ?_⟩
    · rw [hlists]
      exact hlist intervals
    · simp only [hlists, hj]
      exact hmalformed w

/-- **An object is a configuration exactly where each setting is given once at most, as something
that is a value.** -/
theorem exists_ofJson?_object {room : Nat} {members : List (Quoted × Json)}
    {entries : List (String × Json)} (hkeys : Record.keyed? members = some entries) :
    (∃ c, ofJson? room (.object members) = some c) ↔
      ∀ k : SettingName, (k.given entries).length ≤ 1 ∧
        ∀ j ∈ k.given entries, j.Readable (room - 1) := by
  have hhead : ∀ k : SettingName, (k.given entries).length ≤ 1 →
      ((∃ s, (k.given entries).head?.elim (some none) (settingOfJson? room) = some s) ↔
        ∀ j ∈ k.given entries, j.Readable (room - 1)) := by
    intro k honce
    match k.given entries, honce with
    | [], _ => simp
    | [j], _ => simpa using exists_settingOfJson?
  simp only [ofJson?_object_eq_some_iff hkeys]
  constructor
  · rintro ⟨c, honce, hread⟩ k
    exact ⟨honce k, (hhead k (honce k)).1 ⟨_, hread k⟩⟩
  · intro h
    choose s hs using fun k => (hhead k (h k).1).2 (h k).2
    refine ⟨⟨s .query, s .dashboard⟩, fun k => (h k).1, fun k => ?_⟩
    cases k
    · exact hs .query
    · exact hs .dashboard

/-- A setting of an object is missing where nothing is given, and otherwise it is what the value
given for it makes it. -/
theorem classified_of_ofJson? {room : Nat} {members : List (Quoted × Json)}
    {entries : List (String × Json)} (hkeys : Record.keyed? members = some entries)
    {c : ClientConfig} (hc : ofJson? room (.object members) = some c) (k : SettingName) :
    (k.given entries = [] → c.setting k = none) ∧
      ∀ j v, k.given entries = [j] → j.value? = some v →
        Setting.Classified (c.setting k) (j = .null) j.Lists v := by
  have hread := ((ofJson?_object_eq_some_iff hkeys).1 hc).2 k
  refine ⟨fun hnone => ?_, fun j v hj hv => ?_⟩
  · rw [hnone] at hread
    exact (Option.some.inj hread).symm
  · rw [hj] at hread
    exact classified_of_settingOfJson? hread hv

end ClientConfig

namespace Loader

/-- What a file gives for a setting is well-formed. -/
theorem wellFormed_of_given {file : Option FileContent} {k : SettingName} {i : Toml.Item}
    (h : i ∈ k.given (rootTable file)) : i.WellFormed := by
  have hroot : Toml.EntriesWellFormed (rootTable file) := by
    rw [rootTable]
    cases hentries : (file.bind FileContent.text?).bind Toml.Document.ofText? with
    | none => exact ⟨List.Pairwise.nil, fun _ he => absurd he List.not_mem_nil⟩
    | some entries =>
      obtain ⟨text, -, htext⟩ := Option.bind_eq_some_iff.1 hentries
      exact Toml.Document.wellFormed_of_ofText? htext
  obtain ⟨e, he, hgiven⟩ := List.mem_filterMap.1 h
  split at hgiven
  · cases hgiven
    exact hroot.parts e he
  · cases hgiven

section Document

variable {f : FileContent} {text : String} {entries : List (String × Toml.Item)}

/-- A document has no faults but a setting that it gives twice. -/
theorem exists_fileFault_iff (htext : f.text? = some text)
    (hentries : Toml.Document.ofText? text = some entries) :
    (∃ fault, FileFault (some f) fault) ↔ ∃ k : SettingName, 1 < (k.given entries).length := by
  constructor
  · rintro ⟨fault, h⟩
    cases h with
    | noText hgiven hnone =>
      cases hgiven
      rw [htext] at hnone
      cases hnone
    | noDocument hgiven hread hnone =>
      cases hgiven
      cases htext.symm.trans hread
      rw [hentries] at hnone
      cases hnone
    | twice hgiven hread hdocument hrepeated =>
      cases hgiven
      cases htext.symm.trans hread
      cases hentries.symm.trans hdocument
      exact ⟨_, hrepeated⟩
  · rintro ⟨k, hrepeated⟩
    exact ⟨_, .twice rfl htext hentries hrepeated⟩

/-- A document is loaded exactly where each setting is given once at most, as whatever it may be,
and no variable is wrong. -/
theorem exists_load_of_document (htext : f.text? = some text)
    (hentries : Toml.Document.ofText? text = some entries) (l : Loader) (env : Environment)
    (query dashboard : Option (List Interval)) :
    (∃ c, l.load (some f) env query dashboard = .ok c) ↔
      (∀ k : SettingName, (k.given entries).length ≤ 1) ∧
        ∀ k failure, ¬ l.VariableFault env k failure := by
  rw [exists_load_iff, ← not_exists, exists_firstFailure_iff, exists_fileFault_iff htext hentries]
  simp only [not_or, not_exists, Nat.not_lt]

/-- A setting that comes from a document is what the item given for it makes it. -/
theorem classified_of_load (htext : f.text? = some text)
    (hentries : Toml.Document.ofText? text = some entries) {l : Loader} {env : Environment}
    {query dashboard : Option (List Interval)} {c : ClientConfig}
    (hc : l.load (some f) env query dashboard = .ok c) {k : SettingName}
    (hhost : k.pick query dashboard = none) (henv : l.envText? env k = none) {i : Toml.Item}
    (hi : k.given entries = [i]) :
    ∃ v, i.KeptAs v ∧ Setting.Classified (c.setting k) False i.Lists v := by
  have hroot := rootTable_some htext hentries
  have hformed : i.WellFormed := wellFormed_of_given (hroot ▸ hi ▸ List.mem_singleton_self i)
  obtain ⟨s, hs, hlayered⟩ := layered_of_load hc k
  rw [hhost, henv, hroot, hi] at hlayered
  -- only the layer of the file is left
  cases hlayered with
  | host h => cases h
  | environment _ h => cases h
  | stock _ _ h => cases h
  | file _ _ h =>
    cases h
    refine ⟨i.value, hformed.keptAs_value, ?_⟩
    rw [hs]
    simpa only [hformed.value_eq_list_iff] using Setting.classified_ofValue i.value

end Document
end Loader

namespace ClientConfig

/-- **A value given for a setting decides what the setting is, and never makes a reader fail.**  An
object is refused for nothing but a setting given twice or a value that is no value; a document for
nothing but a setting given twice, and loading it for nothing more than a wrong variable.
Otherwise a setting that is given once is missing exactly for the null of a text, a list exactly
for an array of integers that 64 bits hold without a sign (63 in a document), which a text writes
without sign, fraction and exponent, and in all other cases it is the value itself.  The getters of
the configuration and of the default policy give the list, and nothing in all other cases. -/
theorem settings_classified :
    (∀ room members entries, Record.keyed? members = some entries →
      ((∃ c, ofJson? room (.object members) = some c) ↔
        ∀ k : SettingName, (k.given entries).length ≤ 1 ∧
          ∀ j ∈ k.given entries, j.Readable (room - 1)) ∧
      ∀ c, ofJson? room (.object members) = some c → ∀ k : SettingName,
        (k.given entries = [] → c.setting k = none) ∧
          ∀ j v, k.given entries = [j] → j.value? = some v →
            Setting.Classified (c.setting k) (j = .null) j.Lists v) ∧
    (∀ v : Value, v.Sorted → v.json.value? = some v) ∧
    (∀ (n : Numeral) (i : Interval), n.number? = some (.integer i.seconds.toNat) ↔
      n.negative = false ∧ n.fraction = none ∧ n.exponent = none ∧
        Text.valueOf n.whole = i.seconds.toNat) ∧
    (∀ (f : FileContent) text entries, f.text? = some text →
      Toml.Document.ofText? text = some entries →
      ∀ (l : Loader) (env : Environment) (query dashboard : Option (List Interval)),
        ((∃ c, l.load (some f) env query dashboard = .ok c) ↔
          (∀ k : SettingName, (k.given entries).length ≤ 1) ∧
            ∀ k failure, ¬ l.VariableFault env k failure) ∧
        ∀ c, l.load (some f) env query dashboard = .ok c → ∀ k : SettingName,
          k.pick query dashboard = none → l.envText? env k = none →
          ∀ i, k.given entries = [i] →
            ∃ v, i.KeptAs v ∧ Setting.Classified (c.setting k) False i.Lists v) ∧
    ∀ (c : ClientConfig) (k : SettingName),
      (∀ intervals, c.intervals? k = some intervals ↔ c.setting k = some (.list intervals)) ∧
        ∀ u : Principal, (Answers.ofUser u c).intervals? k = c.intervals? k := by
  refine ⟨fun room members entries hkeys => ⟨exists_ofJson?_object hkeys, fun c hc k =>
      classified_of_ofJson? hkeys hc k⟩, fun v hv => Value.value?_json hv,
    fun n i => Numeral.number?_eq_interval_iff, fun f text entries htext hentries l env query
      dashboard => ⟨Loader.exists_load_of_document htext hentries l env query dashboard,
        fun c hc k hhost henv i hi => Loader.classified_of_load htext hentries hc hhost henv hi⟩,
    fun c k => ⟨fun intervals => intervals?_eq_some_iff, fun u =>
      Answers.intervals?_ofUser u c k⟩⟩

/-- One minus zero makes a payload's setting malformed; a file with an integer that needs all its
63 bits gives a list. -/
theorem settings_classified_of_minus_zero :
    let j : Json := .array [.number (some (.integer 60)), .number (some (.double (.zero true)))]
    let v : Value := .array [.int 60, .number (.double (.zero true))]
    let c : ClientConfig := ⟨some (.malformed v), none⟩
    let file := FileContent.bytes "query_refresh_intervals = [9223372036854775807]".toUTF8
    let longest : Interval := ⟨9223372036854775807⟩
    ofJson? 127 (.object [(.ofText "query_refresh_intervals", j)]) = some c ∧
      c.setting .query = some (.malformed v) ∧
      ∃ d, Loader.load .standard (some file) (fun _ => none) none (some []) = .ok d ∧
        d.setting .query = some (.list [longest]) := by
  intro j v c file longest
  obtain ⟨hjson, -, -, htoml, -⟩ := settings_classified
  have hkeys : Record.keyed? [(.ofText "query_refresh_intervals", j)] =
      some [("query_refresh_intervals", j)] := rfl
  have hc : ofJson? 127 (.object [(.ofText "query_refresh_intervals", j)]) = some c := by rfl
  have hclass := ((hjson 127 _ _ hkeys).2 c hc .query).2 j v rfl rfl
  have hlists : ∀ intervals, ¬ j.Lists intervals := by
    rintro (_ | ⟨x, _ | ⟨y, rest⟩⟩) h <;> simp [Json.Lists, j] at h
  have htext : file.text? = some "query_refresh_intervals = [9223372036854775807]" := by rfl
  have hentries : Toml.Document.ofText? "query_refresh_intervals = [9223372036854775807]" =
      some [("query_refresh_intervals", .array [.integer 9223372036854775807])] := by
    decide +kernel
  obtain ⟨hload, hclassified⟩ :=
    htoml file _ _ htext hentries .standard (fun _ => none) none (some [])
  obtain ⟨d, hd⟩ := hload.2 ⟨fun k => by cases k <;> decide, fun k failure h => by
    obtain ⟨text, htext, -⟩ := h
    cases htext⟩
  obtain ⟨w, -, hfile⟩ := hclassified d hd .query rfl rfl _ rfl
  refine ⟨hc, (hclass.malformed v).2 ⟨rfl, by simp [j], hlists⟩, d, hd, (hfile.list _).2 ?_⟩
  exact ⟨rfl, by simp [longest]⟩

end ClientConfig
end QueryRights
