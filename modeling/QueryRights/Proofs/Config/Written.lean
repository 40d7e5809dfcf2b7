import QueryRights.Proofs.Config.Classified
import QueryRights.Proofs.Json.Schema

/-!
# Configurations written and read again

A list of intervals and the value kept in its place are written alike, and a missing setting is
written as null.  What is read again is nevertheless the same setting, because a value that is kept
is never a list of intervals.  There is one exception: a document can give a float that is no
finite number, which is kept as null and is read again as a missing setting.

So writing is not injective on all configurations that could be made up, but it is on those that
can arise.  The difference is the invariant `Setting.Kept`: a setting is sorted, its integers have
64 bits, and a value in it is not one that would be read as a list.  `Setting.kept_list` and
`Setting.kept_ofValue` establish it for the two ways in which settings come to be.  The last of its
clauses is what makes the reading come out right, and the other two are there for the text: objects
are written with their keys in order, and integers that have more bits would be read as doubles.

Two things are assumed of a configuration beyond that, and both are about the text and not about
settings.  Doubles must be read back as the numbers that they are, which is a property of the
number (`Number.ReadsBack`) and fails for some, as reading decimals is not exact.  And the reader
must allow for as deep a nesting as there is.  A document may be nested deeper than the reader of
payloads allows, hence the quantifier over `room` in `Loader.sentOn_of_load`.

For the exception `Loader.KeptAsNull` gives the condition, in terms of the layers: neither the host
nor the variable has a list for the setting, and the file gives an infinity or what is not a
number.  The two cases of `Loader.sentOn_of_load` are exclusive and cover everything, so the
exception is the only one.

## What is here

* `Setting.Kept`: the invariant of settings, with `Setting.kept_list` and `Setting.kept_ofValue`.
* `ClientConfig.ofText?_toValue` and `ClientConfig.ofJson?_written`: what is written for a
  configuration, and what it is read as.
* `Loader.KeptAsNull` and `Loader.sentOn_of_load`: **a loaded configuration is read again as it is,
  except for settings that are kept as null**.
-/

set_option autoImplicit false

namespace QueryRights

/-! ## Kept settings

The invariant, and where it comes from.  A list is kept because its intervals are words; a value is
kept because `Setting.ofValue` has looked at it and found that it is no list. -/

/-- The numbers in a list are its intervals. -/
theorem Interval.isWord_of_mem_numbers {intervals : List Interval} {n : Number}
    (h : n ∈ (Value.list toValue intervals).numbers) : n.IsWord := by
  obtain ⟨v, hv, hn⟩ := Value.mem_numbers_array.1 h
  obtain ⟨i, -, rfl⟩ := List.mem_map.1 hv
  exact Json.Restores.uint64.isWord i.seconds n hn

namespace Setting

/-- What every setting is that came from a payload, a document, a variable or the host: sorted, its
integers have 64 bits, and a value in it is no list of intervals. -/
structure Kept (s : Setting) : Prop where
  sorted : s.toValue.Sorted
  fits : ∀ n ∈ s.toValue.numbers, n.Fits
  again : ofValue s.toValue = s

theorem toValue_ofValue (v : Value) : (ofValue v).toValue = v := by
  cases h : ofValue v with
  | list intervals => exact (ofValue_eq_list_iff.1 h).symm
  | malformed w => exact (ofValue_eq_malformed_iff.1 h).1

theorem kept_list (intervals : List Interval) : (list intervals).Kept where
  sorted := .array (List.forall_mem_map.2 fun _ _ => .number _)
  fits := fun _ hn => (Interval.isWord_of_mem_numbers hn).fits
  again := ofValue_eq_list_iff.2 rfl

theorem kept_ofValue {v : Value} (hsorted : v.Sorted) (hfits : ∀ n ∈ v.numbers, n.Fits) :
    (ofValue v).Kept := by
  refine ⟨?_, ?_, ?_⟩ <;> rw [toValue_ofValue]
  · exact hsorted
  · exact hfits

theorem toValue_eq_null_iff {s : Setting} : s.toValue = .null ↔ s = .malformed .null := by
  cases s with
  | list intervals => simp [toValue, Value.list]
  | malformed v => simp [toValue]

end Setting

/-! ## One configuration

A configuration is written as an object with two members, and either member is read for itself, so
that the whole comes down to one setting.  The only value for which the setting that is read
differs from the one that was written is null. -/

namespace ClientConfig

variable {c : ClientConfig}

/-- What is written for the settings, under their keys. -/
def members (c : ClientConfig) : List (String × Value) :=
  [SettingName.query, .dashboard].map fun k => (k.key, .optional Setting.toValue (c.setting k))

theorem toValue_eq (c : ClientConfig) : c.toValue = .object c.members := rfl

theorem given_members (c : ClientConfig) (k : SettingName) :
    k.given (c.members.map fun m => (m.1, m.2.json)) =
      [(Value.optional Setting.toValue (c.setting k)).json] := by
  cases k <;> rfl

theorem mem_members (c : ClientConfig) (k : SettingName) :
    (k.key, .optional Setting.toValue (c.setting k)) ∈ c.members :=
  List.mem_map_of_mem (by cases k <;> decide)

theorem mem_numbers_toValue {n : Number} (h : n ∈ c.toValue.numbers) :
    ∃ k s, c.setting k = some s ∧ n ∈ s.toValue.numbers := by
  rw [toValue_eq] at h
  obtain ⟨m, hm, hn⟩ := Value.mem_numbers_object.1 h
  obtain ⟨k, -, rfl⟩ := List.mem_map.1 hm
  cases hs : c.setting k with
  | none =>
    rw [hs] at hn
    cases hn
  | some s =>
    rw [hs] at hn
    exact ⟨k, s, hs, hn⟩

/-- A configuration of kept settings is read as what it says, if its doubles are read back. -/
theorem ofText?_toValue (hkept : ∀ k s, c.setting k = some s → s.Kept)
    (hdoubles : ∀ x, .double x ∈ c.toValue.numbers → (Number.double x).ReadsBack) :
    Json.ofText? c.toValue.text = some c.toValue.json := by
  refine Json.ofText?_text fun n hn => ?_
  cases n with
  | integer n =>
    obtain ⟨k, s, hs, hn⟩ := mem_numbers_toValue hn
    exact Number.readsBack_integer ((hkept k s hs).fits _ hn)
  | double x => exact hdoubles x hn

/-- What is written for a setting is read as the setting again, unless it is null. -/
theorem settingOfJson?_written {room : Nat} {o : Option Setting}
    (hkept : ∀ s, o = some s → s.Kept)
    (hdepth : (Value.optional Setting.toValue o).json.depth ≤ room - 1) :
    ∃ t, settingOfJson? room (Value.optional Setting.toValue o).json = some t ∧
      (o = some (.malformed .null) → t = none) ∧ (o ≠ some (.malformed .null) → t = o) := by
  cases o with
  | none => exact ⟨none, rfl, fun _ => rfl, fun _ => rfl⟩
  | some s =>
    obtain ⟨hsorted, -, hagain⟩ := hkept s rfl
    by_cases hnull : s = .malformed .null
    · subst hnull
      exact ⟨none, rfl, fun _ => rfl, fun h => absurd rfl h⟩
    · have hread := Value.value?_json hsorted
      have hjson : s.toValue.json ≠ .null := fun h => by
        rw [h, Json.value?, Option.some.injEq] at hread
        exact hnull (Setting.toValue_eq_null_iff.1 hread.symm)
      refine ⟨some s, ?_, fun h => absurd (Option.some.inj h) hnull, fun _ => rfl⟩
      refine (settingOfJson?_eq_some_iff hjson).2 ⟨hdepth, _, hread, ?_⟩
      rw [hagain]

theorem depth_setting_le {room : Nat} (h : c.toValue.json.depth ≤ room) (k : SettingName) :
    (Value.optional Setting.toValue (c.setting k)).json.depth ≤ room - 1 := by
  rw [toValue_eq, Value.json, Json.depth] at h
  have hparts := Json.depthOfMembers_le_iff.1 (Nat.le_sub_one_of_lt h)
  rw [Value.jsonOfMembers_eq, List.forall_mem_map] at hparts
  exact hparts _ (c.mem_members k)

/-- **What is written for a configuration is read as the configuration again**, except that a
setting kept as null is missing. -/
theorem ofJson?_written {room : Nat} (hkept : ∀ k s, c.setting k = some s → s.Kept)
    (hdepth : ∀ k, (Value.optional Setting.toValue (c.setting k)).json.depth ≤ room - 1) :
    ∃ d, ofJson? room c.toValue.json = some d ∧ ∀ k : SettingName,
      (c.setting k = some (.malformed .null) → d.setting k = none) ∧
        (c.setting k ≠ some (.malformed .null) → d.setting k = c.setting k) := by
  rw [toValue_eq, Value.json]
  have hread : ∀ k : SettingName, ∃ t,
      settingOfJson? room (Value.optional Setting.toValue (c.setting k)).json = some t ∧
        (c.setting k = some (.malformed .null) → t = none) ∧
          (c.setting k ≠ some (.malformed .null) → t = c.setting k) := fun k =>
    settingOfJson?_written (hkept k) (hdepth k)
  choose t ht hnull hother using hread
  refine ⟨⟨t .query, t .dashboard⟩, ?_, fun k => ?_⟩
  · rw [ofJson?_object_eq_some_iff (Record.keyed?_jsonOfMembers c.members)]
    refine ⟨fun k => ?_, fun k => ?_⟩
    · rw [given_members]
      exact Nat.le_refl 1
    · rw [given_members]
      cases k
      · exact ht .query
      · exact ht .dashboard
  · cases k
    · exact ⟨hnull .query, hother .query⟩
    · exact ⟨hnull .dashboard, hother .dashboard⟩

end ClientConfig

namespace Loader

/-! ## Loaded configurations

The four layers all give kept settings.  Of what they give, only the float of a file can be null. -/

/-- A setting that comes from a file, which gives a float for it that is no finite number. -/
def KeptAsNull (l : Loader) (file : Option FileContent) (env : Environment)
    (query dashboard : Option (List Interval)) (k : SettingName) : Prop :=
  k.pick query dashboard = none ∧ l.envText? env k = none ∧
    k.given (rootTable file) = [.float none]

/-- The layers of a setting give a kept setting. -/
theorem kept_of_layered {k : SettingName} {host : Option (List Interval)}
    {envText : Option String} {file : Option FileContent} {s : Setting}
    (h : Layered k.stock host envText (k.given (rootTable file)) s) : s.Kept := by
  cases h with
  | host _ => exact Setting.kept_list _
  | environment _ _ _ => exact Setting.kept_list _
  | @file i _ _ hgiven =>
    have hformed : i.WellFormed := wellFormed_of_given (hgiven ▸ List.mem_singleton_self i)
    refine Setting.kept_ofValue hformed.sorted_value fun n hn => ?_
    cases n with
    | integer n =>
      obtain ⟨hlow, hhigh⟩ := hformed.fits_of_mem_numbers hn
      exact ⟨hlow, by omega⟩
    | double x => trivial
  | stock _ _ _ => cases k <;> exact Setting.kept_list _

theorem value_eq_null_iff {i : Toml.Item} : i.value = .null ↔ i = .float none := by
  cases i with
  | float x => cases x <;> simp [Toml.Item.value]
  | _ => simp [Toml.Item.value, Value.int]

/-- The layers of a setting give null exactly for a float of the file that is no finite number. -/
theorem eq_null_of_layered_iff {k : SettingName} {host : Option (List Interval)}
    {envText : Option String} {given : List Toml.Item} {s : Setting}
    (h : Layered k.stock host envText given s) :
    s = .malformed .null ↔ host = none ∧ envText = none ∧ given = [.float none] := by
  cases h with
  | host hhost => simp [hhost]
  | environment _ htext _ => simp [htext]
  | stock _ _ hgiven =>
    have hstock : k.stock ≠ .malformed .null := by cases k <;> nofun
    simp [hstock, hgiven]
  | file hhost htext hgiven =>
    rw [← Setting.toValue_eq_null_iff, Setting.toValue_ofValue, value_eq_null_iff, hgiven]
    simp [hhost, htext]

/-- **A loaded configuration is read again as it is when it is sent on**, as deep as it is nested,
except for a setting that a file gives as a float that is no finite number: such a setting is kept
as null, and null is read as a missing setting. -/
theorem sentOn_of_load {l : Loader} {file : Option FileContent} {env : Environment}
    {query dashboard : Option (List Interval)} {c : ClientConfig}
    (h : l.load file env query dashboard = .ok c)
    (hdoubles : ∀ x, .double x ∈ c.toValue.numbers → (Number.double x).ReadsBack) :
    ∃ j, Json.ofText? c.toValue.text = some j ∧ ∀ room, j.depth ≤ room →
      ∃ d, ClientConfig.ofJson? room j = some d ∧ ∀ k : SettingName,
        (l.KeptAsNull file env query dashboard k →
          c.setting k = some (.malformed .null) ∧ d.setting k = none) ∧
        (¬ l.KeptAsNull file env query dashboard k → d.setting k = c.setting k) := by
  have hkept : ∀ k s, c.setting k = some s → s.Kept := by
    intro k s hs
    obtain ⟨t, ht, hlayered⟩ := layered_of_load h k
    cases hs.symm.trans ht
    exact kept_of_layered hlayered
  have hnull : ∀ k, c.setting k = some (.malformed .null) ↔
      l.KeptAsNull file env query dashboard k := by
    intro k
    obtain ⟨t, ht, hlayered⟩ := layered_of_load h k
    rw [ht, Option.some.injEq]
    exact eq_null_of_layered_iff hlayered
  refine ⟨_, ClientConfig.ofText?_toValue hkept hdoubles, fun room hdepth => ?_⟩
  obtain ⟨d, hd, hsettings⟩ := ClientConfig.ofJson?_written hkept
    (ClientConfig.depth_setting_le hdepth)
  refine ⟨d, hd, fun k => ⟨fun hk => ?_, fun hk => ?_⟩⟩
  · exact ⟨(hnull k).2 hk, (hsettings k).1 ((hnull k).2 hk)⟩
  · exact (hsettings k).2 fun hs => hk ((hnull k).1 hs)

/-- A list with a fraction in it is read again as it is, and what is no number is missing. -/
theorem sentOn_of_load_fraction :
    let file := FileContent.bytes
      "queryRefreshIntervals = [1.5]\ndashboardRefreshIntervals = nan".toUTF8
    let x : Double := ⟨false, 6755399441055744, 1022, by decide⟩
    let c : ClientConfig :=
      ⟨some (.malformed (.array [.number (.double x)])), some (.malformed .null)⟩
    load .standard (some file) (fun _ => none) none none = .ok c ∧ (Number.double x).ReadsBack ∧
      ∃ j d, Json.ofText? c.toValue.text = some j ∧ ClientConfig.ofJson? 127 j = some d ∧
        d.setting .query = c.setting .query ∧ d.setting .dashboard = none := by
  intro file x c
  have htext : file.text? =
      some "queryRefreshIntervals = [1.5]\ndashboardRefreshIntervals = nan" := by rfl
  have hdocument : Toml.Document.ofText?
      "queryRefreshIntervals = [1.5]\ndashboardRefreshIntervals = nan" =
        some [("dashboardRefreshIntervals", .float none),
          ("queryRefreshIntervals", .array [.float (some x)])] := by
    decide +kernel
  have hload : load .standard (some file) (fun _ => none) none none = .ok c := by
    rw [load, readFile_some, htext]
    simp only [hdocument]
    rfl
  have hx : (Number.double x).ReadsBack :=
    ⟨⟨false, ['1'], some ['5'], none⟩, by decide +kernel, by decide +kernel⟩
  have hnumbers : ∀ n ∈ c.toValue.numbers, n.ReadsBack := by
    rw [show c.toValue.numbers = [.double x] from rfl]
    exact fun n hn => List.mem_singleton.1 hn ▸ hx
  have hroot := rootTable_some htext hdocument
  obtain ⟨j, hj, hread⟩ := sentOn_of_load hload fun y hy => hnumbers _ hy
  have hjson : j = c.toValue.json := Option.some.inj (hj.symm.trans (Json.ofText?_text hnumbers))
  obtain ⟨d, hd, hsettings⟩ := hread 127 (hjson ▸ by decide)
  refine ⟨hload, hx, j, d, hj, hd, (hsettings .query).2 ?_, ((hsettings .dashboard).1 ?_).2⟩
  · rintro ⟨-, -, hgiven⟩
    rw [hroot] at hgiven
    cases hgiven
  · refine ⟨rfl, rfl, ?_⟩
    rw [hroot]
    rfl

/-- A file that gives what is no number for the queries: the configuration that arrives is another
one than the one that was loaded and sent. -/
theorem nan_arrives_missing :
    let file := FileContent.bytes "queryRefreshIntervals = nan".toUTF8
    let c : ClientConfig := ⟨some (.malformed .null), some ClientConfig.stockDashboardSetting⟩
    load .standard (some file) (fun _ => none) none none = .ok c ∧
      ∃ j d, Json.ofText? c.toValue.text = some j ∧ ClientConfig.ofJson? 127 j = some d ∧
        d.setting .query = none ∧ d ≠ c := by
  intro file c
  have htext : file.text? = some "queryRefreshIntervals = nan" := by rfl
  have hdocument : Toml.Document.ofText? "queryRefreshIntervals = nan" =
      some [("queryRefreshIntervals", .float none)] := by decide +kernel
  have hload : load .standard (some file) (fun _ => none) none none = .ok c := by
    rw [load, readFile_some, htext]
    simp only [hdocument]
    rfl
  have hkept : ∀ k s, c.setting k = some s → s.Kept := by
    intro k s hs
    cases k <;> cases hs
    · exact Setting.kept_ofValue .null fun n hn => absurd hn List.not_mem_nil
    · exact Setting.kept_list _
  have hdoubles : ∀ x, .double x ∈ c.toValue.numbers → (Number.double x).ReadsBack := by
    intro x hx
    have hnumbers : c.toValue.numbers =
        ([60, 300, 600, 1800, 3600, 43200, 86400] : List Int).map .integer := rfl
    rw [hnumbers] at hx
    simp at hx
  obtain ⟨d, hd, hsettings⟩ := ClientConfig.ofJson?_written hkept
    (ClientConfig.depth_setting_le (show c.toValue.json.depth ≤ 127 by decide))
  have hquery : d.setting .query = none := (hsettings .query).1 rfl
  refine ⟨hload, _, d, ClientConfig.ofText?_toValue hkept hdoubles, hd, hquery, fun h => ?_⟩
  rw [h] at hquery
  cases hquery

end Loader
end QueryRights
