import QueryRights.Proofs.Config.Written
import QueryRights.Proofs.Entity.Written
import QueryRights.Session

/-!
# Sessions written and read again

A payload may be written in many ways: with fields in any order or in an array, under either of two
keys, with permissions in any order and more than once.  A session is what all of them say, and it
is written in one way, which says the same.  In a configuration the danger is that two settings are
written alike: a missing one and one kept as null, or a list and the same array kept as a value.
No payload gives the second of either pair.

The starting point is bytes that were accepted, whatever they look like, and the theorem is about
the session that came out of them.  What is known about that session is what the reader can give,
and this has to be an invariant, since the session is all there is when it is written again.  For
the user there is nothing to know: every user is read back.  For the configuration the invariant is
`ClientConfig.FromPayload`, three properties of each setting.

* It is kept (`Setting.Kept`), which takes care of the second pair above.
* It is not null.  A null in the payload stands for a missing setting, so that `malformed null`
  comes from documents only, which is where the round trip fails
  (`QueryRights.Proofs.Config.Written`).
* It is nested no deeper than the reader allows in the place where the setting stands.  What is
  written has it in the same place.

Integers need no assumption: the reader of numbers gives an integer only if 64 bits hold it, with
or without a sign, and turns everything else into a double.  That is used for the text as a whole,
`Json.fits_of_ofBytes?`, and follows the numbers to where they end up in the session.  Doubles do
need an assumption, and it is made for those that are in the session and no others.

## What is here

* `ClientConfig.FromPayload`: the invariant of configurations in payloads, and
  `ClientConfig.FromPayload.ofJson?_toValue`: with it they are read again as they are.
* `Session.ofBytes?_toValue`: **sessions are read again as they are**, byte by byte.
-/

set_option autoImplicit false

namespace QueryRights

/-! ## Configurations

What a reader of configurations can give, as an invariant, and that it is enough. -/

namespace ClientConfig

/-- What a payload gives for a setting, if anything. -/
theorem setting_of_ofJson? {room : Nat} {j : Json} {c : ClientConfig}
    (h : ofJson? room j = some c) (k : SettingName) :
    c.setting k = none ∨ ∃ part, settingOfJson? room part = some (c.setting k) ∧
      ∀ n ∈ part.numbers, n ∈ j.numbers := by
  obtain ⟨r, hr, h⟩ := Option.bind_eq_some_iff.1 h
  obtain ⟨query, hquery, h⟩ := Option.bind_eq_some_iff.1 h
  obtain ⟨dashboard, hdashboard, h⟩ := Option.bind_eq_some_iff.1 h
  cases h
  have hfield : ∀ name o, r.field? name (settingOfJson? room) none = some o →
      o = none ∨ ∃ part, settingOfJson? room part = some o ∧ ∀ n ∈ part.numbers, n ∈ j.numbers := by
    intro name o ho
    rw [Record.field?] at ho
    split at ho
    · cases ho
      exact .inl rfl
    · rename_i part hpart
      exact .inr ⟨part, ho, fun n hn => Record.mem_numbers_of_get? hr hpart hn⟩
  cases k
  · exact hfield _ _ hquery
  · exact hfield _ _ hdashboard

/-- A setting that a payload gives is kept, nested no deeper than the payload, and not null. -/
theorem kept_of_settingOfJson? {room : Nat} {j : Json} {s : Setting}
    (h : settingOfJson? room j = some (some s)) (hfits : ∀ n ∈ j.numbers, n.Fits) :
    s.Kept ∧ s.toValue.json.depth ≤ room - 1 ∧ s ≠ .malformed .null := by
  have hj : j ≠ .null := by
    rintro rfl
    cases h
  obtain ⟨hdepth, v, hv, hs⟩ := (settingOfJson?_eq_some_iff hj).1 h
  cases hs
  refine ⟨Setting.kept_ofValue (Json.sorted_of_value? hv) fun n hn =>
    hfits n (Json.mem_numbers_of_value? hv hn), ?_, fun hnull => ?_⟩
  · rw [Setting.toValue_ofValue]
    exact Nat.le_trans (Json.depth_json_le hv) hdepth
  · rw [← Setting.toValue_eq_null_iff, Setting.toValue_ofValue] at hnull
    exact hj (Json.value?_eq_null_iff.1 (hnull ▸ hv))

/-- What every setting of a payload is. -/
def FromPayload (room : Nat) (c : ClientConfig) : Prop :=
  ∀ k s, c.setting k = some s →
    s.Kept ∧ s.toValue.json.depth ≤ room - 1 ∧ s ≠ .malformed .null

theorem fromPayload_empty (room : Nat) : FromPayload room .empty := by
  intro k s hs
  cases k <;> cases hs

theorem fromPayload_of_ofJson? {room : Nat} {j : Json} {c : ClientConfig}
    (h : ofJson? room j = some c) (hfits : ∀ n ∈ j.numbers, n.Fits) : FromPayload room c := by
  intro k s hs
  rcases setting_of_ofJson? h k with hnone | ⟨part, hpart, hnumbers⟩
  · rw [hs] at hnone
    cases hnone
  · rw [hs] at hpart
    exact kept_of_settingOfJson? hpart fun n hn => hfits n (hnumbers n hn)

/-- **A configuration of a payload is read again as it is when it is sent on.** -/
theorem FromPayload.ofJson?_toValue {room : Nat} {c : ClientConfig} (h : FromPayload room c) :
    ofJson? room c.toValue.json = some c := by
  have hdepth : ∀ k, (Value.optional Setting.toValue (c.setting k)).json.depth ≤ room - 1 := by
    intro k
    cases hs : c.setting k with
    | none => exact Nat.zero_le _
    | some s => exact (h k s hs).2.1
  obtain ⟨d, hd, hsettings⟩ := ofJson?_written (fun k s hs => (h k s hs).1) hdepth
  have hsame : d = c := ext_setting fun k => (hsettings k).2 fun hnull => (h k _ hnull).2.2 rfl
  rw [hd, hsame]

end ClientConfig

/-! ## Sessions

A session is a user and a configuration.  Reading the bytes of the text that was written for it
goes through the JSON that the text says, and there part by part. -/

namespace Session

theorem config_of_ofBytes? {payload : ByteArray} {s : Session} (h : ofBytes? payload = some s) :
    s.config.FromPayload (deepest - 1) := by
  obtain ⟨j, hj, h⟩ := Option.bind_eq_some_iff.1 h
  obtain ⟨r, hr, h⟩ := Option.bind_eq_some_iff.1 h
  obtain ⟨user, -, h⟩ := Option.bind_eq_some_iff.1 h
  obtain ⟨config, hconfig, h⟩ := Option.bind_eq_some_iff.1 h
  cases h
  rw [Record.field?] at hconfig
  split at hconfig
  · cases hconfig
    exact ClientConfig.fromPayload_empty _
  · rename_i part hpart
    exact ClientConfig.fromPayload_of_ofJson? hconfig fun n hn =>
      Json.fits_of_ofBytes? hj n (Record.mem_numbers_of_get? hr hpart hn)

/-- What is written for a session is read as the session again. -/
theorem ofJson?_written {s : Session} (h : s.config.FromPayload (deepest - 1)) :
    ofJson? s.toValue.json = some s := by
  rw [toValue, ofJson?, Record.ofJson?_written (show shape.Proper by decide) rfl]
  simp [Record.required?, Record.field?, Record.get?, findEntry, User.restored.read_write,
    h.ofJson?_toValue]

/-- The integers of a session that was read have 64 bits. -/
theorem fits_of_mem_numbers {s : Session} (h : s.config.FromPayload (deepest - 1)) {n : Number}
    (hn : n ∈ s.toValue.numbers) : n.Fits := by
  obtain ⟨m, hm, hn⟩ := Value.mem_numbers_object.1 hn
  simp only [List.mem_cons, List.not_mem_nil, or_false] at hm
  rcases hm with rfl | rfl
  · exact (User.restored.isWord s.user n hn).fits
  · obtain ⟨k, t, ht, hn⟩ := ClientConfig.mem_numbers_toValue hn
    exact (h k t ht).1.fits n hn

/-- **A session that was read is read again as it is when it is sent on**, if the doubles in its
configuration are read back. -/
theorem ofBytes?_toValue {payload : ByteArray} {s : Session} (h : ofBytes? payload = some s)
    (hdoubles : ∀ x, .double x ∈ s.toValue.numbers → (Number.double x).ReadsBack) :
    ofBytes? s.toValue.text.toUTF8 = some s := by
  have hconfig := config_of_ofBytes? h
  have hnumbers : ∀ n ∈ s.toValue.numbers, n.ReadsBack := by
    intro n hn
    cases n with
    | double x => exact hdoubles x hn
    | integer m => exact Number.readsBack_integer (fits_of_mem_numbers hconfig hn)
  rw [ofBytes?, Json.ofBytes?_toUTF8, Json.ofText?_text hnumbers, Option.bind_some,
    ofJson?_written hconfig]

/-- A payload of arrays, with a permission that is given twice and one that is not known, and with
settings that are no lists. -/
theorem ofBytes?_toValue_of_arrays :
    let payload := "[[-9223372036854775808, \"A\\u00e4\", null, false, [\"pilot\", \"admin\",
      \"pilot\"], [2, 1]], [[60, 1.5], [[], 18446744073709551615, null]]]".toUTF8
    let x : Double := ⟨false, 6755399441055744, 1022, by decide⟩
    ∃ s, ofBytes? payload = some s ∧
      s.toValue.numbers = [.integer (-9223372036854775808), .integer 2, .integer 1, .integer 60,
        .double x, .integer 18446744073709551615] ∧
      (Number.double x).ReadsBack ∧ ofBytes? s.toValue.text.toUTF8 = some s := by
  intro payload x
  have hread : (match ofBytes? payload with
      | some s => decide (s.toValue.numbers = [.integer (-9223372036854775808), .integer 2,
          .integer 1, .integer 60, .double x, .integer 18446744073709551615])
      | none => false) = true := by decide +kernel
  split at hread
  · rename_i s hs
    have hnumbers := of_decide_eq_true hread
    have hx : (Number.double x).ReadsBack :=
      ⟨⟨false, ['1'], some ['5'], none⟩, by decide +kernel, by decide +kernel⟩
    refine ⟨s, hs, hnumbers, hx, ofBytes?_toValue hs fun y hy => ?_⟩
    rw [hnumbers] at hy
    have hy : y = x := by simpa using hy
    exact hy ▸ hx
  · cases hread

end Session
end QueryRights
