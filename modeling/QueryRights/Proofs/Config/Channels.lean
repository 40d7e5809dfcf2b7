import QueryRights.Proofs.Dialog.Options
import QueryRights.Proofs.Session.RoundTrip
import QueryRights.Proofs.Toml.Written

/-!
# One list through every channel

A list of intervals can be given for a setting in four ways: by the host, in a variable, in a file
and in the payload of a session.  Each has a reader of its own, and what they make of one and the
same list is one and the same setting.

For a given channel there are two questions, and this file answers both.  The first is what has to
arrive for the setting to be the list.  `Loader.Supplies` and `Session.Supplies` say that in the
terms of the channel: entries between commas, an item of the root table, an array in the
configuration of a payload.  The second is how somebody has to write it, so that this arrives.
`IntervalList.Spells`, `Toml.WritesItems` and `Session.written` describe texts, and a lemma for
each of them says that it supplies its list.  The first without the second would be hollow, for it
could be that nothing is ever supplied; the second without the first would only be about the texts
that were thought of.

The channels do not hold the same numbers.  A variable and a payload have all 64 bits, while the
integers of a document have a sign, so a list with a larger interval cannot be written in a file.
This is the one bound in the statement, and it is only asked of files.

A loader has more than one setting to load, and it fails as a whole if anything in it does.  So
what is said of one setting assumes that the file has no faults and that the variable of the
*other* setting is not wrong.  The variable of the setting itself is not mentioned there, since
giving a list includes that it is fine: even a list of the host is of no use beside a wrong
variable, because variables are read first.

Empty lists are included.  They are different from a missing list everywhere: where a policy has an
empty list no interval is allowed, and where it has none all of them are.

## What is here

* `IntervalList.Spells` and `IntervalList.parse_spelled`: the texts of a variable that spell a
  list.
* `Loader.Supplies` and `Session.Supplies`: a list is given for a setting, in each of the ways.
* `Loader.load_of_supplies` and `Session.ofBytes?_of_supplies`: such a list becomes the setting.
* `Loader.document_supplies` and `Session.written_supplies`: how files and payloads may be written.
* `ClientConfig.same_through_every_channel`: **the setting is the list, whichever way it came**.
-/

set_option autoImplicit false

namespace QueryRights

/-! ## Variables

A text that spells a list is read as the list, by the grammar of the variables.  There may be
blanks around the numbers, and commas with nothing between them, as somebody writes who builds the
text piece by piece. -/

namespace Text

theorem isBlank_of_isDigit {c : Char} (h : isDigit c = true) : isBlank c = false := by
  rw [isDigit, Bool.and_eq_true, Nat.ble_eq, Nat.ble_eq] at h
  rw [isBlank, Ranges.covers, List.any_eq_false]
  have hranges : ∀ r ∈ blankRanges, r.2 < 0x30 ∨ 0x39 < r.1 := by decide
  intro r hr
  have hrange := hranges r hr
  rw [Bool.and_eq_true, Nat.ble_eq, Nat.ble_eq]
  omega

/-- Nothing is left of a blank part. -/
theorem trimmed_nil {part : List Char} (h : ∀ c ∈ part, isBlank c = true) :
    Trimmed part [] where
  around := ⟨part, [], by simp, h, List.forall_mem_nil _⟩
  front := nofun
  back := nofun

/-- Of a number with blanks around it the digits are left. -/
theorem trimmed_toDigits {before after : List Char} (n : Nat)
    (hbefore : ∀ c ∈ before, isBlank c = true) (hafter : ∀ c ∈ after, isBlank c = true) :
    Trimmed (before ++ Nat.toDigits 10 n ++ after) (Nat.toDigits 10 n) where
  around := ⟨before, after, rfl, hbefore, hafter⟩
  front := fun _ hc => isBlank_of_isDigit (isDigit_of_mem_toDigits (List.mem_of_mem_head? hc))
  back := fun _ hc =>
    isBlank_of_isDigit (isDigit_of_mem_toDigits (List.mem_of_mem_getLast? hc))

end Text

namespace IntervalList

/-- Parts between commas that spell a list: the decimal digits of one interval after the other,
with blanks around them, and parts in between that are blank. -/
inductive Spells : List (List Char) → List Interval → Prop where
  | nil : Spells [] []
  | blank {part : List Char} {parts : List (List Char)} {is : List Interval}
      (blanks : ∀ c ∈ part, Text.isBlank c = true) (others : Spells parts is) :
      Spells (part :: parts) is
  | number {before after : List Char} {parts : List (List Char)} {is : List Interval}
      (i : Interval) (blanks : ∀ c ∈ before, Text.isBlank c = true)
      (blanks' : ∀ c ∈ after, Text.isBlank c = true) (others : Spells parts is) :
      Spells ((before ++ Nat.toDigits 10 i.seconds.toNat ++ after) :: parts) (i :: is)

theorem denotes_toDigits (i : Interval) :
    Denotes (Nat.toDigits 10 i.seconds.toNat) i.seconds.toNat :=
  ⟨_, .inl rfl, Nat.toDigits_ne_nil, fun _ => Text.isDigit_of_mem_toDigits,
    Text.valueOf_toDigits _, i.seconds.toNat_lt⟩

theorem Spells.noComma {parts : List (List Char)} {is : List Interval} (h : Spells parts is) :
    ∀ p ∈ parts, ',' ∉ p := by
  have hblank : ∀ p : List Char, (∀ c ∈ p, Text.isBlank c = true) → ',' ∉ p := fun p hp hmem =>
    absurd (hp ',' hmem) (by decide)
  induction h with
  | nil => exact List.forall_mem_nil _
  | blank hblanks _ ih => exact List.forall_mem_cons.2 ⟨hblank _ hblanks, ih⟩
  | @number before after _ _ i hbefore hafter _ ih =>
    refine List.forall_mem_cons.2 ⟨fun hmem => ?_, ih⟩
    rcases List.mem_append.1 hmem with hmem | hmem
    · rcases List.mem_append.1 hmem with hmem | hmem
      · exact hblank before hbefore hmem
      · exact absurd (Text.isDigit_of_mem_toDigits hmem) (by decide)
    · exact hblank after hafter hmem

/-- The entries of parts that spell a list denote its intervals. -/
theorem Spells.denotes {parts : List (List Char)} {is : List Interval} (h : Spells parts is) :
    List.Forall₂ (fun e (i : Interval) => Denotes e i.seconds.toNat)
      ((parts.map Text.trim).filter fun e => !e.isEmpty) is := by
  induction h with
  | nil => exact .nil
  | blank hblanks _ ih =>
    rw [List.map_cons, Text.trim_of_trimmed (Text.trimmed_nil hblanks)]
    exact ih
  | number i hbefore hafter _ ih =>
    rw [List.map_cons, Text.trim_of_trimmed (Text.trimmed_toDigits _ hbefore hafter),
      List.filter_cons_of_pos (by simp [Nat.toDigits_ne_nil])]
    exact .cons (denotes_toDigits i) ih

/-- **A text that spells a list is read as the list.** -/
theorem parse_spelled {parts : List (List Char)} {is : List Interval} (h : Spells parts is) :
    parse (String.ofList ([','].intercalate parts)) = .ok is := by
  rw [parse, String.toList_ofList, ofEntries_eq_ok_iff]
  by_cases hparts : parts = []
  · subst hparts
    cases h
    exact .nil
  · have hpieces : parts = pieces ([','].intercalate parts) :=
      separated_iff.1 ⟨hparts, rfl, h.noComma⟩
    rw [entries, ← hpieces]
    exact h.denotes

end IntervalList

/-! ## Host, variable and file

The three layers of a loader in one predicate.  Each constructor says that the layers above it are
silent, so that the setting is settled by `Layered.unique`. -/

namespace Loader

/-- A list is given for a setting: by the host, where the variable may be anything but wrong; in
the variable, without a list of the host; or in the file, without either of these. -/
inductive Supplies (l : Loader) (file : Option FileContent) (env : Environment)
    (query dashboard : Option (List Interval)) (k : SettingName) (is : List Interval) : Prop where
  | host (given : k.pick query dashboard = some is)
      (variableFine : ∀ failure, ¬ l.VariableFault env k failure)
  | environment {parts : List (List Char)} (noHost : k.pick query dashboard = none)
      (given : l.envText? env k = some (String.ofList ([','].intercalate parts)))
      (spelled : IntervalList.Spells parts is)
  | file {i : Toml.Item} (noHost : k.pick query dashboard = none)
      (noVariable : l.envText? env k = none) (given : k.given (rootTable file) = [i])
      (lists : i.Lists is)

variable {l : Loader} {file : Option FileContent} {env : Environment}
  {query dashboard : Option (List Interval)} {k : SettingName} {is : List Interval}

/-- The variable of a setting that a list is given for is never wrong. -/
theorem Supplies.variableFine (h : l.Supplies file env query dashboard k is) (failure : Failure) :
    ¬ l.VariableFault env k failure := by
  rintro ⟨text, htext, hparse⟩
  cases h with
  | host _ hfine => exact hfine failure ⟨text, htext, hparse⟩
  | environment _ hgiven hspelled =>
    cases hgiven.symm.trans htext
    rw [IntervalList.parse_spelled hspelled] at hparse
    cases hparse
  | file _ hnone _ _ =>
    rw [hnone] at htext
    cases htext

/-- The layers of a setting that a list is given for make it the list. -/
theorem Supplies.eq_list (h : l.Supplies file env query dashboard k is) {s : Setting}
    (hlayered : Layered k.stock (k.pick query dashboard) (l.envText? env k)
      (k.given (rootTable file)) s) : s = .list is := by
  cases h with
  | host hgiven _ => exact hlayered.unique (.host hgiven)
  | environment hhost hgiven hspelled =>
    exact hlayered.unique (.environment hhost hgiven (IntervalList.parse_spelled hspelled))
  | @file i hhost hnone hgiven hlists =>
    have hformed : i.WellFormed := wellFormed_of_given (hgiven ▸ List.mem_singleton_self i)
    rw [hlayered.unique (.file hhost hnone hgiven)]
    exact Setting.ofValue_eq_list_iff.2 (hformed.value_eq_list_iff.2 hlists)

/-- **A list that is given for a setting is what the setting is loaded as**, if the file and the
other variable are not wrong. -/
theorem load_of_supplies (h : l.Supplies file env query dashboard k is)
    (hfile : ∀ fault, ¬ FileFault file fault)
    (hother : ∀ k' ≠ k, ∀ failure, ¬ l.VariableFault env k' failure) :
    ∃ c, l.load file env query dashboard = .ok c ∧ c.setting k = some (.list is) := by
  have hvariables : ∀ k' failure, ¬ l.VariableFault env k' failure := by
    intro k' failure
    by_cases hk : k' = k
    · rw [hk]
      exact h.variableFine failure
    · exact hother k' hk failure
  have hfine : ∀ failure, ¬ l.FirstFailure file env failure := fun failure hfirst => by
    rcases exists_firstFailure_iff.1 ⟨failure, hfirst⟩ with ⟨fault, hfault⟩ | ⟨k', _, hfault⟩
    · exact hfile fault hfault
    · exact hvariables k' _ hfault
  obtain ⟨c, hc, hsettings⟩ := load_of_fine hfine query dashboard
  obtain ⟨s, hs, hlayered⟩ := hsettings k
  exact ⟨c, hc, by rw [hs, h.eq_list hlayered]⟩

end Loader

/-- The bytes of a text are read as the text. -/
theorem FileContent.text?_toUTF8 (text : String) : (bytes text.toUTF8).text? = some text := by
  rw [FileContent.text?, String.fromUTF8?, String.toUTF8_eq_toByteArray, dif_pos text.isValidUTF8]
  rfl

theorem SettingName.isBare_of_mem_keys {k : SettingName} {key : String} (h : key ∈ k.keys) :
    key ≠ "" ∧ ∀ c ∈ key.toList, Toml.isBare c = true := by
  have hall : ∀ key ∈ k.keys, key ≠ "" ∧ key.toList.all Toml.isBare = true := by
    cases k <;> decide
  exact (hall key h).imp_right List.all_eq_true.1

theorem SettingName.given_singleton {α : Type} {k : SettingName} {key : String} (h : key ∈ k.keys)
    (a : α) : k.given [(key, a)] = [a] ∧ ∀ k' ≠ k, k'.given [(key, a)] = [] := by
  refine ⟨by simp [given, h], fun k' hk => ?_⟩
  simp [given, not_mem_keys_of_mem h hk]

/-- **A file with an array under a key of a setting has no faults and gives the list**, if 63 bits
hold every interval of it. -/
theorem Loader.document_supplies {k : SettingName} {is : List Interval} {key : String}
    (hkey : key ∈ k.keys) {s : List Char}
    (hs : Toml.WritesItems s (is.map fun i => i.seconds.toNat))
    (hfits : ∀ i ∈ is, i.seconds.toNat < Word.signedLimit) :
    let file := some (FileContent.bytes (key ++ " = [" ++ String.ofList s).toUTF8)
    (∀ fault, ¬ FileFault file fault) ∧
      ∃ i : Toml.Item, k.given (rootTable file) = [i] ∧ i.Lists is := by
  intro file
  let i : Toml.Item := .array (is.map fun x => .integer x.seconds.toNat)
  have htext := FileContent.text?_toUTF8 (key ++ " = [" ++ String.ofList s)
  have hdocument : Toml.Document.ofText? (key ++ " = [" ++ String.ofList s) = some [(key, i)] := by
    obtain ⟨hne, hbare⟩ := SettingName.isBare_of_mem_keys hkey
    rw [Toml.Document.ofText?_written hne hbare hs (List.forall_mem_map.2 hfits), List.map_map]
    rfl
  obtain ⟨hgiven, hothers⟩ := SettingName.given_singleton hkey i
  refine ⟨fun fault hfault => ?_, i, ?_, rfl, hfits⟩
  · obtain ⟨k', hk'⟩ := (exists_fileFault_iff htext hdocument).1 ⟨fault, hfault⟩
    by_cases hk : k' = k
    · rw [hk, hgiven] at hk'
      exact absurd hk' (by simp)
    · rw [hothers k' hk] at hk'
      exact absurd hk' (by simp)
  · rw [rootTable_some htext hdocument, hgiven]

/-! ## Payloads

A payload gives the list as an array in the object of its configuration, under either key.  Nothing
is asked of the rest of the payload, but that it can be read. -/

namespace Session

/-- A payload describes a user, and its configuration is an object with an array of the intervals
under one of the keys of a setting; what it gives for the other setting can be read. -/
inductive Supplies (payload : ByteArray) (u : User) (k : SettingName) (is : List Interval) :
    Prop where
  | intro {j user array : Json} {r : Record Json} {members : List (Quoted × Json)}
      {entries : List (String × Json)} (text : Json.ofBytes? payload = some j)
      (record : Record.ofJson? shape j = some r) (userGiven : r.get? "user" = some user)
      (userRead : User.ofJson? user = some u)
      (configGiven : r.get? "client_config" = some (.object members))
      (keys : Record.keyed? members = some entries) (given : k.given entries = [array])
      (lists : array.Lists is)
      (otherRead : ∀ k' ≠ k, (k'.given entries).length ≤ 1 ∧
        ∀ o ∈ k'.given entries, o.Readable (deepest - 2)) : Supplies payload u k is

variable {payload : ByteArray} {u : User} {k : SettingName} {is : List Interval}

theorem readable_of_lists {j : Json} (h : j.Lists is) : j.Readable (deepest - 2) := by
  refine ⟨?_, _, Json.value?_eq_list_iff.2 h⟩
  have hparts : ∀ i ∈ is, (Json.number (some (.integer i.seconds.toNat))).depth ≤ 0 :=
    fun i _ => Nat.le_refl 0
  rw [h, Json.depth]
  exact Nat.le_trans (Nat.succ_le_succ (Json.depthOfItems_le_iff.2 (List.forall_mem_map.2 hparts)))
    (by decide)

/-- **A list that a payload gives for a setting is what the setting is read as.** -/
theorem ofBytes?_of_supplies (h : Supplies payload u k is) :
    ∃ c, ofBytes? payload = some ⟨u, c⟩ ∧ c.setting k = some (.list is) := by
  obtain @⟨j, user, array, r, members, entries, htext, hrecord, huser, hread, hconfig, hkeys,
    hgiven, hlists, hother⟩ := h
  have hsettings : ∀ k' : SettingName, (k'.given entries).length ≤ 1 ∧
      ∀ o ∈ k'.given entries, o.Readable (deepest - 1 - 1) := by
    intro k'
    by_cases hk : k' = k
    · rw [hk, hgiven]
      exact ⟨Nat.le_refl 1, fun o ho => List.mem_singleton.1 ho ▸ readable_of_lists hlists⟩
    · exact hother k' hk
  obtain ⟨c, hc⟩ := (ClientConfig.exists_ofJson?_object hkeys).2 hsettings
  refine ⟨c, ?_, ?_⟩
  · rw [ofBytes?, htext, Option.bind_some, ofJson?, hrecord]
    simp [Record.required?, Record.field?, huser, hread, hconfig, hc]
  · have hvalue := Json.value?_eq_list_iff.2 hlists
    have hclass := (ClientConfig.classified_of_ofJson? hkeys hc k).2 array _ hgiven hvalue
    exact (hclass.list is).2 hlists

/-- A payload for a user and one setting. -/
def written (u : User) (key : String) (is : List Interval) : Value :=
  .object [("user", u.toValue), ("client_config", .object [(key, .list Interval.toValue is)])]

theorem readsBack_of_mem_numbers {key : String} {n : Number} (h : n ∈ (written u key is).numbers) :
    n.ReadsBack := by
  obtain ⟨m, hm, hn⟩ := Value.mem_numbers_object.1 h
  simp only [List.mem_cons, List.not_mem_nil, or_false] at hm
  rcases hm with rfl | rfl
  · exact (User.restored.isWord u n hn).readsBack
  · obtain ⟨m, hm, hn⟩ := Value.mem_numbers_object.1 hn
    rw [List.mem_singleton.1 hm] at hn
    exact (Interval.isWord_of_mem_numbers hn).readsBack

/-- **A payload that is written with a list under a key of a setting gives the list.** -/
theorem written_supplies {key : String} (hkey : key ∈ k.keys) (u : User) (is : List Interval) :
    Supplies (written u key is).text.toUTF8 u k is := by
  have htext : Json.ofBytes? (written u key is).text.toUTF8 = some (written u key is).json := by
    rw [Json.ofBytes?_toUTF8, Json.ofText?_text fun n hn => readsBack_of_mem_numbers hn]
  have hrecord : Record.ofJson? shape (written u key is).json = some [("user", u.toValue.json),
      ("client_config", (Value.object [(key, .list Interval.toValue is)]).json)] := by
    rw [written, Record.ofJson?_written (show shape.Proper by decide) rfl]
    rfl
  have hkeys := Record.keyed?_jsonOfMembers [(key, Value.list Interval.toValue is)]
  have hlists : (Value.list Interval.toValue is).json.Lists is :=
    Json.value?_eq_list_iff.1 (Value.value?_json (Setting.kept_list is).sorted)
  obtain ⟨hgiven, hothers⟩ :=
    SettingName.given_singleton hkey (Value.list Interval.toValue is).json
  refine .intro htext hrecord rfl (User.restored.read_write u) rfl hkeys hgiven hlists ?_
  intro k' hk
  have hnone := hothers k' hk
  rw [List.map_singleton, hnone]
  exact ⟨Nat.zero_le 1, List.forall_mem_nil _⟩

end Session

/-! ## Getters

The last step: a setting that is the list is what the getters give, what the default policy allows,
and what is offered for a query. -/

/-- What the getters give for a setting that is a list. -/
theorem ClientConfig.answers_of_list {c : ClientConfig} {k : SettingName} {is : List Interval}
    (h : c.setting k = some (.list is)) (u : Principal) :
    c.intervals? k = some is ∧
      (Context.ofUser u c).policy.answers.intervals? k = some is ∧
      (k = .query → refreshOptions c (Context.ofUser u c).policy.answers = is.eraseDups) := by
  have hgetter := ClientConfig.intervals?_eq_some_iff.2 h
  have hpolicy : (Context.ofUser u c).policy.answers.intervals? k = some is := by
    rw [← hgetter]
    exact Answers.intervals?_ofUser u c k
  refine ⟨hgetter, hpolicy, ?_⟩
  rintro rfl
  have hquery : c.queryIntervals? = some is := hgetter
  have hallowed : (Context.ofUser u c).policy.answers.queryIntervals? = some is := hpolicy
  rw [refreshOptions, hquery, hallowed]
  exact allowedOnce_self is

namespace ClientConfig

/-- **A list that is given for a setting becomes the setting as it is, whichever way it is given.**
The host, the variable and the file of a loader make it the setting unless something else in the
file or the other variable is wrong, and so does the payload of a session.  A text of a variable
spells the list by its decimal numbers with commas between them, blanks around them and blank parts
in between; a file may write it as an array of decimal numbers if 63 bits hold each, and a payload
as any array.  The getters of the configuration and of the default policy then give the list, and
the intervals offered for a query are those of the list without repetitions. -/
theorem same_through_every_channel (k : SettingName) (is : List Interval) :
    (∀ (l : Loader) file env query dashboard, l.Supplies file env query dashboard k is →
      (∀ fault, ¬ FileFault file fault) →
      (∀ k' ≠ k, ∀ failure, ¬ l.VariableFault env k' failure) →
      ∃ c, l.load file env query dashboard = .ok c ∧ c.setting k = some (.list is)) ∧
    (∀ key ∈ k.keys, ∀ s, Toml.WritesItems s (is.map fun i => i.seconds.toNat) →
      (∀ i ∈ is, i.seconds.toNat < Word.signedLimit) →
      let file := some (FileContent.bytes (key ++ " = [" ++ String.ofList s).toUTF8)
      (∀ fault, ¬ FileFault file fault) ∧
        ∃ i : Toml.Item, k.given (rootTable file) = [i] ∧ i.Lists is) ∧
    (∀ payload u, Session.Supplies payload u k is →
      ∃ c, Session.ofBytes? payload = some ⟨u, c⟩ ∧ c.setting k = some (.list is)) ∧
    (∀ key ∈ k.keys, ∀ u,
      Session.Supplies (Session.written u key is).text.toUTF8 u k is) ∧
    ∀ c : ClientConfig, c.setting k = some (.list is) → ∀ u : Principal,
      c.intervals? k = some is ∧
        (Context.ofUser u c).policy.answers.intervals? k = some is ∧
        (k = .query → refreshOptions c (Context.ofUser u c).policy.answers = is.eraseDups) :=
  ⟨fun _ _ _ _ _ h => Loader.load_of_supplies h, fun _ hkey _ => Loader.document_supplies hkey,
    fun _ _ => Session.ofBytes?_of_supplies, fun _ hkey u => Session.written_supplies hkey u is,
    fun _ => answers_of_list⟩

/-- One list with a repetition, from a variable with blanks and blank parts, from a file that goes
over two lines, and from a payload. -/
theorem same_through_variable_file_and_payload :
    let is : List Interval := [⟨60⟩, ⟨9223372036854775807⟩, ⟨60⟩]
    let env : Environment := fun name =>
      if name = "QUERY_POLICY_QUERY_REFRESH_INTERVALS" then
        some ",\t60 , ,9223372036854775807,60,".toUTF8
      else none
    let file := FileContent.bytes
      "query_refresh_intervals = [60, 9223372036854775807,\n  60,]".toUTF8
    let payload := (Session.written .admin "queryRefreshIntervals" is).text.toUTF8
    (∃ c, Loader.load .standard none env none none = .ok c ∧
      c.setting .query = some (.list is)) ∧
    (∃ c, Loader.load .standard (some file) (fun _ => none) none (some []) = .ok c ∧
      c.setting .query = some (.list is)) ∧
    ∃ c, Session.ofBytes? payload = some ⟨.admin, c⟩ ∧ c.setting .query = some (.list is) ∧
      refreshOptions c (Context.ofUser User.admin.principal c).policy.answers =
        [⟨60⟩, ⟨9223372036854775807⟩] := by
  intro is env file payload
  obtain ⟨hload, hfile, hpayload, hwritten, hanswers⟩ := same_through_every_channel .query is
  have hnone : ∀ fault, ¬ FileFault none fault := by nofun
  have hother : ∀ env : Environment, env "QUERY_POLICY_DASHBOARD_REFRESH_INTERVALS" = none →
      ∀ k ≠ SettingName.query, ∀ failure, ¬ Loader.standard.VariableFault env k failure := by
    rintro env henv (_ | _) hk failure ⟨text, htext, -⟩
    · exact hk rfl
    · have hunset : Loader.standard.envText? env .dashboard = none := by
        show (env "QUERY_POLICY_DASHBOARD_REFRESH_INTERVALS").bind _ = none
        rw [henv]
        rfl
      rw [hunset] at htext
      cases htext
  have hblank : ∀ s : List Char, s.all Text.isBlank = true → ∀ c ∈ s, Text.isBlank c = true :=
    fun _ => List.all_eq_true.1
  have hspelled : IntervalList.Spells
      [[], ['\t'] ++ Nat.toDigits 10 60 ++ [' '], [' '],
        [] ++ Nat.toDigits 10 9223372036854775807 ++ [], [] ++ Nat.toDigits 10 60 ++ [], []] is :=
    .blank (hblank _ (by decide)) <| .number ⟨60⟩ (hblank _ (by decide)) (hblank _ (by decide)) <|
      .blank (hblank _ (by decide)) <|
        .number ⟨9223372036854775807⟩ (hblank _ (by decide)) (hblank _ (by decide)) <|
          .number ⟨60⟩ (hblank _ (by decide)) (hblank _ (by decide)) <|
            .blank (hblank _ (by decide)) .nil
  have hitems : Toml.WritesItems
      ([] ++ (Nat.toDigits 10 60 ++ ([] ++ ',' ::
        ([' '] ++ (Nat.toDigits 10 9223372036854775807 ++ ([] ++ ',' ::
          (['\n', ' ', ' '] ++ (Nat.toDigits 10 60 ++ ([] ++ ',' :: ([] ++ [']']))))))))))
      [60, 9223372036854775807, 60] := by
    have hspacing : ∀ s : List Char, s.all [' ', '\t', '\n'].contains = true → Toml.Spacing s :=
      fun s h c hc => List.contains_iff_mem.1 (List.all_eq_true.1 h c hc)
    exact .more 60 (hspacing _ (by decide)) (hspacing _ (by decide)) <|
      .more 9223372036854775807 (hspacing _ (by decide)) (hspacing _ (by decide)) <|
        .more 60 (hspacing _ (by decide)) (hspacing _ (by decide)) <|
          .close (hspacing _ (by decide))
  refine ⟨hload .standard none env none none (.environment rfl rfl hspelled) hnone (hother env rfl),
    ?_, ?_⟩
  · obtain ⟨hfine, i, hgiven, hlists⟩ :=
      hfile "query_refresh_intervals" (by decide) _ hitems (by decide)
    exact hload .standard _ _ none (some []) (.file rfl rfl hgiven hlists) hfine
      (hother (fun _ => none) rfl)
  · obtain ⟨c, hc, hsetting⟩ := hpayload payload .admin (hwritten _ (by decide) .admin)
    refine ⟨c, hc, hsetting, ?_⟩
    rw [(hanswers c hsetting _).2.2 rfl]
    rfl

end ClientConfig
end QueryRights
