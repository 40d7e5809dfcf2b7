import QueryRights.Policy
import QueryRights.Proofs.Json.Records

/-!
# The two settings by name

A configuration treats its two settings alike: each has two spellings of its key, a stock list and
a getter, and each is read from what is given for it, whatever is given for the other.

The definitions that run spell both settings out, side by side.  To prove everything twice would be
tedious, and worse, it would hide the one thing that is worth knowing about the pair, that neither
has any influence on the other.  So this file gives the settings names.  `SettingName.pick`,
`setting` and `intervals?` choose between the two halves of what there is, and a statement about
"each setting" is then a statement about every `k : SettingName`.

The two readers are put into this form here, once for documents and once for payloads, and no later
proof unfolds either of them.  Both say the same: what is read for a setting depends on what is
given for it under any of its keys (`SettingName.given`), and the whole is refused for nothing but
one of the settings.  Entries under other keys count for nothing.  What is different is what a
reader makes of the value.  A document keeps everything that it can say, while a payload knows a
null that stands for a missing setting, and limits how deep a value may be nested.

## What is here

* `SettingName`, with `SettingName.keys` and `SettingName.given`: what entries give for a setting.
* `ClientConfig.setting`, `ClientConfig.intervals?` and `Answers.intervals?`: the parts of a
  configuration, its getters and those of policies, by name.
* `ClientConfig.ofTable?_eq_some_iff` and `ClientConfig.ofJson?_object_eq_some_iff`: a table or an
  object is refused for nothing but a setting of its own (given twice, or not kept), and each
  setting is read on its own.
-/

set_option autoImplicit false

namespace QueryRights

/-! ## Names and keys

The two spellings of a key are two names of one field.  No key is a name of both fields, so what is
given for the one setting and what is given for the other are parts of the entries that do not
meet. -/

/-- The two settings of a configuration. -/
inductive SettingName where
  | query
  | dashboard
  deriving DecidableEq

namespace SettingName

/-- The keys that a setting may be given under. -/
def keys : SettingName → List String
  | .query => ["queryRefreshIntervals", "query_refresh_intervals"]
  | .dashboard => ["dashboardRefreshIntervals", "dashboard_refresh_intervals"]

/-- The key that a setting is written under. -/
def key : SettingName → String
  | .query => "queryRefreshIntervals"
  | .dashboard => "dashboardRefreshIntervals"

/-- The list that a setting has unless it is given. -/
def stock : SettingName → Setting
  | .query => ClientConfig.stockQuerySetting
  | .dashboard => ClientConfig.stockDashboardSetting

/-- One of two things, the first for queries and the second for dashboards. -/
def pick {α : Type} (query dashboard : α) : SettingName → α
  | .query => query
  | .dashboard => dashboard

/-- What entries give for a setting under any of its keys, in their order. -/
def given {α : Type} (k : SettingName) (entries : List (String × α)) : List α :=
  entries.filterMap fun e => if e.1 ∈ k.keys then some e.2 else none

theorem fieldOf?_shape (key : String) :
    ClientConfig.shape.fieldOf? key =
      if key ∈ query.keys then some query.key
      else if key ∈ dashboard.keys then some dashboard.key
      else none := by
  have hquery : (decide ("queryRefreshIntervals" = key) ||
      ["query_refresh_intervals"].contains key) = decide (key ∈ query.keys) := by
    simp [keys, eq_comm]
  have hdashboard : (decide ("dashboardRefreshIntervals" = key) ||
      ["dashboard_refresh_intervals"].contains key) = decide (key ∈ dashboard.keys) := by
    simp [keys, eq_comm]
  simp only [Shape.fieldOf?, ClientConfig.shape, List.find?_cons, List.find?_nil, hquery,
    hdashboard]
  by_cases hq : key ∈ query.keys
  · simp only [hq, decide_true, if_true, Option.map_some]
    rfl
  · by_cases hd : key ∈ dashboard.keys
    · simp only [hq, hd, decide_false, decide_true, if_true, if_false, Option.map_some]
      rfl
    · simp only [hq, hd, decide_false, if_false, Option.map_none]

/-- No key stands for both settings. -/
theorem not_mem_keys_of_mem {k other : SettingName} {key : String} (h : key ∈ k.keys)
    (hne : other ≠ k) : key ∉ other.keys := by
  have hquery : ∀ key ∈ query.keys, key ∉ dashboard.keys := by decide
  have hdashboard : ∀ key ∈ dashboard.keys, key ∉ query.keys := by decide
  cases k <;> cases other
  · exact absurd rfl hne
  · exact hquery key h
  · exact hdashboard key h
  · exact absurd rfl hne

theorem fieldOf?_eq_some_key_iff (k : SettingName) (key : String) :
    ClientConfig.shape.fieldOf? key = some k.key ↔ key ∈ k.keys := by
  have hnames : query.key ≠ dashboard.key := by decide
  rw [fieldOf?_shape]
  by_cases hq : key ∈ query.keys
  · rw [if_pos hq]
    cases k
    · exact ⟨fun _ => hq, fun _ => rfl⟩
    · exact ⟨fun h => absurd (Option.some.inj h) hnames,
        fun h => absurd h (not_mem_keys_of_mem hq (by decide))⟩
  · rw [if_neg hq]
    by_cases hd : key ∈ dashboard.keys
    · rw [if_pos hd]
      cases k
      · exact ⟨fun h => absurd (Option.some.inj h).symm hnames, fun h => absurd h hq⟩
      · exact ⟨fun _ => hd, fun _ => rfl⟩
    · rw [if_neg hd]
      cases k
      · exact ⟨fun h => absurd h (by simp), fun h => absurd h hq⟩
      · exact ⟨fun h => absurd h (by simp), fun h => absurd h hd⟩

/-- What is given for the field of a setting is what is given for the setting. -/
theorem given_shape {α : Type} (k : SettingName) (entries : List (String × α)) :
    ClientConfig.shape.given k.key entries = k.given entries := by
  simp only [Shape.given, given, fieldOf?_eq_some_key_iff]

/-- For no other field is anything given. -/
theorem given_shape_of_ne {α : Type} {name : String} (h : ∀ k : SettingName, name ≠ k.key)
    (entries : List (String × α)) : ClientConfig.shape.given name entries = [] := by
  rw [Shape.given, List.filterMap_eq_nil_iff]
  intro e _
  refine if_neg fun hfield => ?_
  rw [fieldOf?_shape] at hfield
  split at hfield
  · exact h query (Option.some.inj hfield).symm
  · split at hfield
    · exact h dashboard (Option.some.inj hfield).symm
    · exact absurd hfield (by simp)

theorem forall_given_shape {α : Type} {entries : List (String × α)} :
    (∀ name, (ClientConfig.shape.given name entries).length ≤ 1) ↔
      ∀ k : SettingName, (k.given entries).length ≤ 1 := by
  constructor
  · intro h k
    rw [← given_shape]
    exact h k.key
  · intro h name
    by_cases hname : ∃ k : SettingName, name = k.key
    · obtain ⟨k, rfl⟩ := hname
      rw [given_shape]
      exact h k
    · rw [given_shape_of_ne fun k hk => hname ⟨k, hk⟩]
      exact Nat.zero_le 1

end SettingName

/-! ## Parts of a configuration

Two settings make up a configuration (`ext_setting`), and a getter sees of a setting whether it is
a list.  The default policy allows what the getters give. -/

namespace ClientConfig

/-- A setting of a configuration. -/
def setting (c : ClientConfig) : SettingName → Option Setting
  | .query => c.querySetting
  | .dashboard => c.dashboardSetting

/-- The intervals of a configuration for queries or for dashboards. -/
def intervals? (c : ClientConfig) : SettingName → Option (List Interval)
  | .query => c.queryIntervals?
  | .dashboard => c.dashboardIntervals?

theorem ext_setting {c d : ClientConfig} (h : ∀ k, c.setting k = d.setting k) : c = d := by
  obtain ⟨q, s⟩ := c
  obtain ⟨q', s'⟩ := d
  have hquery : q = q' := h .query
  have hdashboard : s = s' := h .dashboard
  rw [hquery, hdashboard]

theorem intervals?_eq (c : ClientConfig) (k : SettingName) :
    c.intervals? k = (c.setting k).bind Setting.list? := by
  cases k <;> rfl

/-- A getter gives a list exactly where the setting is one. -/
theorem intervals?_eq_some_iff {c : ClientConfig} {k : SettingName} {intervals : List Interval} :
    c.intervals? k = some intervals ↔ c.setting k = some (.list intervals) := by
  rw [intervals?_eq, Option.bind_eq_some_iff]
  constructor
  · rintro ⟨s, hs, hlist⟩
    cases s with
    | list xs =>
      cases hlist
      exact hs
    | malformed v => exact absurd hlist (by simp [Setting.list?])
  · intro h
    exact ⟨_, h, rfl⟩

end ClientConfig

/-- The intervals that a policy allows for queries or for dashboards. -/
def Answers.intervals? (a : Answers) : SettingName → Option (List Interval)
  | .query => a.queryIntervals?
  | .dashboard => a.dashboardIntervals?

/-- The default policy allows what is configured. -/
theorem Answers.intervals?_ofUser (u : Principal) (c : ClientConfig) (k : SettingName) :
    (Answers.ofUser u c).intervals? k = c.intervals? k := by
  cases k <;> rfl

/-! ## Readers

One equivalence for each reader.  Under which of its two keys a setting was given is forgotten
here, and with it the difference between giving it twice under one key and giving it under both. -/

namespace ClientConfig

/-- What is read for a setting is the first that is given for it. -/
theorem get?_known_key {α : Type} (k : SettingName) (entries : List (String × α)) :
    (Record.known shape entries).get?
        (k.pick "queryRefreshIntervals" "dashboardRefreshIntervals") =
      (k.given entries).head? := by
  rw [← SettingName.given_shape, ← Record.get?_known]
  cases k <;> rfl

/-- **A table is refused for nothing but a setting that is given twice, and each setting is read on
its own.** -/
theorem ofTable?_eq_some_iff {entries : List (String × Toml.Item)} {c : ClientConfig} :
    ofTable? entries = some c ↔
      (∀ k : SettingName, (k.given entries).length ≤ 1) ∧
        ∀ k : SettingName, c.setting k = (k.given entries).head?.map fun i => .ofValue i.value := by
  have hquery := get?_known_key .query entries
  have hdashboard := get?_known_key .dashboard entries
  simp only [SettingName.pick] at hquery hdashboard
  rw [ofTable?, Option.bind_eq_bind, Option.bind_eq_some_iff]
  simp only [Record.ofEntries?_eq_some_iff, SettingName.forall_given_shape]
  constructor
  · rintro ⟨r, ⟨honce, rfl⟩, h⟩
    cases h
    refine ⟨honce, fun k => ?_⟩
    cases k
    · exact congrArg (Option.map fun i => Setting.ofValue i.value) hquery
    · exact congrArg (Option.map fun i => Setting.ofValue i.value) hdashboard
  · rintro ⟨honce, h⟩
    refine ⟨_, ⟨honce, rfl⟩, ?_⟩
    rw [hquery, hdashboard, Option.pure_def, Option.some.injEq]
    refine ext_setting fun k => ?_
    rw [h k]
    cases k <;> rfl

/-- A table that gives each setting at most once is a configuration. -/
theorem exists_ofTable? {entries : List (String × Toml.Item)}
    (h : ∀ k : SettingName, (k.given entries).length ≤ 1) : ∃ c, ofTable? entries = some c := by
  let setting := fun k : SettingName =>
    (k.given entries).head?.map fun i : Toml.Item => Setting.ofValue i.value
  refine ⟨⟨setting .query, setting .dashboard⟩, ofTable?_eq_some_iff.2 ⟨h, fun k => ?_⟩⟩
  cases k <;> rfl

/-- What an object gives for a setting is read as a setting, or as none where it is null. -/
def settingOfJson? (room : Nat) : Json → Option (Option Setting) :=
  Json.optional? (Setting.ofJson? (room - 1))

/-- **An object is refused for nothing but a setting that is given twice or not kept, and each
setting is read on its own.** -/
theorem ofJson?_object_eq_some_iff {room : Nat} {members : List (Quoted × Json)}
    {entries : List (String × Json)} (hkeys : Record.keyed? members = some entries)
    {c : ClientConfig} :
    ofJson? room (.object members) = some c ↔
      (∀ k : SettingName, (k.given entries).length ≤ 1) ∧
        ∀ k : SettingName,
          (k.given entries).head?.elim (some none) (settingOfJson? room) = some (c.setting k) := by
  have hfield : ∀ k : SettingName,
      (Record.known shape entries).field?
          (k.pick "queryRefreshIntervals" "dashboardRefreshIntervals") (settingOfJson? room) none =
        (k.given entries).head?.elim (some none) (settingOfJson? room) := by
    intro k
    rw [Record.field?, get?_known_key]
    cases (k.given entries).head? <;> rfl
  have hquery := hfield .query
  have hdashboard := hfield .dashboard
  simp only [SettingName.pick] at hquery hdashboard
  rw [ofJson?, Option.bind_eq_bind, Option.bind_eq_some_iff]
  simp only [Record.ofJson?_object_eq_some_iff hkeys, SettingName.forall_given_shape]
  constructor
  · rintro ⟨r, ⟨honce, rfl⟩, h⟩
    obtain ⟨query, hq, h⟩ := Option.bind_eq_some_iff.1 h
    obtain ⟨dashboard, hd, h⟩ := Option.bind_eq_some_iff.1 h
    cases h
    refine ⟨honce, fun k => ?_⟩
    cases k
    · exact hquery ▸ hq
    · exact hdashboard ▸ hd
  · rintro ⟨honce, h⟩
    refine ⟨_, ⟨honce, rfl⟩, ?_⟩
    refine Option.bind_eq_some_iff.2 ⟨_, hquery.trans (h .query), ?_⟩
    refine Option.bind_eq_some_iff.2 ⟨_, hdashboard.trans (h .dashboard), rfl⟩

end ClientConfig
end QueryRights
