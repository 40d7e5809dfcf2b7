import QueryRights.Config.Loader
import QueryRights.Proofs.Config.Grammar
import QueryRights.Proofs.Config.Settings

/-!
# Layers of a loaded configuration

A configuration is loaded from four layers, and each of its settings comes from the last layer that
has something for it.  Two of the layers can fail, the file and the variables, and they are read
before it is known what they are needed for: a variable that holds no list of intervals is a
failure also where the host gives a list in its place.

There are two questions, then, and they are kept apart.

* **Does it fail, and with what?** `FileFault` and `Loader.VariableFault` say what can be wrong,
  each of one layer alone.  Several things can be wrong at once, and `Loader.FirstFailure` says
  which of them is reported: the file first, then the variable for queries, then the one for
  dashboards.  Its constructors ask for everything before them to be fine, so at most one of them
  applies.
* **If not, what is loaded?** `Layered` describes one setting by its own four layers.  Nothing in
  it mentions the other setting or any other variable, so that independence needs no proof of its
  own; it remains to be shown that `Loader.load` gives what `Layered` says, and that `Layered`
  leaves no choice (`Layered.unique`).

A variable that is set to something that is no text counts as not being set.  A file is read
differently: bytes that are no text make it unreadable, which is a failure, as is a document with a
setting given twice.  But a setting of the wrong kind is no fault of a file.  It is kept as it was
found and ends up in the configuration as malformed, which is the business of
`QueryRights.Proofs.Config.Classified`.

The layer below the others, the stock lists, has something for every setting.  A loaded
configuration therefore has both settings, in contrast to one that was read from a payload.

## What is here

* `FileFault`, `Loader.VariableFault` and `Loader.FirstFailure`: what can go wrong, and what is
  reported if several things do.
* `Layered`: what a setting is, in terms of nothing but its own layers.
* `Loader.load_of_firstFailure` and `Loader.load_of_fine`: the two ways in which loading ends, and
  `Loader.load_eq_error_iff`, `Loader.load_eq_ok_iff`: when it ends in either way.
* `Loader.load_layers`: **loading fails with the first failure, and otherwise gives each setting
  from its own layers**.
-/

set_option autoImplicit false

namespace QueryRights

/-! ## What the system gives

The vocabulary.  A file may be missing, unreadable, no text, no document, or a document; a variable
may be missing, no text, or a text.  All that loading does depends on these. -/

/-- The text of a file, if it can be read as one. -/
def FileContent.text? : FileContent → Option String
  | .unreadable => none
  | .bytes content => String.fromUTF8? content

/-- The root table of the document in a file; without a document nothing is given. -/
def rootTable (file : Option FileContent) : List (String × Toml.Item) :=
  ((file.bind FileContent.text?).bind Toml.Document.ofText?).getD []

theorem rootTable_some {f : FileContent} {text : String} {entries : List (String × Toml.Item)}
    (htext : f.text? = some text) (hentries : Toml.Document.ofText? text = some entries) :
    rootTable (some f) = entries := by
  rw [rootTable, Option.bind_some, htext, Option.bind_some, hentries, Option.getD_some]

/-- A file is given that holds no configuration. -/
inductive FileFault (file : Option FileContent) : ConfigFault → Prop where
  | noText {f : FileContent} (isGiven : file = some f) (unreadable : f.text? = none) :
      FileFault file .unreadableFile
  | noDocument {f : FileContent} {text : String} (isGiven : file = some f)
      (read : f.text? = some text) (malformed : Toml.Document.ofText? text = none) :
      FileFault file .malformedFile
  | twice {f : FileContent} {text : String} {entries : List (String × Toml.Item)}
      {k : SettingName} (isGiven : file = some f) (read : f.text? = some text)
      (document : Toml.Document.ofText? text = some entries)
      (repeated : 1 < (k.given entries).length) :
      FileFault file .malformedFile

namespace Loader

/-- The environment variable for a setting. -/
def variableName (l : Loader) : SettingName → String
  | .query => l.queryVariable
  | .dashboard => l.dashboardVariable

/-- The text that the variable for a setting is set to, if it is set to a text. -/
def envText? (l : Loader) (env : Environment) (k : SettingName) : Option String :=
  (env (l.variableName k)).bind String.fromUTF8?

/-- The variable for a setting is set to a text that is no list of intervals. -/
def VariableFault (l : Loader) (env : Environment) (k : SettingName) (failure : Failure) : Prop :=
  ∃ text, l.envText? env k = some text ∧ IntervalList.parse text = .error failure

/-- The first failure in the order file, variable for queries, variable for dashboards. -/
inductive FirstFailure (l : Loader) (file : Option FileContent) (env : Environment) :
    Failure → Prop where
  | file {fault : ConfigFault} (first : FileFault file fault) :
      FirstFailure l file env (.config fault)
  | query {failure : Failure} (fileFine : ∀ fault, ¬ FileFault file fault)
      (first : l.VariableFault env .query failure) : FirstFailure l file env failure
  | dashboard {failure : Failure} (fileFine : ∀ fault, ¬ FileFault file fault)
      (queryFine : ∀ failure, ¬ l.VariableFault env .query failure)
      (first : l.VariableFault env .dashboard failure) : FirstFailure l file env failure

end Loader

/-- What a setting is: a list of the host, else the list in the text of its variable, else what the
file gives for it, else the stock list. -/
inductive Layered (stock : Setting) (host : Option (List Interval)) (envText : Option String)
    (given : List Toml.Item) : Setting → Prop where
  | host {intervals : List Interval} (ofHost : host = some intervals) :
      Layered stock host envText given (.list intervals)
  | environment {text : String} {intervals : List Interval} (noHost : host = none)
      (ofVariable : envText = some text) (parsed : IntervalList.parse text = .ok intervals) :
      Layered stock host envText given (.list intervals)
  | file {i : Toml.Item} (noHost : host = none) (noVariable : envText = none)
      (ofFile : given = [i]) : Layered stock host envText given (.ofValue i.value)
  | stock (noHost : host = none) (noVariable : envText = none) (noFile : given = []) :
      Layered stock host envText given stock

/-- The layers leave no choice. -/
theorem Layered.unique {stock : Setting} {host : Option (List Interval)}
    {envText : Option String} {given : List Toml.Item} {s t : Setting}
    (hs : Layered stock host envText given s) (ht : Layered stock host envText given t) :
    s = t := by
  cases hs <;> cases ht <;> simp_all

/-! ## The layers that can fail

For each of the two layers one lemma says that a fault is reported, and another one what is read
where there is none.  Behind this section neither the reader of files nor that of variables is
unfolded again. -/

namespace Loader

/-- A file is read as a text, then as a document, then as a configuration. -/
theorem readFile_some (f : FileContent) :
    readFile (some f) =
      match f.text? with
      | none => .error (.config .unreadableFile)
      | some text =>
        match (Toml.Document.ofText? text).bind ClientConfig.ofTable? with
        | none => .error (.config .malformedFile)
        | some c => .ok c := by
  cases f <;> rfl

theorem readFile_of_fault {file : Option FileContent} {fault : ConfigFault}
    (h : FileFault file fault) : readFile file = .error (.config fault) := by
  cases h with
  | noText hgiven htext => rw [hgiven, readFile_some, htext]
  | noDocument hgiven htext hdocument =>
    rw [hgiven, readFile_some, htext]
    simp only [hdocument, Option.bind_none]
  | @twice f text entries k hgiven htext hdocument htwice =>
    have htable : ClientConfig.ofTable? entries = none := by
      refine Option.eq_none_iff_forall_ne_some.2 fun c hc => ?_
      have honce := (ClientConfig.ofTable?_eq_some_iff.1 hc).1 k
      omega
    rw [hgiven, readFile_some, htext]
    simp only [hdocument, Option.bind_some, htable]

/-- A file without faults gives each setting at most once, and the settings are what it gives. -/
theorem readFile_of_fine {file : Option FileContent} (h : ∀ fault, ¬ FileFault file fault) :
    ∃ c, readFile file = .ok c ∧
      ∀ k : SettingName, (k.given (rootTable file)).length ≤ 1 ∧
        c.setting k = (k.given (rootTable file)).head?.map fun i => .ofValue i.value := by
  cases file with
  | none => exact ⟨_, rfl, fun k => by cases k <;> exact ⟨Nat.zero_le 1, rfl⟩⟩
  | some f =>
    obtain ⟨text, htext⟩ : ∃ text, f.text? = some text :=
      Option.ne_none_iff_exists'.1 fun hnone => h _ (.noText rfl hnone)
    obtain ⟨entries, hentries⟩ : ∃ entries, Toml.Document.ofText? text = some entries :=
      Option.ne_none_iff_exists'.1 fun hnone => h _ (.noDocument rfl htext hnone)
    have honce : ∀ k : SettingName, (k.given entries).length ≤ 1 := fun k =>
      Nat.le_of_not_lt fun hlt => h _ (.twice rfl htext hentries hlt)
    obtain ⟨c, hc⟩ := ClientConfig.exists_ofTable? honce
    refine ⟨c, ?_, ?_⟩
    · rw [readFile_some, htext]
      simp only [hentries, Option.bind_some, hc]
    · rw [rootTable_some htext hentries]
      exact fun k => ⟨honce k, (ClientConfig.ofTable?_eq_some_iff.1 hc).2 k⟩

/-- A variable is read if it is set to a text. -/
theorem readVariable_eq (l : Loader) (env : Environment) (k : SettingName) :
    readVariable env (l.variableName k) =
      match l.envText? env k with
      | none => .ok none
      | some text => (IntervalList.parse text).map some :=
  rfl

theorem readVariable_of_fault {l : Loader} {env : Environment} {k : SettingName}
    {failure : Failure} (h : l.VariableFault env k failure) :
    readVariable env (l.variableName k) = .error failure := by
  obtain ⟨text, htext, hparse⟩ := h
  rw [readVariable_eq, htext]
  simp only [hparse, Except.map]

/-- A variable without faults holds no text, or a list. -/
theorem readVariable_of_fine {l : Loader} {env : Environment} {k : SettingName}
    (h : ∀ failure, ¬ l.VariableFault env k failure) :
    (l.envText? env k = none ∧ readVariable env (l.variableName k) = .ok none) ∨
      ∃ text intervals, l.envText? env k = some text ∧ IntervalList.parse text = .ok intervals ∧
        readVariable env (l.variableName k) = .ok (some intervals) := by
  rw [readVariable_eq]
  cases htext : l.envText? env k with
  | none => exact .inl ⟨rfl, rfl⟩
  | some text =>
    cases hparse : IntervalList.parse text with
    | error failure => exact absurd ⟨text, htext, hparse⟩ (h failure)
    | ok intervals => exact .inr ⟨text, intervals, rfl, hparse, congrArg (Except.map some) hparse⟩

end Loader

/-! ## Layering -/

namespace Loader

/-- What is put together for a setting without faults is its layered setting. -/
theorem layered_of_fine {l : Loader} {env : Environment} {k : SettingName}
    (h : ∀ failure, ¬ l.VariableFault env k failure) (host : Option (List Interval))
    {given : List Toml.Item} (honce : given.length ≤ 1) :
    ∃ fromEnv, readVariable env (l.variableName k) = .ok fromEnv ∧
      Layered k.stock host (l.envText? env k) given
        (layered host fromEnv (given.head?.map fun i => .ofValue i.value) k.stock) := by
  rcases readVariable_of_fine h with ⟨htext, hread⟩ | ⟨text, intervals, htext, hparse, hread⟩
  · refine ⟨none, hread, ?_⟩
    rw [htext]
    cases host with
    | some intervals => exact .host rfl
    | none =>
      match given, honce with
      | [], _ => exact .stock rfl rfl rfl
      | [i], _ => exact .file rfl rfl rfl
  · refine ⟨some intervals, hread, ?_⟩
    rw [htext]
    cases host with
    | some intervals => exact .host rfl
    | none => exact .environment rfl rfl hparse

/-- Loading fails with the first failure. -/
theorem load_of_firstFailure {l : Loader} {file : Option FileContent} {env : Environment}
    {failure : Failure} (h : l.FirstFailure file env failure)
    (query dashboard : Option (List Interval)) :
    l.load file env query dashboard = .error failure := by
  cases h with
  | file hfirst =>
    rw [load, readFile_of_fault hfirst]
    rfl
  | query hfile hfirst =>
    obtain ⟨c, hc, -⟩ := readFile_of_fine hfile
    have hread : readVariable env l.queryVariable = _ := readVariable_of_fault hfirst
    rw [load, hc, hread]
    rfl
  | dashboard hfile hquery hfirst =>
    obtain ⟨c, hc, hsettings⟩ := readFile_of_fine hfile
    obtain ⟨fromEnv, hq, -⟩ := layered_of_fine hquery none (hsettings .query).1
    have hread : readVariable env l.queryVariable = .ok fromEnv := hq
    have hread' : readVariable env l.dashboardVariable = _ := readVariable_of_fault hfirst
    rw [load, hc, hread, hread']
    rfl

/-- Loading without failures gives the layered settings. -/
theorem load_of_fine {l : Loader} {file : Option FileContent} {env : Environment}
    (h : ∀ failure, ¬ l.FirstFailure file env failure) (query dashboard : Option (List Interval)) :
    ∃ c, l.load file env query dashboard = .ok c ∧
      ∀ k : SettingName, ∃ s, c.setting k = some s ∧
        Layered k.stock (k.pick query dashboard) (l.envText? env k)
          (k.given (rootTable file)) s := by
  have hfile : ∀ fault, ¬ FileFault file fault := fun fault hfault => h _ (.file hfault)
  have hquery : ∀ failure, ¬ l.VariableFault env .query failure := fun failure hfault =>
    h _ (.query hfile hfault)
  have hdashboard : ∀ failure, ¬ l.VariableFault env .dashboard failure := fun failure hfault =>
    h _ (.dashboard hfile hquery hfault)
  obtain ⟨c, hc, hsettings⟩ := readFile_of_fine hfile
  obtain ⟨fromEnv, hread, hlayered⟩ := layered_of_fine hquery query (hsettings .query).1
  obtain ⟨fromEnv', hread', hlayered'⟩ :=
    layered_of_fine hdashboard dashboard (hsettings .dashboard).1
  rw [← (hsettings .query).2] at hlayered
  rw [← (hsettings .dashboard).2] at hlayered'
  have hq : readVariable env l.queryVariable = .ok fromEnv := hread
  have hd : readVariable env l.dashboardVariable = .ok fromEnv' := hread'
  refine ⟨_, by rw [load, hc, hq, hd]; rfl, fun k => ?_⟩
  cases k
  · exact ⟨_, rfl, hlayered⟩
  · exact ⟨_, rfl, hlayered'⟩

/-- The first failure is a fault of the file or of a variable, and there is one if any of them has
a fault. -/
theorem exists_firstFailure_iff {l : Loader} {file : Option FileContent} {env : Environment} :
    (∃ failure, l.FirstFailure file env failure) ↔
      (∃ fault, FileFault file fault) ∨ ∃ k failure, l.VariableFault env k failure := by
  constructor
  · rintro ⟨failure, h⟩
    cases h with
    | file h => exact .inl ⟨_, h⟩
    | query _ h => exact .inr ⟨_, _, h⟩
    | dashboard _ _ h => exact .inr ⟨_, _, h⟩
  · intro h
    by_contra hnone
    have hfine : ∀ failure, ¬ l.FirstFailure file env failure := not_exists.1 hnone
    have hfile : ∀ fault, ¬ FileFault file fault := fun fault hfault => hfine _ (.file hfault)
    have hquery : ∀ failure, ¬ l.VariableFault env .query failure := fun failure hfault =>
      hfine _ (.query hfile hfault)
    rcases h with ⟨fault, hfault⟩ | ⟨k, failure, hfault⟩
    · exact hfile fault hfault
    · cases k
      · exact hquery failure hfault
      · exact hfine _ (.dashboard hfile hquery hfault)

theorem FirstFailure.isConfig {l : Loader} {file : Option FileContent} {env : Environment}
    {failure : Failure} (h : l.FirstFailure file env failure) :
    ∃ fault, failure = .config fault := by
  cases h with
  | file _ => exact ⟨_, rfl⟩
  | query _ h => exact IntervalList.parse_error h.choose_spec.2
  | dashboard _ _ h => exact IntervalList.parse_error h.choose_spec.2

section Outcome

variable {l : Loader} {file : Option FileContent} {env : Environment}
  {query dashboard : Option (List Interval)} {c : ClientConfig}

/-- Loading fails with the first failure and with nothing else. -/
theorem load_eq_error_iff {failure : Failure} :
    l.load file env query dashboard = .error failure ↔ l.FirstFailure file env failure := by
  refine ⟨fun h => ?_, fun h => load_of_firstFailure h query dashboard⟩
  by_cases hfine : ∀ failure, ¬ l.FirstFailure file env failure
  · obtain ⟨c, hc, -⟩ := load_of_fine hfine query dashboard
    rw [hc] at h
    cases h
  · obtain ⟨first, hfirst⟩ := not_forall_not.1 hfine
    rw [load_of_firstFailure hfirst] at h
    cases h
    exact hfirst

/-- Loading gives a configuration where nothing fails. -/
theorem exists_load_iff :
    (∃ c, l.load file env query dashboard = .ok c) ↔
      ∀ failure, ¬ l.FirstFailure file env failure := by
  constructor
  · rintro ⟨c, hc⟩ failure hfailure
    rw [load_of_firstFailure hfailure] at hc
    cases hc
  · intro h
    obtain ⟨c, hc, -⟩ := load_of_fine h query dashboard
    exact ⟨c, hc⟩

/-- A loaded configuration has the layered settings. -/
theorem layered_of_load (h : l.load file env query dashboard = .ok c) (k : SettingName) :
    ∃ s, c.setting k = some s ∧
      Layered k.stock (k.pick query dashboard) (l.envText? env k) (k.given (rootTable file)) s := by
  obtain ⟨d, hd, hsettings⟩ := load_of_fine (exists_load_iff.1 ⟨c, h⟩) query dashboard
  rw [hd] at h
  cases h
  exact hsettings k

/-- Nothing but the layered settings is loaded. -/
theorem load_eq_ok_iff :
    l.load file env query dashboard = .ok c ↔
      (∀ failure, ¬ l.FirstFailure file env failure) ∧
        ∀ k : SettingName, ∃ s, c.setting k = some s ∧
          Layered k.stock (k.pick query dashboard) (l.envText? env k)
            (k.given (rootTable file)) s := by
  refine ⟨fun h => ⟨exists_load_iff.1 ⟨c, h⟩, layered_of_load h⟩, fun ⟨hfine, hlayers⟩ => ?_⟩
  obtain ⟨d, hd⟩ := exists_load_iff.2 hfine
  rw [hd]
  refine congrArg _ (ClientConfig.ext_setting fun k => ?_)
  obtain ⟨s, hs, hlayered⟩ := layered_of_load hd k
  obtain ⟨t, ht, hlayered'⟩ := hlayers k
  rw [hs, ht, hlayered.unique hlayered']

end Outcome

/-- **Loading fails exactly for a fault of the file or of a variable, with the first of them in
that order, and otherwise gives each setting from its own layers**: the host's list, the variable's
list, what the file gives, the stock list.  So two loads agree in a setting that has the same
layers in both, and no variable but the two has any part in it. -/
theorem load_layers (l : Loader) (file : Option FileContent) (env : Environment)
    (query dashboard : Option (List Interval)) :
    ((∃ failure, l.load file env query dashboard = .error failure) ↔
        (∃ fault, FileFault file fault) ∨ ∃ k failure, l.VariableFault env k failure) ∧
      (∀ failure, l.load file env query dashboard = .error failure ↔
        l.FirstFailure file env failure) ∧
      (∀ failure, l.FirstFailure file env failure → ∃ fault, failure = .config fault) ∧
      (∀ c, l.load file env query dashboard = .ok c ↔
        (∀ failure, ¬ l.FirstFailure file env failure) ∧
          ∀ k : SettingName, ∃ s, c.setting k = some s ∧
            Layered k.stock (k.pick query dashboard) (l.envText? env k)
              (k.given (rootTable file)) s) ∧
      (∀ env', (∀ k, env' (l.variableName k) = env (l.variableName k)) →
        l.load file env' query dashboard = l.load file env query dashboard) ∧
      ∀ (l' : Loader) file' env' query' dashboard' c c',
        l.load file env query dashboard = .ok c →
        l'.load file' env' query' dashboard' = .ok c' → ∀ k : SettingName,
          k.pick query dashboard = k.pick query' dashboard' →
          l.envText? env k = l'.envText? env' k →
          k.given (rootTable file) = k.given (rootTable file') → c.setting k = c'.setting k := by
  refine ⟨?_, fun failure => load_eq_error_iff, fun failure h => h.isConfig,
    fun c => load_eq_ok_iff, fun env' hsame => ?_, ?_⟩
  · simp only [load_eq_error_iff, exists_firstFailure_iff]
  · have hquery : env' l.queryVariable = env l.queryVariable := hsame .query
    have hdashboard : env' l.dashboardVariable = env l.dashboardVariable := hsame .dashboard
    simp only [load, readVariable, hquery, hdashboard]
  · intro l' file' env' query' dashboard' c c' hc hc' k hhost htext hgiven
    obtain ⟨s, hs, hlayered⟩ := layered_of_load hc k
    obtain ⟨t, ht, hlayered'⟩ := layered_of_load hc' k
    rw [← hhost, ← htext, ← hgiven] at hlayered'
    rw [hs, ht, hlayered.unique hlayered']

/-- Two loaders with variables of their own, one with a file and one without: the variable of one
loader changes nothing for the other, and the dashboards get the same setting. -/
theorem load_layers_of_two_loaders :
    let file := FileContent.bytes "dashboardRefreshIntervals = [30, 60]".toUTF8
    let env : Environment := fun name =>
      if name = "B_DASHBOARD_REFRESH_INTERVALS" then some "30, ".toUTF8 else none
    let c : ClientConfig :=
      ⟨some ClientConfig.stockQuerySetting, some (ClientConfig.stock [30, 60])⟩
    let d : ClientConfig := ⟨some ClientConfig.stockQuerySetting, some (ClientConfig.stock [30])⟩
    load ⟨"A"⟩ (some file) env none none = .ok c ∧ load ⟨"B"⟩ none env none none = .ok d ∧
      load ⟨"A"⟩ (some file) env none none = load ⟨"A"⟩ (some file) (fun _ => none) none none ∧
      c.setting .query = d.setting .query := by
  intro file env c d
  have hdocument : Toml.Document.ofText? "dashboardRefreshIntervals = [30, 60]" =
      some [("dashboardRefreshIntervals", .array [.integer 30, .integer 60])] := by
    decide +kernel
  have htoml : file.text? = some "dashboardRefreshIntervals = [30, 60]" := by rfl
  have hfile : readFile (some file) = .ok ⟨none, c.dashboardSetting⟩ := by
    rw [readFile_some, htoml]
    simp only [hdocument, Option.bind_some]
    rfl
  have hc : load ⟨"A"⟩ (some file) env none none = .ok c := by
    rw [load, hfile]
    rfl
  have hd : load ⟨"B"⟩ none env none none = .ok d := by rfl
  have hsame : ∀ k, env (variableName ⟨"A"⟩ k) = none := by
    intro k
    cases k <;> rfl
  have htext : envText? ⟨"A"⟩ env .query = envText? ⟨"B"⟩ env .query := by
    have hA : envText? ⟨"A"⟩ env .query = none := by rfl
    have hB : envText? ⟨"B"⟩ env .query = none := by rfl
    rw [hA, hB]
  have hgiven : SettingName.query.given (rootTable (some file)) =
      SettingName.query.given (rootTable none) := by
    rw [rootTable_some htoml hdocument]
    rfl
  exact ⟨hc, hd, (load_layers ⟨"A"⟩ (some file) (fun _ => none) none none).2.2.2.2.1 env hsame,
    (load_layers ⟨"A"⟩ (some file) env none none).2.2.2.2.2 ⟨"B"⟩ none env none none c d
      hc hd .query rfl htext hgiven⟩

end Loader
end QueryRights
