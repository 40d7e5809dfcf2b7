import QueryRights.Config.ClientConfig
import QueryRights.Config.IntervalList
import QueryRights.Toml.Reader

/-!
# Loading the configuration

The configuration is put together from four layers, each of which overrides the ones before it: the
stock lists, a file, environment variables, and lists that the host passes.

Layers override setting by setting, and each of the two settings has a variable of its own.  A
setting that the file gives in a form that is no list is not a failure.  It stays what it is,
overrides the stock list, and offers nothing.  What is a failure is a file that cannot be read or
is no configuration, and a variable with an entry that is no number.

## What is here

* `FileContent` and `Environment`: what the system gives.  A variable whose bytes are no text
  counts as one that is not set.
* `Loader.load`: the configuration, or the first failure in the order of the layers.  A variable is
  read even where a list of the host overrides it.
-/

set_option autoImplicit false

namespace QueryRights

/-- What opening a configuration file gives. -/
inductive FileContent where
  /-- The file cannot be read. -/
  | unreadable
  | bytes (content : ByteArray)

/-- The bytes of each environment variable that is set. -/
abbrev Environment := String → Option ByteArray

/-- How configurations are loaded. -/
structure Loader where
  /-- What the names of the environment variables begin with. -/
  envPrefix : String

namespace Loader

/-- The loader for hosts without a name of their own. -/
def standard : Loader := ⟨"QUERY_POLICY"⟩

/-- The environment variable for the intervals of queries. -/
def queryVariable (l : Loader) : String := l.envPrefix ++ "_QUERY_REFRESH_INTERVALS"

/-- The environment variable for the intervals of dashboards. -/
def dashboardVariable (l : Loader) : String := l.envPrefix ++ "_DASHBOARD_REFRESH_INTERVALS"

/-- The configuration in a file, or none without a file. -/
def readFile : Option FileContent → Except Failure ClientConfig
  | none => .ok .empty
  | some .unreadable => .error (.config .unreadableFile)
  | some (.bytes content) =>
    match String.fromUTF8? content with
    | none => .error (.config .unreadableFile)
    | some text =>
      match (Toml.Document.ofText? text).bind ClientConfig.ofTable? with
      | none => .error (.config .malformedFile)
      | some c => .ok c

/-- The list in an environment variable; none if it is not set to a text. -/
def readVariable (env : Environment) (name : String) : Except Failure (Option (List Interval)) :=
  match (env name).bind String.fromUTF8? with
  | none => .ok none
  | some text => (IntervalList.parse text).map some

/-- A setting from its layers: a list of the host, the variable, the file, and the stock list. -/
def layered (fromHost fromEnv : Option (List Interval)) (fromFile : Option Setting)
    (stock : Setting) : Setting :=
  match fromHost, fromEnv with
  | some intervals, _ => .list intervals
  | none, some intervals => .list intervals
  | none, none => fromFile.getD stock

/-- Loads the configuration. -/
def load (l : Loader) (file : Option FileContent) (env : Environment)
    (query dashboard : Option (List Interval)) : Except Failure ClientConfig := do
  let c ← readFile file
  let queryVar ← readVariable env l.queryVariable
  let dashboardVar ← readVariable env l.dashboardVariable
  return ⟨some (layered query queryVar c.querySetting ClientConfig.stockQuerySetting),
    some (layered dashboard dashboardVar c.dashboardSetting ClientConfig.stockDashboardSetting)⟩

end Loader
end QueryRights
