import QueryRights.Context

/-!
# Contexts in words

What a context and its default policy are, in one line for a developer to read: whether the user is
an administrator, and the configuration in full.
-/

set_option autoImplicit false

namespace QueryRights
namespace Inspect

/-- Texts with commas between them. -/
def commas (texts : List String) : String := String.intercalate ", " texts

/-- Fields between braces, after the name of what they belong to. -/
def braced (name : String) (fields : List String) : String :=
  name ++ " \x7b " ++ commas fields ++ " \x7d"

/-- A truth value. -/
def bool (b : Bool) : String := if b then "true" else "false"

/-- A part that may be missing. -/
def optional : Option String → String
  | none => "None"
  | some s => "Some(" ++ s ++ ")"

mutual

/-- A value. -/
def value : Value → String
  | .null => "Null"
  | .bool b => "Bool(" ++ bool b ++ ")"
  | .number n => "Number(" ++ n.text ++ ")"
  | .string s => "String(" ++ Text.shown s ++ ")"
  | .array items => "Array [" ++ commas (values items) ++ "]"
  | .object members => "Object \x7b" ++ commas (namedValues members) ++ "\x7d"

/-- The items of an array. -/
def values : List Value → List String
  | [] => []
  | v :: rest => value v :: values rest

/-- The keys and values of an object. -/
def namedValues : List (String × Value) → List String
  | [] => []
  | (k, v) :: rest => (Text.shown k ++ ": " ++ value v) :: namedValues rest

end

/-- An interval. -/
def interval (i : Interval) : String := "RefreshInterval(" ++ toString i.seconds.toNat ++ ")"

/-- A setting. -/
def setting : Setting → String
  | .list is => "List([" ++ commas (is.map interval) ++ "])"
  | .malformed v => "Malformed(" ++ value v ++ ")"

/-- A configuration. -/
def config (c : ClientConfig) : String :=
  braced "ClientConfig"
    ["query_refresh_intervals: " ++ optional (c.querySetting.map setting),
     "dashboard_refresh_intervals: " ++ optional (c.dashboardSetting.map setting)]

/-- A context; its user and its policy are not shown further. -/
def context (c : Context) : String :=
  braced "Context" ["admin: " ++ bool c.user.isAdmin, "config: " ++ config c.config, ".."]

/-- The default policy of a user and a configuration. -/
def defaultPolicy (u : Principal) (c : ClientConfig) : String :=
  braced "DefaultPolicy" ["admin: " ++ bool u.isAdmin, "config: " ++ config c]

end Inspect
end QueryRights
