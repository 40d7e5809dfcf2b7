import QueryRights.Json.Report
import QueryRights.Text.Shown

/-!
# Failures

What can go wrong when a configuration is loaded, a policy is refreshed or a schedule is saved.
That somebody may not do something is never a failure: the answer is then no, and a workflow that
is not allowed does nothing.

## What is here

* `DigitFault`, `ConfigFault`, `Failure`: the causes.
* `Failure.message`: the wording of each, in one place.
* `Failure.isCollaborator`, `Failure.hasSource`: who reported it.
-/

set_option autoImplicit false

namespace QueryRights

/-- Why a text is no number of 64 bits. -/
inductive DigitFault where
  | invalidDigit
  | tooLarge
  deriving DecidableEq

namespace DigitFault

/-- The wording of a fault. -/
def message : DigitFault → String
  | .invalidDigit => "invalid digit found in string"
  | .tooLarge => "number too large to fit in target type"

end DigitFault

/-- What is wrong with a configuration. -/
inductive ConfigFault where
  /-- A name that is none of the permissions. -/
  | unknownPermission (name : String)
  /-- The configuration file cannot be read as text. -/
  | unreadableFile
  /-- The text of the configuration file is no configuration. -/
  | malformedFile
  /-- An entry in a list of intervals is no number of seconds. -/
  | invalidInterval (entry : String) (fault : DigitFault)
  /-- A fault that a host found. -/
  | reported (text : String)
  deriving DecidableEq

namespace ConfigFault

/-- The wording of a fault. -/
def message : ConfigFault → String
  | .unknownPermission name => "Unknown permission: " ++ name
  | .unreadableFile => "Failed to read config file"
  | .malformedFile => "Failed to parse config"
  | .invalidInterval entry fault =>
    "Invalid refresh interval " ++ Text.shown entry ++ ": " ++ fault.message
  | .reported text => text

end ConfigFault

/-- A failure. -/
inductive Failure where
  | config (fault : ConfigFault)
  /-- From the reader of TOML. -/
  | toml (text : String)
  /-- From the collaborator that saves schedules. -/
  | persist (text : String)
  /-- From the source of a policy. -/
  | refresh (text : String)
  /-- From the file system. -/
  | io (text : String)
  /-- From the reader of JSON. -/
  | json (report : Json.Report)
  | internal (text : String)
  deriving DecidableEq

namespace Failure

/-- The wording of a failure.  What the reader of TOML says is a line of its own. -/
def message : Failure → String
  | .config fault => "Configuration error: " ++ fault.message
  | .toml text => "TOML error: " ++ text ++ "\n"
  | .persist text => "Failed to persist schedule: " ++ text
  | .refresh text => "Policy refresh failed: " ++ text
  | .io text => "IO error: " ++ text
  | .json report => "JSON error: " ++ report.text
  | .internal text => "Internal error: " ++ text

/-- Whether a collaborator reported it, and not the reading of local input. -/
def isCollaborator : Failure → Bool
  | .persist _ => true
  | .refresh _ => true
  | _ => false

/-- Whether it passes on what a reader or the system reported. -/
def hasSource : Failure → Bool
  | .toml _ => true
  | .io _ => true
  | .json _ => true
  | _ => false

end Failure
end QueryRights
