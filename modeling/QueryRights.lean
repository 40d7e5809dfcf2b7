import QueryRights.Access
import QueryRights.Config.Loader
import QueryRights.Dialog.Desk
import QueryRights.Inspect
import QueryRights.Json.Writer
import QueryRights.Proofs.Dialog.EditRuns
import QueryRights.Proofs.Dialog.Memoized
import QueryRights.Proofs.Dialog.Authorized
import QueryRights.Proofs.Memo.Runs
import QueryRights.Proofs.Flags.Memoized
import QueryRights.Proofs.Flags.Ordered
import QueryRights.Proofs.Policy.Defaults
import QueryRights.Proofs.Policy.Chains
import QueryRights.Session
import QueryRights.Proofs.Json.Kept
import QueryRights.Proofs.Json.Records
import QueryRights.Proofs.Config.Grammar
import QueryRights.Proofs.Config.Settings
import QueryRights.Proofs.Config.Layers
import QueryRights.Proofs.Toml.WellFormed
import QueryRights.Proofs.Toml.Written
import QueryRights.Proofs.Config.Classified
import QueryRights.Proofs.Json.Tokens
import QueryRights.Proofs.Json.Reading
import QueryRights.Proofs.Config.Written
import QueryRights.Proofs.Config.Channels
import QueryRights.Proofs.Session.RoundTrip
import QueryRights.Proofs.Calendar.Written
import QueryRights.Proofs.Json.Schema
import QueryRights.Proofs.Entity.Fields
import QueryRights.Proofs.Entity.Written
import QueryRights.Proofs.Entity.FilledIn
import QueryRights.Proofs.Access.Matching
import QueryRights.Proofs.Access.Monotone
import QueryRights.Proofs.Access.ApiKeys
import QueryRights.Proofs.Entity.Permissions
import QueryRights.Proofs.Dialog.Options
import QueryRights.Proofs.Permission.Names
import QueryRights.Proofs.Calendar.Days
import QueryRights.Proofs.Entity.Expiry
import QueryRights.Proofs.Dialog.Resolution
