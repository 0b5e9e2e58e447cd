import AccessPolicy.Text.GraphemeExtend
import AccessPolicy.Text.Hex
import AccessPolicy.Text.Quoted
import AccessPolicy.Text.Unprintable
import AccessPolicy.MemberSet
import AccessPolicy.Error
import AccessPolicy.Policy.Basic
import AccessPolicy.Policy.Merge
import AccessPolicy.Policy.Mutation
import AccessPolicy.Identity
import AccessPolicy.Tracked
import AccessPolicy.Plan
import AccessPolicy.Settings
import AccessPolicy.Document.Basic
import AccessPolicy.Json.Token
import AccessPolicy.Json.Syntax
import AccessPolicy.Document.Record
import AccessPolicy.Toml.Lexical
import AccessPolicy.Toml.Quotation
import AccessPolicy.Toml.Numeral
import AccessPolicy.Toml.Moment
import AccessPolicy.Toml.Table
import AccessPolicy.Toml.Syntax
import AccessPolicy.Codec
import AccessPolicy.FileTree
import AccessPolicy.Settings.Load
import AccessPolicy.Event
import AccessPolicy.Remote
import AccessPolicy.Cycle
import AccessPolicy.Controller
import AccessPolicy.Retry
import AccessPolicy.Authority
import AccessPolicy.Arena
import AccessPolicy.Scenario.Edit
import AccessPolicy.Scenario.Step
import AccessPolicy.Proofs.Policy.AccessRelation
import AccessPolicy.Proofs.Authority.Request
import AccessPolicy.Proofs.Cycle
import AccessPolicy.Proofs.Arena.Interference
import AccessPolicy.Proofs.Authority.Traffic
import AccessPolicy.Proofs.Arena.Account
import AccessPolicy.Proofs.Arena.Cycle
import AccessPolicy.Proofs.Controller.Run
import AccessPolicy.Proofs.Controller.Ending
import AccessPolicy.Proofs.Controller.Atomicity
import AccessPolicy.Proofs.Retry
import AccessPolicy.Proofs.Controller.ExactlyOnce
import AccessPolicy.Proofs.Authority.History
import AccessPolicy.Proofs.Identity.Segments
import AccessPolicy.Proofs.Identity.Display
import AccessPolicy.Proofs.Plan
import AccessPolicy.Proofs.Arena.Calm
import AccessPolicy.Proofs.Controller.Adoption
import AccessPolicy.Proofs.Controller.Drift
import AccessPolicy.Proofs.Coupled
import AccessPolicy.Proofs.Secrecy.Alike
import AccessPolicy.Proofs.Secrecy.Blind
import AccessPolicy.Proofs.Secrecy.Play
import AccessPolicy.Proofs.Watch.Exchange
import AccessPolicy.Proofs.Watch.Protocol
import AccessPolicy.Proofs.Watch.Operation
import AccessPolicy.Proofs.Watch.Succession
import AccessPolicy.Proofs.Watch.Observation
import AccessPolicy.Proofs.Scenario.Journal
import AccessPolicy.Proofs.Scenario.Coherence
import AccessPolicy.Proofs.Controller.Undisturbed
import AccessPolicy.Proofs.Controller.Convergence
import AccessPolicy.Proofs.Controller.Separation
import AccessPolicy.Proofs.Scenario.Separation
import AccessPolicy.Proofs.Json.Token
import AccessPolicy.Proofs.Json.Syntax
import AccessPolicy.Proofs.Json.Expressible
import AccessPolicy.Proofs.Document.Record
import AccessPolicy.Proofs.Codec
import AccessPolicy.Proofs.Document.Parts
import AccessPolicy.Proofs.Document.Shape
import AccessPolicy.Proofs.Watch.Step
import AccessPolicy.Proofs.Policy.UniqueRoles
import AccessPolicy.Proofs.Policy.Queries
import AccessPolicy.Proofs.Scenario.Move
import AccessPolicy.Proofs.Scenario.Edit
import AccessPolicy.Proofs.Scenario.UniqueRoles
import AccessPolicy.Proofs.Scenario.Isolation
import AccessPolicy.Proofs.Controller.Linked
import AccessPolicy.Proofs.Logging.Transparent
import AccessPolicy.Proofs.Logging.Operation
import AccessPolicy.Proofs.Scenario.Transparency
import AccessPolicy.Proofs.Policy.FirstSeen
import AccessPolicy.Proofs.Policy.MergedForm
import AccessPolicy.Proofs.Policy.Batches
import AccessPolicy.Proofs.Policy.IndexedMerge
import AccessPolicy.Proofs.Policy.Placement
import AccessPolicy.Proofs.Logging.Account
import AccessPolicy.Proofs.Scenario.Account
import AccessPolicy.Proofs.Policy.Commutation
import AccessPolicy.Proofs.Policy.Absorption
import AccessPolicy.Proofs.Watch.LastFetch
import AccessPolicy.Proofs.Watch.Contract
import AccessPolicy.Proofs.Identity.Cuts
import AccessPolicy.Proofs.Retry.Schedule
import AccessPolicy.Proofs.Settings.Backoff
import AccessPolicy.Proofs.Toml.Syntax
import AccessPolicy.Proofs.Toml.Table
import AccessPolicy.Proofs.Settings.Partial
import AccessPolicy.Proofs.Authority.Etag
import AccessPolicy.Proofs.Authority.Etag
