import AccessPolicy.Codec
import AccessPolicy.Error

/-!
# Log events

What the operations say about themselves while they run.  An event holds what it
is about; its level, its text and its named fields are functions of it.
Principals appear in one kind of event only, the full contents of a policy.
-/

namespace AccessPolicy

inductive Level where
  | trace
  | debug
  | info
  | warn
  deriving DecidableEq

def Level.name : Level → String
  | trace => "TRACE"
  | debug => "DEBUG"
  | info => "INFO"
  | warn => "WARN"

inductive Event where
  /-- A policy was fetched. -/
  | retrieved (resource : String) (etag : Etag) (bindings : Nat)
  /-- A policy was fetched, in full. -/
  | contents (resource : String) (policy : Policy)
  /-- A changed policy was accepted; the etag is the one it was sent with. -/
  | committed (resource : String) (etag : Etag) (bindings : Nat)
  /-- A changed policy was rejected because another writer came first. -/
  | rejected (resource : String) (etag : Etag) (cause : RemoteError)
  /-- A read found that the policy does not grant the role. -/
  | notFound (resource role : String)
  /-- A delete found that the policy did not grant the role. -/
  | nothingToDelete (resource role : String)
  /-- An operation is about to be run again after a conflict. -/
  | retrying (attempt maxAttempts : UInt32) (delayMs : UInt64)
      (error : OperationError)
  /-- The authority stored a policy under a new etag. -/
  | stored (resource : String) (etag : Etag)
  deriving DecidableEq

inductive EventValue where
  | text (value : String)
  | number (value : Nat)
  deriving DecidableEq

namespace Event

def level : Event → Level
  | contents .. | stored .. => .trace
  | retrieved .. | notFound .. | nothingToDelete .. => .debug
  | committed .. => .info
  | rejected .. | retrying .. => .warn

def message : Event → String
  | retrieved .. => "Retrieved IAM policy"
  | contents .. => "IAM policy contents"
  | committed .. => "Committed IAM policy"
  | rejected .. => "IAM policy changed concurrently; commit rejected"
  | notFound .. => "Binding not found in policy, removing from tracked state"
  | nothingToDelete .. =>
    "Policy bindings did not include the role; nothing to delete"
  | retrying .. => "Retrying IAM policy update after conflict"
  | stored .. => "Stored policy"

def fields : Event → List (String × EventValue)
  | retrieved resource etag bindings | committed resource etag bindings =>
    [("resource", .text resource), ("etag", .text etag.token),
      ("bindings", .number bindings)]
  | contents resource policy =>
    [("resource", .text resource), ("policy", .text (encode policy))]
  | rejected resource etag cause =>
    [("resource", .text resource), ("etag", .text etag.token),
      ("error", .text cause.message)]
  | notFound resource role | nothingToDelete resource role =>
    [("resource", .text resource), ("role", .text role)]
  | retrying attempt maxAttempts delayMs error =>
    [("attempt", .number attempt.toNat),
      ("max_attempts", .number maxAttempts.toNat),
      ("delay_ms", .number delayMs.toNat), ("error", .text error.message)]
  | stored resource etag =>
    [("resource", .text resource), ("etag", .text etag.token)]

def isContents : Event → Bool
  | contents .. => true
  | _ => false

end Event

end AccessPolicy
