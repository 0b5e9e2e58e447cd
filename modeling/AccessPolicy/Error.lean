import AccessPolicy.Text.Quoted

/-!
# Failures

A remote authority reports why it refused a request; an operation on a binding
reports in which of its phases it stopped, and carries the authority's report
with it.  Only a commit that lost against another writer is a conflict: nothing
else is worth running a whole operation again for.
-/

namespace AccessPolicy

/-- What a remote authority, or the connector that reaches it, reports. -/
inductive RemoteError where
  /-- The etag sent with a commit is no longer the stored one. -/
  | conflict (detail : String)
  | notFound (detail : String)
  /-- The caller may not read or write the policy. -/
  | permissionDenied (detail : String)
  /-- The request did not reach the authority, or its answer did not come
  back. -/
  | transport (detail : String)
  /-- The state or the settings address no resource. -/
  | invalid (detail : String)
  deriving DecidableEq

namespace RemoteError

def message : RemoteError → String
  | conflict detail => "Etag conflict: " ++ detail
  | notFound detail => "Not found: " ++ detail
  | permissionDenied detail => "Permission denied: " ++ detail
  | transport detail => "Transport error: " ++ detail
  | invalid detail => "Invalid: " ++ detail

def isConflict : RemoteError → Bool
  | conflict _ => true
  | _ => false

end RemoteError

/-- Why a change of a policy was refused before it was sent. -/
inductive MutationFault where
  /-- The changed policy holds several entries for one role. -/
  | repeatedRole (count : Nat) (role : String)
  /-- The change itself gave up, for a reason of its own. -/
  | refused (reason : String)
  deriving DecidableEq

def MutationFault.message : MutationFault → String
  | repeatedRole count role =>
    s!"policy holds {count} bindings for role {Text.quoted role} after merge"
  | refused reason => reason

inductive BindingFault where
  | emptyRole
  /-- The text is no resource and role joined by a slash. -/
  | unsplittable (id : String)
  | notGranted (role resource : String)
  | other (reason : String)
  deriving DecidableEq

def BindingFault.message : BindingFault → String
  | emptyRole => "role must not be empty"
  | unsplittable id =>
    s!"cannot split {Text.quoted id} into <resource_id>/<role>"
  | notGranted role resource =>
    s!"no binding for role {Text.quoted role} on {resource}"
  | other reason => reason

/-- Why an operation on a binding failed, by the phase in which it stopped. -/
inductive OperationError where
  /-- No connection to the resource could be made. -/
  | construction (cause : RemoteError)
  | fetch (resource : String) (cause : RemoteError)
  /-- The changed policy was not accepted. -/
  | commit (resource : String) (cause : RemoteError)
  /-- The change was refused before it was sent. -/
  | mutation (fault : MutationFault)
  /-- The binding itself cannot be worked with. -/
  | invalidBinding (fault : BindingFault)
  deriving DecidableEq

namespace OperationError

def message : OperationError → String
  | construction cause => "Cannot build policy updater: " ++ cause.message
  | fetch resource cause =>
    s!"Error retrieving IAM policy for {resource}: {cause.message}"
  | commit resource cause =>
    s!"Error setting IAM policy for {resource}: {cause.message}"
  | mutation fault => "Policy mutation failed: " ++ fault.message
  | invalidBinding fault => "Invalid binding: " ++ fault.message

def cause? : OperationError → Option RemoteError
  | construction cause | fetch _ cause | commit _ cause => some cause
  | mutation _ | invalidBinding _ => none

/-- Whether a commit was rejected because another writer came first.  A
fetch carries no etag, so what it reports is never a conflict, whatever
its cause says. -/
def isConflict : OperationError → Bool
  | commit _ cause => cause.isConflict
  | _ => false

/-- A conflict is a commit failure whose cause is a conflict. -/
theorem isConflict_iff {error : OperationError} :
    error.isConflict = true ↔
      ∃ resource detail, error = .commit resource (.conflict detail) := by
  constructor
  · intro hconflict
    match error, hconflict with
    | .commit resource (.conflict detail), _ => exact ⟨resource, detail, rfl⟩
  · rintro ⟨resource, detail, rfl⟩
    rfl

end OperationError

end AccessPolicy
