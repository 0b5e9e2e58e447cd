import AccessPolicy.Remote
import AccessPolicy.Text.Hex

/-!
# An authority in memory

It keeps one policy for each resource and the contract that every authority
keeps: a commit is accepted only under the current etag, and an accepted commit
gets a new one.  Etags count the accepted writes of a resource.  Failures can be
armed: the next fetch or the next commit of any resource fails once, and
connections fail until that is lifted.
-/

namespace AccessPolicy

structure Stored where
  /-- The number of accepted writes. -/
  version : UInt64 := 0
  bindings : List Binding := []
  deriving DecidableEq, Inhabited

namespace Stored

/-- The etag of a version: its sixteen hexadecimal digits. -/
def etagOf (version : UInt64) : Etag :=
  ⟨String.ofList (Text.hexDigits 16 version.toNat)⟩

def etag (stored : Stored) : Etag := etagOf stored.version

def policy (stored : Stored) : Policy := ⟨stored.etag, stored.bindings⟩

def write (stored : Stored) (bindings : List Binding) : Stored :=
  ⟨stored.version + 1, bindings⟩

end Stored

structure Authority where
  /-- What is stored for each resource.  A resource that was never written to
  holds an empty policy. -/
  stored : String → Stored := fun _ => {}
  /-- The number of fetches, failed ones included. -/
  fetches : Nat := 0
  /-- The number of commits, refused ones included. -/
  commits : Nat := 0
  fetchFailure : Option RemoteError := none
  commitFailure : Option RemoteError := none
  connectionFailure : Option RemoteError := none
  deriving Inhabited

namespace Authority

def policy (authority : Authority) (resource : String) : Policy :=
  (authority.stored resource).policy

def write (authority : Authority) (resource : String)
    (bindings : List Binding) : Authority :=
  { authority with
    stored := fun other =>
      if other = resource then (authority.stored resource).write bindings
      else authority.stored other }

/-- Change the bindings of a resource as another writer does, who needs no
etag. -/
def change (authority : Authority) (resource : String)
    (edit : List Binding → List Binding) : Authority :=
  authority.write resource (edit (authority.stored resource).bindings)

def fetch (authority : Authority) (resource : String) :
    Except RemoteError Policy × Authority :=
  let served :=
    { authority with fetches := authority.fetches + 1, fetchFailure := none }
  match authority.fetchFailure with
  | some failure => (.error failure, served)
  | none => (.ok (authority.policy resource), served)

def staleEtag (sent current : Etag) : RemoteError :=
  .conflict s!"etag {sent.token} is stale, current is {current.token}"

/-- Commit a policy to a resource.  An armed failure comes before the
comparison of etags. -/
def commit (authority : Authority) (resource : String) (policy : Policy) :
    Except RemoteError Unit × Authority :=
  let served :=
    { authority with commits := authority.commits + 1, commitFailure := none }
  match authority.commitFailure with
  | some failure => (.error failure, served)
  | none =>
    let current := (authority.policy resource).etag
    if policy.etag = current then
      (.ok (), served.write resource policy.bindings)
    else (.error (staleEtag policy.etag current), served)

/-- Whether a connection for a state to a resource can be made.  A state that is
tracked must be tracked on this very resource. -/
def reach (authority : Authority) (resource : String) (state : Tracked) :
    Except RemoteError Unit :=
  match authority.connectionFailure, state.id with
  | some failure, _ => .error failure
  | none, some id =>
    if id.resource = resource then .ok ()
    else .error
      (.invalid s!"binding {id.display} does not belong to {resource}")
  | none, none => .ok ()

def describe (resource : String) : String :=
  "in-memory resource " ++ Text.quoted resource

@[simp]
theorem stored_write_self (authority : Authority) (resource : String)
    (bindings : List Binding) :
    (authority.write resource bindings).stored resource =
      (authority.stored resource).write bindings := by
  simp [write]

theorem stored_write_of_ne (authority : Authority) {resource other : String}
    (bindings : List Binding) (hne : other ≠ resource) :
    (authority.write resource bindings).stored other =
      authority.stored other := by
  simp [write, hne]

end Authority

end AccessPolicy
