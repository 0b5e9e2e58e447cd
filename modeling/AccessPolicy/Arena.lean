import AccessPolicy.Authority
import AccessPolicy.Controller

/-!
# An authority with other writers

Other actors write to an authority while an operation runs.  What they do is
laid down beforehand: the first fetch has the first interference around it, the
next fetch the next one, until none is left.  An authority with an empty queue
is one that nobody else touches.
-/

namespace AccessPolicy

/-- Something that another actor does to an authority. -/
inductive Interference where
  /-- Change the bindings of a resource, or of the one that is being fetched
  if none is named. -/
  | write (resource : Option String) (edit : List Binding → List Binding)
  | failFetch (failure : RemoteError)
  | failCommit (failure : RemoteError)
  /-- Arm a failure of every connection, or lift it. -/
  | failConnection (failure : Option RemoteError)

namespace Interference

def apply (own : String) (authority : Authority) : Interference → Authority
  | write resource edit => authority.change (resource.getD own) edit
  | failFetch failure => { authority with fetchFailure := some failure }
  | failCommit failure => { authority with commitFailure := some failure }
  | failConnection failure => { authority with connectionFailure := failure }

def applyAll (own : String) (authority : Authority)
    (changes : List Interference) : Authority :=
  changes.foldl (apply own) authority

end Interference

/-- What happens around one fetch. -/
structure Race where
  before : List Interference := []
  after : List Interference := []
  deriving Inhabited

/-- An authority and what will happen around the coming fetches. -/
structure Arena where
  authority : Authority := {}
  races : List Race := []
  deriving Inhabited

namespace Arena

/-- Fetch the policy of a resource amid the next race.  What follows the fetch
happens also if the fetch failed. -/
def fetch (resource : String) (arena : Arena) :
    Except RemoteError Policy × Arena :=
  let race := arena.races.headD {}
  let (result, authority) :=
    (Interference.applyAll resource arena.authority race.before).fetch resource
  (result,
    ⟨Interference.applyAll resource authority race.after, arena.races.tail⟩)

def connection (resource : String) : Connection Arena where
  resource
  description := Authority.describe resource
  fetch := fun world =>
    let (result, arena) := world.remote.fetch resource
    (result, { world with remote := arena })
  commit policy := fun world =>
    let (result, authority) := world.remote.authority.commit resource policy
    let events :=
      match result with
      | .ok () => [Event.stored resource (authority.policy resource).etag]
      | .error _ => []
    (result, ⟨{ world.remote with authority }, world.log ++ events⟩)

def connector (resource : String) : Connector Arena := fun state arena =>
  (arena.authority.reach resource state).map fun () => connection resource

def controller (resource : String) (settings : Settings := {}) :
    Controller Arena where
  connect := connector resource
  settings

end Arena

end AccessPolicy
