import AccessPolicy.Event
import AccessPolicy.Policy.Mutation

/-!
# Remote authorities

The operations never hold a policy between two requests: they reach an authority
through a connection to one resource, and a connector makes such a connection
from the state of a binding.  What the authority remembers is a parameter, so
everything said about an operation holds for every authority.  A world is such a
memory together with the log; a failure keeps the world in which it happened.
-/

namespace AccessPolicy

/-- The memory of a remote authority, and what has been logged so far. -/
structure World (ρ : Type) where
  remote : ρ
  log : List Event := []

abbrev Request (ρ α : Type) := StateM (World ρ) (Except RemoteError α)

/-- A step of an operation. -/
abbrev Action (ρ α : Type) := ExceptT OperationError (StateM (World ρ)) α

variable {ρ α β : Type}

def emit (event : Event) : Action ρ Unit :=
  modify fun world => { world with log := world.log ++ [event] }

namespace Action

@[simp]
theorem run_pure (value : α) (world : World ρ) :
    (pure value : Action ρ α).run world = (.ok value, world) :=
  rfl

@[simp]
theorem run_throw (error : OperationError) (world : World ρ) :
    (throw error : Action ρ α).run world = (.error error, world) :=
  rfl

/-- The first error ends an action, in the world in which it happened. -/
theorem run_bind (first : Action ρ α) (next : α → Action ρ β)
    (world : World ρ) :
    (first >>= next).run world =
      match first.run world with
      | (.ok value, later) => (next value).run later
      | (.error error, later) => (.error error, later) := by
  change ExceptT.bindCont next (first.run world).1 (first.run world).2 = _
  rcases first.run world with ⟨_ | value, later⟩ <;> rfl

/-- A handler takes over in the world in which the error happened:
nothing is undone. -/
theorem run_tryCatch (first : Action ρ α) (handle : OperationError → Action ρ α)
    (world : World ρ) :
    (tryCatch first handle).run world =
      match first.run world with
      | (.ok value, later) => (.ok value, later)
      | (.error error, later) => (handle error).run later := by
  simp only [tryCatch, tryCatchThe, MonadExceptOf.tryCatch,
    ExceptT.tryCatch, ExceptT.run, ExceptT.mk, bind, StateT.bind]
  rcases first world with ⟨_ | value, later⟩ <;> rfl

@[simp]
theorem run_liftM (result : Except OperationError α) (world : World ρ) :
    (liftM result : Action ρ α).run world = (result, world) := by
  cases result <;> rfl

@[simp]
theorem run_request (request : Request ρ α) (world : World ρ) :
    (liftM request : Action ρ (Except RemoteError α)).run world =
      (.ok (request world).1, (request world).2) :=
  rfl

@[simp]
theorem run_emit (event : Event) (world : World ρ) :
    (emit event : Action ρ Unit).run world =
      (.ok (), { world with log := world.log ++ [event] }) :=
  rfl

end Action

/-- Read and write access to the policy of one resource. -/
structure Connection (ρ : Type) where
  /-- The identifier of the resource, with which identities begin. -/
  resource : String
  /-- What messages call the resource. -/
  description : String
  /-- Fetch the policy together with its etag. -/
  fetch : Request ρ Policy
  /-- Replace the policy.  The authority must refuse a policy whose etag
  is stale. -/
  commit : Policy → Request ρ Unit

/-- Makes the connection that the state of a binding asks for, without
any request. -/
abbrev Connector (ρ : Type) := Tracked → ρ → Except RemoteError (Connection ρ)

end AccessPolicy
