import AccessPolicy.Cycle
import AccessPolicy.Plan

/-!
# The life of a binding

Creating, reading, updating and deleting one declared binding.  Every operation
makes a connection of its own, runs at most one read-modify-write cycle, and
ends by reading the policy back into the state.  A role that is gone is no
error: the identity is cleared, so that the caller stops tracking the binding.
-/

namespace AccessPolicy

variable {ρ α β : Type}

inductive Presence where
  /-- The policy grants the role; members and etag were refreshed. -/
  | present
  /-- The policy does not grant the role; the identity was cleared. -/
  | absent
  deriving DecidableEq

inductive Removal where
  | removed
  /-- The policy did not grant the role; nothing was changed. -/
  | alreadyAbsent
  deriving DecidableEq

/-- How an operation ended, and the state it left, which may have changed
even if it failed. -/
structure Report (α : Type) where
  result : Except OperationError α
  state : Tracked

def Report.map (f : α → β) (report : Report α) : Report β :=
  { report with result := report.result.map f }

/-- Run an operation on a copy of a state, and yield the copy only if the
operation succeeds. -/
def onCopy (operation : Tracked → StateM (World ρ) (Report α))
    (state : Tracked) : Action ρ (α × Tracked) := do
  let report ← operation state
  let output ← report.result
  pure (output, report.state)

structure Controller (ρ : Type) where
  connect : Connector ρ
  settings : Settings := {}

namespace Controller

/-- Connect to the resource of a binding, then take its declaration from
the state. -/
def «open» (controller : Controller ρ) (state : Tracked) :
    Action ρ (Connection ρ × Declaration) := do
  let world ← get
  match controller.connect state world.remote with
  | .error cause => throw (.construction cause)
  | .ok connection =>
    let declaration ← state.declaration
    pure (connection, declaration)

/-- Opening a binding makes no request and logs nothing.  A failing connection
comes before a missing role. -/
theorem run_open (controller : Controller ρ) (state : Tracked)
    (world : World ρ) :
    (controller.open state).run world =
      (match controller.connect state world.remote with
        | .error cause => .error (.construction cause)
        | .ok connection =>
          state.declaration.map fun declaration => (connection, declaration),
      world) := by
  have hget : (get : Action ρ (World ρ)).run world = (.ok world, world) := rfl
  rw [Controller.open, Action.run_bind, hget]
  simp only
  cases controller.connect state world.remote with
  | error cause => rfl
  | ok connection => cases state.declaration <;> rfl

/-- The entry for the role of a binding, with the etag of the policy it
stands in. -/
def lookUp (controller : Controller ρ) (state : Tracked) :
    Action ρ (Option (Binding × Etag)) := do
  let (connection, declaration) ← controller.open state
  let policy ← fetchPolicy connection controller.settings
  match policy.binding? declaration.role with
  | some binding => pure (some (binding, policy.etag))
  | none =>
    emit (.notFound connection.description declaration.role)
    pure none

/-- Run one cycle that changes the policy as the declaration says, and yield the
identity of the binding and the output of the change. -/
def write (controller : Controller ρ) (state : Tracked)
    (change : Declaration → Mutation α) : Action ρ (BindingId × α) := do
  let (connection, declaration) ← controller.open state
  let output ← readModifyWrite connection controller.settings fun policy =>
    liftM (change declaration policy)
  pure (⟨connection.resource, declaration.role⟩, output)

/-- Refresh the state from the policy. -/
def read (controller : Controller ρ) (state : Tracked) :
    StateM (World ρ) (Report Presence) := do
  match ← (controller.lookUp state).run with
  | .error error => pure ⟨.error error, state⟩
  | .ok (some (binding, etag)) =>
    pure ⟨.ok .present, state.observe binding etag⟩
  | .ok none => pure ⟨.ok .absent, state.clearId⟩

/-- Change the policy, record the identity of the binding, and read the
policy back. -/
def writeThenRead (controller : Controller ρ) (state : Tracked)
    (change : Declaration → Mutation Unit) :
    StateM (World ρ) (Report Presence) := do
  match ← (controller.write state change).run with
  | .error error => pure ⟨.error error, state⟩
  | .ok (id, ()) => controller.read (state.setId id)

/-- Add the declared members to the role and track the binding.  Members
that the role is granted to already stay; if there are any, the next plan
shows them as drift. -/
def create (controller : Controller ρ) (state : Tracked) :
    StateM (World ρ) (Report Presence) :=
  controller.writeThenRead state Policy.grant

/-- Make the role grant exactly the declared members and track the binding. -/
def update (controller : Controller ρ) (state : Tracked) :
    StateM (World ρ) (Report Presence) :=
  controller.writeThenRead state Policy.assign

/-- Drop the role from the policy, and log it if there was nothing to drop. -/
def drop (controller : Controller ρ) (state : Tracked) : Action ρ Removal := do
  let (connection, declaration) ← controller.open state
  let entries ← readModifyWrite connection controller.settings fun policy =>
    liftM (Policy.revoke declaration.role policy)
  if entries = 0 then
    emit (.nothingToDelete connection.description declaration.role)
    pure .alreadyAbsent
  else pure .removed

/-- Drop the role from the policy and read the policy back.  Dropping a role
that is already gone succeeds. -/
def delete (controller : Controller ρ) (state : Tracked) :
    StateM (World ρ) (Report Removal) := do
  match ← (controller.drop state).run with
  | .error error => pure ⟨.error error, state⟩
  | .ok removal =>
    let closing ← controller.read state
    pure (closing.map fun _ => removal)

/-- Start to track an existing binding by its name. -/
def adopt (controller : Controller ρ) (name : String) : Action ρ Tracked := do
  let id ← BindingId.parse name
  let report ← controller.read (.ofId id)
  match ← report.result with
  | .present => pure report.state
  | .absent => throw (.invalidBinding (.notGranted id.role id.resource))

end Controller

end AccessPolicy
