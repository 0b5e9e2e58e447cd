import AccessPolicy.Remote

/-!
# Read-modify-write cycles

One cycle fetches a policy, changes it and commits it under the etag it was
fetched with, so a writer that came in between makes the commit fail.  A cycle
is run once and never repeated here.  It has two halves, a fetch and what
follows it; other writers act between the two.
-/

namespace AccessPolicy

variable {ρ α : Type}

/-- Fetch the policy of a connection's resource, and log what was fetched. -/
def fetchPolicy (connection : Connection ρ) (settings : Settings) :
    Action ρ Policy := do
  match ← connection.fetch with
  | .error cause => throw (.fetch connection.description cause)
  | .ok policy =>
    emit (.retrieved connection.description policy.etag policy.bindings.length)
    if settings.logPolicyContents then
      emit (.contents connection.description policy)
    pure policy

/-- Commit a policy, and log whether it was accepted. -/
def commitPolicy (connection : Connection ρ) (policy : Policy) :
    Action ρ Unit := do
  match ← connection.commit policy with
  | .ok () =>
    emit (.committed connection.description policy.etag policy.bindings.length)
  | .error cause =>
    if cause.isConflict then
      emit (.rejected connection.description policy.etag cause)
    throw (.commit connection.description cause)

/-- Change a fetched policy and commit it.  Nothing is committed if the change
fails.  The etag is what the authority compares, so the commit carries the
fetched one whatever the change made of it. -/
def changeAndCommit (connection : Connection ρ)
    (change : Policy → Action ρ (α × Policy)) (fetched : Policy) :
    Action ρ α := do
  let (output, changed) ← change fetched
  commitPolicy connection { changed with etag := fetched.etag }
  pure output

def readModifyWrite (connection : Connection ρ) (settings : Settings)
    (change : Policy → Action ρ (α × Policy)) : Action ρ α := do
  let fetched ← fetchPolicy connection settings
  changeAndCommit connection change fetched

/-! ## What a cycle does to a world -/

def fetchEvents (connection : Connection ρ) (settings : Settings)
    (policy : Policy) : List Event :=
  .retrieved connection.description policy.etag policy.bindings.length ::
    if settings.logPolicyContents then [.contents connection.description policy]
    else []

def commitEvents (connection : Connection ρ) (policy : Policy) :
    Except RemoteError Unit → List Event
  | .ok () =>
    [.committed connection.description policy.etag policy.bindings.length]
  | .error cause =>
    if cause.isConflict then
      [.rejected connection.description policy.etag cause]
    else []

theorem run_fetchPolicy (connection : Connection ρ) (settings : Settings)
    (world : World ρ) :
    (fetchPolicy connection settings).run world =
      match connection.fetch world with
      | (.ok policy, later) =>
        (.ok policy, { later with
          log := later.log ++ fetchEvents connection settings policy })
      | (.error cause, later) =>
        (.error (.fetch connection.description cause), later) := by
  rw [fetchPolicy, Action.run_bind, Action.run_request]
  simp only
  rcases connection.fetch world with ⟨cause | policy, later⟩
  · rfl
  · cases hlog : settings.logPolicyContents <;>
      simp [fetchEvents, hlog, Action.run_bind, -bind_pure_comp]

theorem run_commitPolicy (connection : Connection ρ) (policy : Policy)
    (world : World ρ) :
    (commitPolicy connection policy).run world =
      match connection.commit policy world with
      | (result, later) =>
        (result.mapError (.commit connection.description),
          { later with
            log := later.log ++ commitEvents connection policy result }) := by
  rw [commitPolicy, Action.run_bind, Action.run_request]
  simp only
  rcases connection.commit policy world with ⟨cause | _, later⟩
  · cases hconflict : cause.isConflict <;>
      simp only [commitEvents, hconflict, Action.run_bind,
        Action.run_emit, if_true, Bool.false_eq_true, if_false,
        List.append_nil] <;>
      rfl
  · rfl

end AccessPolicy
