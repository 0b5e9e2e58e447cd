import AccessPolicy.Cycle

/-!
# Runs of read-modify-write cycles

A change of a policy that makes no requests is run between the fetch and the
commit of a cycle.  The outcome of the cycle then follows from the two answers
of the authority and from the outcome of the change, whatever the authority is.
-/

namespace AccessPolicy

variable {ρ α : Type}

def commitReport (connection : Connection ρ) (output : α)
    (answer : Except RemoteError Unit) : Except OperationError α :=
  (answer.mapError (.commit connection.description)).map fun () => output

/-- The second half of a cycle: the change, and the commit under the fetched
etag if the change succeeded. -/
theorem run_changeAndCommit (connection : Connection ρ) (change : Mutation α)
    (fetched : Policy) (world : World ρ) :
    (changeAndCommit connection
      (fun policy => liftM (change policy)) fetched).run world =
      match change fetched with
      | .error error => (.error error, world)
      | .ok (output, changed) =>
        let sent := { changed with etag := fetched.etag }
        let answered := connection.commit sent world
        (commitReport connection output answered.1,
          { answered.2 with
            log :=
              answered.2.log ++ commitEvents connection sent answered.1 }) := by
  rw [changeAndCommit, Action.run_bind, Action.run_liftM]
  rcases change fetched with error | ⟨output, changed⟩
  · rfl
  · simp only [Action.run_bind, run_commitPolicy]
    rcases connection.commit { changed with etag := fetched.etag } world with
      ⟨cause | ⟨⟩, later⟩
    · rfl
    · rfl

/-- A whole cycle: the second half follows a fetch that succeeded. -/
theorem run_readModifyWrite (connection : Connection ρ) (settings : Settings)
    (change : Policy → Action ρ (α × Policy)) (world : World ρ) :
    (readModifyWrite connection settings change).run world =
      match connection.fetch world with
      | (.error cause, later) =>
        (.error (.fetch connection.description cause), later)
      | (.ok policy, later) =>
        (changeAndCommit connection change policy).run
          { later with
            log := later.log ++ fetchEvents connection settings policy } := by
  rw [readModifyWrite, Action.run_bind, run_fetchPolicy]
  rcases connection.fetch world with ⟨cause | policy, later⟩
  · rfl
  · rfl

end AccessPolicy
