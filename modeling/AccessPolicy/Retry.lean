import AccessPolicy.Remote

/-!
# Running again after a conflict

A conflict means that another writer committed between a fetch and the commit
behind it.  The only sound answer is to run the whole operation again from a
fresh fetch.  Everything else ends the attempts at once.
-/

namespace AccessPolicy

variable {ρ α : Type}

def attemptFrom (backoff : Backoff) (operation : Action ρ α) :
    (left : Nat) → (attempt : UInt32) → Action ρ α
  | 0, _ => operation
  | left + 1, attempt =>
    tryCatch operation fun error => do
      if error.isConflict then
        emit (.retrying attempt backoff.attempts
          (backoff.delayFor attempt) error)
        attemptFrom backoff operation left (attempt + 1)
      else throw error

/-- Only a conflict leads to another attempt, and it is logged first. -/
theorem run_attemptFrom_succ (backoff : Backoff) (operation : Action ρ α)
    (left : Nat) (attempt : UInt32) (world : World ρ) :
    (attemptFrom backoff operation (left + 1) attempt).run world =
      match operation.run world with
      | (.ok value, later) => (.ok value, later)
      | (.error error, later) =>
        if error.isConflict then
          (attemptFrom backoff operation left (attempt + 1)).run
            { later with log := later.log ++
                [.retrying attempt backoff.attempts
                  (backoff.delayFor attempt) error] }
        else (.error error, later) := by
  rw [attemptFrom, Action.run_tryCatch]
  rcases operation.run world with ⟨error | value, later⟩
  · cases hconflict : error.isConflict <;> simp [hconflict, Action.run_bind]
  · rfl

/-- Run an operation until it succeeds, fails with anything but a conflict, or
has been attempted as often as the schedule allows. -/
def retryOnConflict (backoff : Backoff) (operation : Action ρ α) : Action ρ α :=
  attemptFrom backoff operation (backoff.attempts.toNat - 1) 1

/-- The operation that ends at each call as laid down, the calls being counted
from one.  Its remote memory is the number of calls made. -/
def scripted (outcome : Nat → Except OperationError α) : Action Nat α := do
  let world ← get
  let call := world.remote + 1
  set { world with remote := call }
  liftM (outcome call)

/-- The outcomes that some failures lay down, call by call.  Where there is no
failure, or they have come to an end, the outcome is the number of the call. -/
def outcomeOf (failures : List (Option OperationError)) (call : Nat) :
    Except OperationError Nat :=
  match failures[call - 1]? with
  | some (some error) => .error error
  | _ => .ok call

end AccessPolicy
