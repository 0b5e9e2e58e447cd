import AccessPolicy.Retry
import Mathlib.Data.UInt

/-!
# Runs of repeated operations

A repeated operation runs through some attempts that end in conflicts, each of
them logged before the next, and then through one last attempt, whose outcome is
its own.  If that outcome is a conflict too, then no attempt was left.
-/

namespace AccessPolicy

variable {ρ α : Type}

/-- The world in which the next attempt starts. -/
def retrying (backoff : Backoff) (attempt : UInt32) (error : OperationError)
    (world : World ρ) : World ρ where
  remote := world.remote
  log := world.log ++
    [.retrying attempt backoff.attempts (backoff.delayFor attempt) error]

/-- So many attempts in a row, counted from the given one, ended in a
conflict. -/
inductive Conflicts (backoff : Backoff) (operation : Action ρ α) :
    (attempt : UInt32) → (retries : Nat) → World ρ → World ρ → Prop
  | none {attempt : UInt32} {world : World ρ} :
      Conflicts backoff operation attempt 0 world world
  | again {attempt : UInt32} {retries : Nat} {error : OperationError}
      {world failed last : World ρ}
      (hrun : operation.run world = (.error error, failed))
      (hconflict : error.isConflict = true)
      (hrest : Conflicts backoff operation (attempt + 1) retries
        (retrying backoff attempt error failed) last) :
      Conflicts backoff operation attempt (retries + 1) world last

/-- Whether an outcome leads to another attempt if there is one. -/
def isRetried : Except OperationError α → Bool
  | .ok _ => false
  | .error error => error.isConflict

/-- Attempts end with one that is not retried, or with the last one that
is left. -/
theorem attemptFrom_end (backoff : Backoff) (operation : Action ρ α)
    (left : Nat) (attempt : UInt32) (world : World ρ) :
    ∃ retries last, retries ≤ left ∧
      Conflicts backoff operation attempt retries world last ∧
      (attemptFrom backoff operation left attempt).run world =
        operation.run last ∧
      (isRetried (operation.run last).1 = true → retries = left) := by
  induction left generalizing attempt world with
  | zero => exact ⟨0, world, Nat.le_refl 0, .none, rfl, fun _ => rfl⟩
  | succ left ih =>
      rw [run_attemptFrom_succ]
      rcases hrun : operation.run world with ⟨error | value, later⟩
      · cases hconflict : error.isConflict with
        | false =>
            refine ⟨0, world, Nat.zero_le _, .none, ?_, ?_⟩
            · rw [hrun]
              simp only [hconflict, Bool.false_eq_true, if_false]
            · intro hretried
              rw [hrun, isRetried, hconflict] at hretried
              cases hretried
        | true =>
            obtain ⟨retries, last, hleft, hconflicts, hlast, hexhausted⟩ :=
              ih (attempt + 1) (retrying backoff attempt error later)
            refine ⟨retries + 1, last, Nat.succ_le_succ hleft,
              .again hrun hconflict hconflicts, ?_, ?_⟩
            · simp only [hconflict, if_true]
              -- The other attempts go on from the world in which the conflict
              -- was logged.
              exact hlast
            · intro hretried
              rw [hexhausted hretried]
      · refine ⟨0, world, Nat.zero_le _, .none, hrun.symm, ?_⟩
        intro hretried
        rw [hrun] at hretried
        cases hretried

/-- The first attempt is made even if none is allowed. -/
theorem Backoff.toNat_attempts (backoff : Backoff) :
    backoff.attempts.toNat = max backoff.maxAttempts.toNat 1 := by
  rw [Backoff.attempts, UInt32.toNat_max]
  rfl

/-- A repeated operation ends as one of its attempts does, behind fewer
conflicts than there are attempts. -/
theorem retryOnConflict_end (backoff : Backoff) (operation : Action ρ α)
    (world : World ρ) :
    ∃ retries last, retries < max backoff.maxAttempts.toNat 1 ∧
      Conflicts backoff operation 1 retries world last ∧
      (retryOnConflict backoff operation).run world = operation.run last ∧
      (isRetried (operation.run last).1 = true →
        retries + 1 = max backoff.maxAttempts.toNat 1) := by
  have hpos : 1 ≤ max backoff.maxAttempts.toNat 1 := Nat.le_max_right _ 1
  rw [← backoff.toNat_attempts] at hpos ⊢
  obtain ⟨retries, last, hleft, hconflicts, hlast, hexhausted⟩ :=
    attemptFrom_end backoff operation (backoff.attempts.toNat - 1) 1 world
  refine ⟨retries, last, by omega, hconflicts, hlast, ?_⟩
  intro hretried
  rw [hexhausted hretried]
  exact Nat.sub_add_cancel hpos

/-- An operation that never ends in a conflict is not run again. -/
theorem retryOnConflict_of_not_retried {operation : Action ρ α}
    (hnever : ∀ world, isRetried (operation.run world).1 = false)
    (backoff : Backoff) : retryOnConflict backoff operation = operation := by
  apply funext
  intro world
  obtain ⟨retries, last, -, hconflicts, hlast, -⟩ :=
    retryOnConflict_end backoff operation world
  cases hconflicts with
  | none => exact hlast
  | again hrun hconflict hrest =>
      have hnone := hnever world
      rw [hrun, isRetried, hconflict] at hnone
      cases hnone

end AccessPolicy
