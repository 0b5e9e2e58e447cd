import AccessPolicy.Proofs.Controller.Ending
import AccessPolicy.Proofs.Retry

/-!
# Repeated operations change a policy once

An attempt that ends in a conflict stored nothing, and it is the only kind of
attempt that is followed by another.  So all attempts before the last one leave
the store to the others, and the change of the last attempt, if it was
accepted, is the only one.
-/

namespace AccessPolicy

/-- One attempt at an operation that changes the policy, on a copy of the
state. -/
def Writing.attempt (operation : Writing) (own : String) (settings : Settings)
    (state : Tracked) : Action Arena (Scenario.Answer × Tracked) :=
  onCopy (operation.lifecycle.run (Arena.controller own settings) ·) state

namespace Arena

variable {own : String} {settings : Settings} {state : Tracked}
    {operation : Writing}
variable {result : Except OperationError (Scenario.Answer × Tracked)}
variable {world last later : World Arena}

/-- The ends of an attempt are those of the operation. -/
theorem attempt_cases
    (hrun : (operation.attempt own settings state).run world =
      (result, later)) :
    (∃ error fetches commits, result = .error error ∧
      OthersOnly own fetches commits world later ∧
      (error.isConflict = true → fetches = 1 ∧ commits = 1)) ∨
    (∃ error, result = .error error ∧
      ClosingFailed own settings (operation.edit ⟨state.role, state.members⟩)
        (operation.recorded own state) 1 error world later) ∨
    (∃ yielded, result = .ok yielded ∧
      OneWrite own (operation.edit ⟨state.role, state.members⟩) 2 1
        world later) := by
  have hend := operation.operation_end own settings state world
  rw [Writing.attempt, run_onCopy] at hrun
  cases hrun
  generalize (operation.lifecycle.run (controller own settings) state).run
      world = ended at hend ⊢
  obtain ⟨report, later⟩ := ended
  cases hend with
  | failed hothers hconflict => exact .inl ⟨_, _, _, rfl, hothers, hconflict⟩
  | unread hclosing => exact .inr (.inl ⟨_, rfl, hclosing⟩)
  | finished hwrite => exact .inr (.inr ⟨_, rfl, hwrite⟩)

/-- An attempt that ends in a conflict made one fetch and one commit,
and stored nothing. -/
theorem othersOnly_conflict {error : OperationError}
    (hrun : (operation.attempt own settings state).run world =
      (.error error, later))
    (hconflict : error.isConflict = true) :
    OthersOnly own 1 1 world later := by
  obtain ⟨_, fetches, commits, herror, hothers, hone⟩ | ⟨_, herror, hclosing⟩ |
      ⟨_, hok, _⟩ :=
    attempt_cases hrun
  · cases herror
    obtain ⟨rfl, rfl⟩ := hone hconflict
    exact hothers
  · cases herror
    rw [hclosing.not_isConflict] at hconflict
    cases hconflict
  · cases hok

/-- Waiting for the next attempt is no request. -/
theorem othersOnly_retrying (own : String) (backoff : Backoff)
    (attempt : UInt32) (error : OperationError) (world : World Arena) :
    OthersOnly own 0 0 world (retrying backoff attempt error world) :=
  othersOnly_log own world rfl

/-- Attempts that end in conflicts leave the store to the others. -/
theorem othersOnly_conflicts {backoff : Backoff} {attempt : UInt32}
    {retries : Nat}
    (hconflicts : Conflicts backoff (operation.attempt own settings state)
      attempt retries world last) :
    OthersOnly own retries retries world last := by
  -- Each attempt starts in the world that the one before it left, so their
  -- accounts add up.
  induction hconflicts with
  | none => exact .refl own _
  | again hrun hconflict _ ih =>
      have hfailed := othersOnly_conflict hrun hconflict
      rw [Nat.add_comm]
      exact (hfailed.trans (othersOnly_retrying own backoff _ _ _)).trans ih

/-- An operation that is run again after conflicts changes the policy once if it
succeeds, and otherwise at most once.  All attempts but the last one leave the
store to the others, so that none is made after an accepted commit.  The last
one changes the policy if it succeeds, or if it fails in its closing read.  If
it fails with a conflict, every allowed attempt made its commit.  The stored
bindings are those from before, edited in turn by the others and, if the policy
was changed, once by the operation. -/
theorem exactly_once (backoff : Backoff) (operation : Writing) (own : String)
    (settings : Settings) (state : Tracked) (world : World Arena) :
    let attempt := operation.attempt own settings state
    let attempts := max backoff.maxAttempts.toNat 1
    let edit := operation.edit ⟨state.role, state.members⟩
    let ended := (retryOnConflict backoff attempt).run world
    (∃ retries last, retries < attempts ∧
      OthersOnly own retries retries world last ∧
      ended = attempt.run last) ∧
    match ended.1 with
    | .ok _ =>
      ∃ fetches commits, OneWrite own edit fetches commits world ended.2 ∧
        EditedOnce own edit fetches world ended.2
    | .error error =>
      if error.isConflict then
        OthersOnly own attempts attempts world ended.2 ∧
          EditedByOthers own attempts world ended.2
      else
        (∃ fetches commits, OthersOnly own fetches commits world ended.2 ∧
          EditedByOthers own fetches world ended.2) ∨
          ∃ commits, ClosingFailed own settings edit
            (operation.recorded own state) commits error world ended.2 := by
  intro attempt attempts edit ended
  obtain ⟨retries, last, hretries, hconflicts, hlast, hexhausted⟩ :=
    retryOnConflict_end backoff attempt world
  have hbefore := othersOnly_conflicts hconflicts
  refine ⟨⟨retries, last, hretries, hbefore, hlast⟩, ?_⟩
  have hended : ended = attempt.run last := hlast
  rcases hrun : attempt.run last with ⟨result, final⟩
  rw [hended, hrun]
  rw [hrun] at hexhausted
  obtain ⟨error, fetches, commits, rfl, hothers, hone⟩ |
      ⟨error, rfl, hclosing⟩ | ⟨yielded, rfl, hwrite⟩ := attempt_cases hrun
  · cases hconflict : error.isConflict with
    | false =>
        simp only [hconflict, Bool.false_eq_true, if_false]
        have hall := hbefore.trans hothers
        exact .inl ⟨_, _, hall, hall.edited⟩
    | true =>
        obtain ⟨rfl, rfl⟩ := hone hconflict
        simp only [hconflict, if_true]
        have hall : OthersOnly own (retries + 1) (retries + 1) world final :=
          hbefore.trans hothers
        rw [hexhausted hconflict] at hall
        exact ⟨hall, hall.edited⟩
  · simp only [hclosing.not_isConflict, Bool.false_eq_true, if_false]
    exact .inr ⟨_, hbefore.then_closingFailed hclosing⟩
  · have hall := hbefore.then_write hwrite
    exact ⟨_, _, hall, hall.edited⟩

/-- Another writer comes between the first fetch and its commit, and the second
attempt succeeds. -/
example :
    let attempt := Writing.create.attempt "projects/demo" {}
      (.declare "roles/viewer" ["user:a"])
    let race : Race :=
      { after := [.write none (⟨"roles/owner", ["user:o"]⟩ :: ·)] }
    let final := ((retryOnConflict {} attempt).run { remote.races := [race] }).2
    final.remote.authority.commits = 2 ∧ acceptances final = 1 ∧
      (final.remote.authority.stored "projects/demo").bindings =
        [⟨"roles/owner", ["user:o"]⟩, ⟨"roles/viewer", ["user:a"]⟩] := by
  decide +kernel

end Arena

end AccessPolicy
