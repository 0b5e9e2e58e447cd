import AccessPolicy.Proofs.Controller.Ending

/-!
# Failures are all or nothing

An operation that reports an error either stored nothing and left its state
alone, or it stored its whole change once and lost only the read that closes it.
The number of accepted commits tells the two apart.  A conflict is always of the
first kind, so that an operation which failed with one may be run again.
-/

namespace AccessPolicy.Arena

/-- None of the commits of a failed operation was accepted: its state is as
before, and the store is what the others made of it. -/
def FailedBefore {α : Type} (own : String) (state : Tracked)
    (world : World Arena) (report : Report α) (final : World Arena) : Prop :=
  report.state = state ∧ ∃ fetches commits,
    OthersOnly own fetches commits world final ∧
    EditedByOthers own fetches world final

/-- The change of a failed operation was accepted, once, and the error is that
of the closing read.  For a creation or an update the state has the identity of
the binding, for a deletion it is as before. -/
def FailedAfter {α : Type} (own : String) (settings : Settings)
    (operation : Writing) (state : Tracked) (error : OperationError)
    (world : World Arena) (report : Report α) (final : World Arena) : Prop :=
  report.state = operation.recorded own state ∧
    ClosingFailed own settings (operation.edit ⟨state.role, state.members⟩)
      (operation.recorded own state) 1 error world final

variable {own : String} {settings : Settings} {state : Tracked}
    {error : OperationError}
variable {world final : World Arena} {report : Report Scenario.Answer}

/-- No commit is both accepted and not. -/
theorem FailedBefore.not_after {operation : Writing}
    (hbefore : FailedBefore own state world report final) :
    ¬FailedAfter own settings operation state error world report final := by
  intro hafter
  obtain ⟨-, fetches, commits, hothers, -⟩ := hbefore
  obtain ⟨-, hclosing⟩ := hafter
  obtain ⟨fetches', hwrite, -⟩ := hclosing.stored
  have hnone := hothers.acceptances
  have hone := hwrite.acceptances
  omega

/-- An operation that changes the policy fails before its change is
stored, or after. -/
theorem failed_cases (operation : Writing)
    (hrun : (operation.lifecycle.run (controller own settings) state).run
      world = (report, final))
    (herror : report.result = .error error) :
    FailedBefore own state world report final ∨
      (FailedAfter own settings operation state error world report final ∧
        error.isConflict = false) := by
  have hend := operation.operation_end own settings state world
  rw [hrun] at hend
  cases hend with
  | failed hothers => exact .inl ⟨rfl, _, _, hothers, hothers.edited⟩
  | unread hclosing =>
      cases herror
      exact .inr ⟨⟨rfl, hclosing⟩, hclosing.not_isConflict⟩
  | finished => cases herror

/-- A read stores nothing, and if it fails it leaves the state alone. -/
theorem read_failed
    (hrun :
      (Scenario.Lifecycle.read.run (controller own settings) state).run world =
        (report, final))
    (herror : report.result = .error error) :
    FailedBefore own state world report final := by
  have hend := read_end own settings state world
  rcases hread : ((controller own settings).read state).run world
      with ⟨found, later⟩
  have hmapped : (found.map Scenario.Answer.presence, later) =
      (report, final) := by
    rw [← hrun]
    exact (congrArg
      (fun ended => (ended.1.map Scenario.Answer.presence, ended.2)) hread).symm
  cases hmapped
  rw [hread] at hend
  cases hend with
  | unopened => exact ⟨rfl, 0, 0, .refl own _, (OthersOnly.refl own _).edited⟩
  | fetchFailed hothers => exact ⟨rfl, 1, 0, hothers, hothers.edited⟩
  | finished => cases herror

/-- An operation that fails does so before its change is stored or after, and
not both.  Only a creation or an update changes the state when it fails, and
only after its change was stored: then the state differs in its identity alone.
With a conflict nothing was stored. -/
theorem error_atomicity (own : String) (settings : Settings)
    (operation : Scenario.Lifecycle) (state : Tracked) (world : World Arena)
    {report : Report Scenario.Answer} {final : World Arena}
    {error : OperationError}
    (hrun : (operation.run (controller own settings) state).run world =
      (report, final))
    (herror : report.result = .error error) :
    (∀ writing : Writing, writing.lifecycle = operation →
      Xor (FailedBefore own state world report final)
        (FailedAfter own settings writing state error world report final)) ∧
    (operation = .read → FailedBefore own state world report final) ∧
    (operation = .delete → report.state = state) ∧
    (error.isConflict = true → FailedBefore own state world report final) := by
  refine ⟨?_, ?_, ?_, ?_⟩
  · intro writing hwriting
    subst hwriting
    obtain hbefore | ⟨hafter, -⟩ := failed_cases writing hrun herror
    · exact .inl ⟨hbefore, hbefore.not_after⟩
    · exact .inr ⟨hafter, fun hbefore => hbefore.not_after hafter⟩
  · intro hread
    subst hread
    exact read_failed hrun herror
  · intro hdelete
    subst hdelete
    obtain hbefore | ⟨hafter, -⟩ := failed_cases .delete hrun herror
    · exact hbefore.1
    · exact hafter.1
  · intro hconflict
    obtain rfl | ⟨writing, rfl⟩ := Writing.lifecycle_cases operation
    · exact read_failed hrun herror
    · obtain hbefore | ⟨-, hnone⟩ := failed_cases writing hrun herror
      · exact hbefore
      · rw [hnone] at hconflict
        cases hconflict

/-- A world in which nobody can connect any more once the first fetch
has been served. -/
def hangUp : World Arena where
  remote.races := [{ after := [.failConnection (some (.transport "down"))] }]

def cutOff : Report Scenario.Answer × World Arena :=
  (Scenario.Lifecycle.create.run (controller "projects/demo")
    (.declare "roles/viewer" ["user:a"])).run hangUp

theorem error_atomicity_cutOff :
    cutOff.1.result = .error (.construction (.transport "down")) ∧
      ∀ writing : Writing, writing.lifecycle = .create →
        Xor
          (FailedBefore "projects/demo"
            (.declare "roles/viewer" ["user:a"]) hangUp cutOff.1 cutOff.2)
          (FailedAfter "projects/demo" {} writing
            (.declare "roles/viewer" ["user:a"])
            (.construction (.transport "down")) hangUp cutOff.1 cutOff.2) := by
  have hrun : cutOff = (cutOff.1, cutOff.2) := rfl
  have herror : cutOff.1.result =
      .error (.construction (.transport "down")) := by
    have hdown : cutOff.1.result.map (fun _ => ()) =
        .error (.construction (.transport "down")) := by decide +kernel
    cases hresult : cutOff.1.result with
    | error error =>
        rw [hresult] at hdown
        cases hdown
        rfl
    | ok answer =>
        rw [hresult] at hdown
        cases hdown
  exact ⟨herror, (error_atomicity "projects/demo" {} .create
    (.declare "roles/viewer" ["user:a"]) hangUp hrun herror).1⟩

end AccessPolicy.Arena
