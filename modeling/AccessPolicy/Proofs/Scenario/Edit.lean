import AccessPolicy.Proofs.Arena.Interference
import AccessPolicy.Scenario.Edit

/-!
# Runs of edits

What the edits of a change make of a policy is decided by the policy alone.
What other actors do in the middle of it is done to the authority up to the
first edit that fails.  Nothing is logged.
-/

namespace AccessPolicy.PolicyEdit

def disturbance : PolicyEdit → List Interference
  | interfere changes => changes
  | _ => []

/-- What an edit makes of a policy, which no authority has a say in. -/
def outcome (edit : PolicyEdit) (policy : Policy) :
    Except OperationError Policy :=
  ((edit.apply "" policy).run { remote := {} }).1

def outcomeAll (edits : List PolicyEdit) (policy : Policy) :
    Except OperationError Policy :=
  edits.foldlM (fun policy edit => edit.outcome policy) policy

def disturbances (policy : Policy) : List PolicyEdit → List Interference
  | [] => []
  | edit :: rest =>
    edit.disturbance ++
      match edit.outcome policy with
      | .error _ => []
      | .ok changed => disturbances changed rest

def disturbed (resource : String) (changes : List Interference)
    (world : World Arena) : World Arena :=
  { world with
    remote.authority :=
      Interference.applyAll resource world.remote.authority changes }

theorem run_apply (resource : String) (policy : Policy) (edit : PolicyEdit)
    (world : World Arena) :
    (edit.apply resource policy).run world =
      (edit.outcome policy, disturbed resource edit.disturbance world) := by
  cases edit with
  | editBindings | setEtag | refuse | interfere => rfl
  | grant declaration =>
      simp only [apply, outcome]
      cases Policy.grant declaration policy <;> rfl
  | assign declaration =>
      simp only [apply, outcome]
      cases Policy.assign declaration policy <;> rfl
  | revoke role =>
      simp only [apply, outcome]
      cases Policy.revoke role policy <;> rfl
  | requireSingle role =>
      simp only [apply, outcome]
      cases policy.requireSingle role <;> rfl

theorem run_foldlM (resource : String) (edits : List PolicyEdit)
    (policy : Policy) (world : World Arena) :
    (edits.foldlM (apply resource) policy).run world =
      (outcomeAll edits policy,
        disturbed resource (disturbances policy edits) world) := by
  induction edits generalizing policy world with
  | nil => rfl
  | cons edit rest ih =>
      rw [List.foldlM_cons, Action.run_bind, run_apply, outcomeAll,
        List.foldlM_cons, disturbances]
      cases edit.outcome policy with
      | error error =>
          rw [List.append_nil]
          rfl
      | ok changed =>
          simp only [ih, disturbed, Interference.applyAll_append]
          rfl

/-- A change made of edits, as one step. -/
theorem run_applyAll (resource : String) (edits : List PolicyEdit)
    (policy : Policy) (world : World Arena) :
    (applyAll resource edits policy).run world =
      ((outcomeAll edits policy).map fun changed =>
        (changed.bindings.length, changed),
          disturbed resource (disturbances policy edits) world) := by
  rw [applyAll, Action.run_bind, run_foldlM]
  cases outcomeAll edits policy <;> rfl

end AccessPolicy.PolicyEdit
