import AccessPolicy.Proofs.Arena.Calm
import AccessPolicy.Proofs.Controller.Drift
import AccessPolicy.Proofs.Policy.UniqueRoles

/-!
# What operations do when nobody disturbs them

An operation that nobody disturbs succeeds, if its binding can be opened at all.
What it stores is its edit of the bindings, and what it reports follows from the
policies before and after it.
-/

namespace AccessPolicy

/-- A single entry grants exactly what the policy does. -/
theorem Policy.mem_memberSet_iff {policy : Policy} {role member : String}
    {entry : Binding} (hentry : policy.binding? role = some entry)
    (hsingle : policy.roleCount role ≤ 1) :
    member ∈ entry.memberSet ↔ member ∈ policy.granted role := by
  rw [Binding.mem_memberSet]
  exact ⟨granted_of_binding? hentry, mem_of_granted hentry hsingle⟩

namespace Scenario.Lifecycle

def edit (declaration : Declaration) : Lifecycle → List Binding → List Binding
  | create => fun bindings => Policy.grantedBindings bindings declaration
  | read => fun bindings => bindings
  | update => Policy.assignedBindings declaration
  | delete => Policy.revokedBindings declaration.role

/-- What an operation reports, given the policies before and after it. -/
def report (own : String) (state : Tracked) (before after : Policy) :
    Lifecycle → Report Answer
  | create | update =>
    (Controller.absorbed (state.setId ⟨own, state.role⟩)
      (after.found state.role)).map .presence
  | read => (Controller.absorbed state (after.found state.role)).map .presence
  | delete =>
    (Controller.absorbed state (after.found state.role)).map fun _ =>
      .removal (if before.roleCount state.role = 0 then .alreadyAbsent
        else .removed)

end Scenario.Lifecycle

/-- An operation on a binding that cannot be opened reports why, and
does nothing. -/
theorem Controller.run_unopened {ρ : Type} (controller : Controller ρ)
    (operation : Scenario.Lifecycle) {state : Tracked} {world : World ρ}
    {error : OperationError}
    (hopening : controller.opening state world.remote = .error error) :
    (operation.run controller state).run world =
      (⟨.error error, state⟩, world) := by
  cases operation with
  | create =>
      have hrun : (controller.create state).run world =
          (⟨.error error, state⟩, world) := by
        rw [Controller.create, run_writeThenRead, run_write, hopening]
      exact Report.run_map _ hrun
  | read =>
      have hrun : (controller.read state).run world =
          (⟨.error error, state⟩, world) := by
        rw [run_read, run_lookUp, hopening]
      exact Report.run_map _ hrun
  | update =>
      have hrun : (controller.update state).run world =
          (⟨.error error, state⟩, world) := by
        rw [Controller.update, run_writeThenRead, run_write, hopening]
      exact Report.run_map _ hrun
  | delete =>
      have hrun : (controller.delete state).run world =
          (⟨.error error, state⟩, world) := by
        rw [run_delete, run_drop, hopening]
      exact Report.run_map _ hrun

namespace Arena

variable {own : String} {settings : Settings} {state : Tracked}
    {world : World Arena}

/-- A deletion is stored, and tells whether there was anything to delete. -/
theorem Calm.run_delete (hcalm : world.remote.Calm) (settings : Settings)
    (state : Tracked) (hrole : state.role.isEmpty = false)
    (hbelongs : state.BelongsTo own) :
    ∃ later, ((controller own settings).delete state).run world =
        ((Controller.absorbed state
            ((later.remote.authority.policy own).found state.role)).map
          fun _ =>
            if (world.remote.authority.policy own).roleCount state.role = 0
            then .alreadyAbsent else .removed,
          later) ∧
      later.remote.Calm ∧
      (later.remote.authority.policy own).bindings =
        Policy.revokedBindings state.role
          (world.remote.authority.policy own).bindings := by
  obtain ⟨between, hcycle, hbetween, hstored⟩ :=
    hcalm.run_cycle (controller own settings).settings
      (Policy.revoke_eq_ok state.role (world.remote.authority.policy own))
  rw [Controller.run_delete, Controller.run_drop,
    hcalm.opening settings hrole hbelongs]
  simp only [hcycle, Controller.fst_removal]
  have hremote := Controller.remote_removal (connection own) state.role
    ((world.remote.authority.policy own).roleCount state.role) between
  generalize (Controller.removal (connection own) state.role
    ((world.remote.authority.policy own).roleCount state.role)
      between).2 = told at hremote ⊢
  rw [← hremote] at hbetween hstored
  obtain ⟨later, hread, hlater, hkept⟩ :=
    hbetween.run_read settings state hrole hbelongs
  refine ⟨later, ?_, hlater, bindings_of_stored (hkept.trans hstored)⟩
  rw [hread, policy_of_stored hkept]

/-- What every operation does, once its binding can be opened. -/
theorem Calm.run_lifecycle (hcalm : world.remote.Calm) (settings : Settings)
    (operation : Scenario.Lifecycle) (state : Tracked)
    (hrole : state.role.isEmpty = false) (hbelongs : state.BelongsTo own) :
    ∃ later, (operation.run (controller own settings) state).run world =
        (operation.report own state (world.remote.authority.policy own)
          (later.remote.authority.policy own), later) ∧
      later.remote.Calm ∧
      (later.remote.authority.policy own).bindings =
        operation.edit ⟨state.role, state.members⟩
          (world.remote.authority.policy own).bindings := by
  cases operation with
  | create =>
      have hchange : Rewrites (Policy.grant ⟨state.role, state.members⟩)
          (Scenario.Lifecycle.create.edit ⟨state.role, state.members⟩) :=
        fun policy => ⟨(), Policy.grant_eq_ok _ policy⟩
      obtain ⟨later, hrun, hlater, hstored⟩ :=
        hcalm.run_writeThenRead settings state hrole hbelongs hchange
      refine ⟨later, ?_, hlater, bindings_of_stored hstored⟩
      exact Report.run_map _ hrun
  | update =>
      have hchange : Rewrites (Policy.assign ⟨state.role, state.members⟩)
          (Scenario.Lifecycle.update.edit ⟨state.role, state.members⟩) :=
        fun policy => ⟨(), Policy.assign_eq_ok _ policy⟩
      obtain ⟨later, hrun, hlater, hstored⟩ :=
        hcalm.run_writeThenRead settings state hrole hbelongs hchange
      refine ⟨later, ?_, hlater, bindings_of_stored hstored⟩
      exact Report.run_map _ hrun
  | read =>
      obtain ⟨later, hrun, hlater, hkept⟩ :=
        hcalm.run_read settings state hrole hbelongs
      have hpolicy := policy_of_stored hkept own
      refine ⟨later, ?_, hlater, congrArg Policy.bindings hpolicy⟩
      rw [Scenario.Lifecycle.report, hpolicy]
      exact Report.run_map _ hrun
  | delete =>
      obtain ⟨later, hrun, hlater, hbindings⟩ :=
        hcalm.run_delete settings state hrole hbelongs
      refine ⟨later, ?_, hlater, hbindings⟩
      have hmapped := Report.run_map Scenario.Answer.removal hrun
      rw [Report.map_map] at hmapped
      exact hmapped

end Arena

end AccessPolicy
