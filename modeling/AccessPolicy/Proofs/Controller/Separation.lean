import AccessPolicy.Proofs.Controller.Undisturbed
import AccessPolicy.Proofs.Watch.Observation

/-!
# Operations on different roles

Every write sends the whole list of bindings back, and a creation even merges
it.  Still an operation reads and changes only what the policy says about its
own role, as long as no role has several entries.  What a policy says about a
role is who holds it and whether it has an entry; an operation on another role
keeps both, and operations of one kind on policies that say the same about
their role go alike.
-/

namespace AccessPolicy

/-- Two policies say the same about a role. -/
structure Policy.SameOn (role : String) (first second : Policy) : Prop where
  granted : first.granted role = second.granted role
  entry : role ∈ first.roles ↔ role ∈ second.roles

/-- Two states of one binding, which differ in their etags at most. -/
structure Tracked.SameBinding (first second : Tracked) : Prop where
  id : first.id = second.id
  role : first.role = second.role
  members : first.members = second.members

structure Report.SameBinding {α : Type} (first second : Report α) : Prop where
  result : first.result = second.result
  state : first.state.SameBinding second.state

theorem Report.SameBinding.map {α β : Type} {first second : Report α}
    (hsame : first.SameBinding second) (f : α → β) :
    (first.map f).SameBinding (second.map f) :=
  ⟨congrArg (Except.map f) hsame.result, hsame.state⟩

theorem Tracked.SameBinding.refl (state : Tracked) : state.SameBinding state :=
  ⟨rfl, rfl, rfl⟩

theorem Tracked.SameBinding.trans {first second third : Tracked}
    (hfirst : first.SameBinding second) (hsecond : second.SameBinding third) :
    first.SameBinding third :=
  ⟨hfirst.id.trans hsecond.id, hfirst.role.trans hsecond.role,
    hfirst.members.trans hsecond.members⟩

namespace Policy

variable {role : String} {first second third later other : Policy}
    {declaration : Declaration}

theorem SameOn.refl (role : String) (policy : Policy) :
    policy.SameOn role policy :=
  ⟨rfl, Iff.rfl⟩

theorem SameOn.trans (hfirst : first.SameOn role second)
    (hsecond : second.SameOn role third) : first.SameOn role third :=
  ⟨hfirst.granted.trans hsecond.granted, hfirst.entry.trans hsecond.entry⟩

theorem mem_granted {policy : Policy} {member : String} :
    member ∈ policy.granted role ↔ (role, member) ∈ accessOf policy.bindings :=
  Iff.rfl

theorem mem_roles {policy : Policy} :
    role ∈ policy.roles ↔ role ∈ rolesOf policy.bindings :=
  Iff.rfl

/-- What an edit makes of a role depends on what was said about it. -/
theorem SameOn.edited (hsame : first.SameOn role second)
    (operation : Scenario.Lifecycle)
    (hlater : later.bindings = operation.edit declaration first.bindings)
    (hother : other.bindings = operation.edit declaration second.bindings) :
    later.SameOn role other := by
  have hgranted : ∀ member, (role, member) ∈ accessOf first.bindings ↔
      (role, member) ∈ accessOf second.bindings := Set.ext_iff.1 hsame.granted
  have hentry : role ∈ rolesOf first.bindings ↔
      role ∈ rolesOf second.bindings := hsame.entry
  constructor
  · ext member
    rw [mem_granted, mem_granted, hlater, hother]
    cases operation with
    | create =>
        simp only [Scenario.Lifecycle.edit, accessOf_grantedBindings,
          Set.mem_union, hgranted]
    | read => exact hgranted member
    | update =>
        simp only [Scenario.Lifecycle.edit, accessOf_assignedBindings,
          Set.mem_union, Set.mem_ofPred_eq, hgranted]
    | delete =>
        simp only [Scenario.Lifecycle.edit, accessOf_revokedBindings,
          Set.mem_ofPred_eq, hgranted]
  · rw [mem_roles, mem_roles, hlater, hother]
    cases operation with
    | create =>
        simp only [Scenario.Lifecycle.edit, mem_rolesOf_grantedBindings, hentry]
    | read => exact hentry
    | update =>
        simp only [Scenario.Lifecycle.edit,
          mem_rolesOf_assignedBindings, hentry]
    | delete =>
        simp only [Scenario.Lifecycle.edit, mem_rolesOf_revokedBindings, hentry]

/-- An edit keeps what is said about other roles. -/
theorem sameOn_besides (hrole : role ≠ declaration.role)
    (operation : Scenario.Lifecycle)
    (hlater : later.bindings = operation.edit declaration first.bindings) :
    later.SameOn role first := by
  constructor
  · ext member
    rw [mem_granted, mem_granted, hlater]
    cases operation with
    | create =>
        simp [Scenario.Lifecycle.edit, accessOf_grantedBindings,
          Declaration.mem_access, hrole]
    | read => exact Iff.rfl
    | update =>
        simp [Scenario.Lifecycle.edit, accessOf_assignedBindings,
          Declaration.mem_access, hrole]
    | delete => simp [Scenario.Lifecycle.edit, accessOf_revokedBindings, hrole]
  · rw [mem_roles, mem_roles, hlater]
    cases operation with
    | create =>
        simp [Scenario.Lifecycle.edit, mem_rolesOf_grantedBindings, hrole]
    | read => exact Iff.rfl
    | update =>
        simp [Scenario.Lifecycle.edit, mem_rolesOf_assignedBindings, hrole]
    | delete =>
        simp [Scenario.Lifecycle.edit, mem_rolesOf_revokedBindings, hrole]

/-- No edit gives a role a second entry. -/
theorem nodup_rolesOf_edit (operation : Scenario.Lifecycle)
    (declaration : Declaration) {bindings : List Binding}
    (hnodup : (rolesOf bindings).Nodup) :
    (rolesOf (operation.edit declaration bindings)).Nodup := by
  cases operation with
  | create => exact nodup_rolesOf_mergeBindings _
  | read => exact hnodup
  | update => exact nodup_rolesOf_assignedBindings hnodup declaration
  | delete => exact nodup_rolesOf_revokedBindings hnodup declaration.role

end Policy

/-- States of one binding take over the same from policies that say the
same about its role. -/
theorem Tracked.SameBinding.absorbed {state other : Tracked}
    (hstates : state.SameBinding other) {first second : Policy}
    (hsame : first.SameOn state.role second)
    (hfirst : (rolesOf first.bindings).Nodup)
    (hsecond : (rolesOf second.bindings).Nodup) :
    (Controller.absorbed state (first.found state.role)).SameBinding
      (Controller.absorbed other (second.found state.role)) := by
  by_cases hrole : state.role ∈ first.roles
  · obtain ⟨entry, hentry⟩ := Policy.exists_binding? hrole
    obtain ⟨twin, htwin⟩ := Policy.exists_binding? (hsame.entry.1 hrole)
    have hmembers : entry.memberSet = twin.memberSet := by
      ext member
      rw [Policy.mem_memberSet_iff hentry
        (Policy.roleCount_le_one_of_nodup hfirst _),
        Policy.mem_memberSet_iff htwin
          (Policy.roleCount_le_one_of_nodup hsecond _), hsame.granted]
    have hroles : entry.role = twin.role :=
      (Policy.binding?_eq_some hentry).2.trans
        (Policy.binding?_eq_some htwin).2.symm
    rw [Policy.found_of_binding? hentry, Policy.found_of_binding? htwin]
    exact ⟨rfl, hstates.id, hroles, hmembers⟩
  · have hnone : first.binding? state.role = none :=
      Policy.binding?_eq_none_iff.2 hrole
    have hother : second.binding? state.role = none :=
      Policy.binding?_eq_none_iff.2 fun hmem => hrole (hsame.entry.2 hmem)
    rw [Policy.found, Policy.found, hnone, hother]
    exact ⟨rfl, rfl, hstates.role, hstates.members⟩

/-- An operation reports the same of policies that say the same about its
role. -/
theorem Scenario.Lifecycle.report_same (operation : Lifecycle) (own : String)
    {state other : Tracked} (hstates : state.SameBinding other)
    {before after otherBefore otherAfter : Policy}
    (hbefore : before.SameOn state.role otherBefore)
    (hafter : after.SameOn state.role otherAfter)
    (hfirst : (rolesOf after.bindings).Nodup)
    (hsecond : (rolesOf otherAfter.bindings).Nodup) :
    (operation.report own state before after).SameBinding
      (operation.report own other otherBefore otherAfter) := by
  have hrecorded : (state.setId ⟨own, state.role⟩).SameBinding
      (other.setId ⟨own, state.role⟩) :=
    ⟨rfl, hstates.role, hstates.members⟩
  have hentries : before.roleCount state.role = 0 ↔
      otherBefore.roleCount state.role = 0 := by
    rw [Policy.roleCount_eq_zero_iff, Policy.roleCount_eq_zero_iff,
      hbefore.entry]
  cases operation with
  | create | update =>
      simp only [report, ← hstates.role]
      exact (hrecorded.absorbed hafter hfirst hsecond).map _
  | read =>
      simp only [report, ← hstates.role]
      exact (hstates.absorbed hafter hfirst hsecond).map _
  | delete =>
      simp only [report, ← hstates.role, hentries]
      exact (hstates.absorbed hafter hfirst hsecond).map _

namespace Arena

variable {own : String} {settings : Settings} {state twin : Tracked}
    {arena other : Arena}

/-- Nobody disturbs the arena, and its policy has one entry for each role. -/
structure Quiet (own : String) (arena : Arena) : Prop where
  calm : arena.Calm
  unique : (rolesOf (arena.authority.policy own).bindings).Nodup

/-- Whether a binding can be opened does not depend on what is stored. -/
theorem Quiet.opening_congr (hquiet : arena.Quiet own)
    (hother : other.Quiet own) (settings : Settings)
    (hstates : state.SameBinding twin) :
    (controller own settings).opening state arena =
      (controller own settings).opening twin other := by
  simp only [Controller.opening, controller, connector, Authority.reach,
    Tracked.declaration, hquiet.calm.connections, hother.calm.connections,
    hstates.id, hstates.role, hstates.members]

/-- A binding that can be opened has a role and names no other resource. -/
theorem opening_error_or_own (own : String) (settings : Settings)
    (state : Tracked) (arena : Arena) :
    (∃ error, (controller own settings).opening state arena = .error error) ∨
      (state.role.isEmpty = false ∧ state.BelongsTo own) := by
  obtain ⟨_, _, hopening⟩ | ⟨_, _, _, hopening⟩ | ⟨connection, hopens, _⟩ :=
    (controller own settings).opening_outcomes state arena
  · exact .inl ⟨_, hopening⟩
  · exact .inl ⟨_, hopening⟩
  · exact .inr ⟨by simpa using hopens.role, (opens_own hopens).2⟩

/-- An operation leaves the arena quiet, and keeps what is said about
other roles. -/
theorem Quiet.run (hquiet : arena.Quiet own) (settings : Settings)
    (operation : Scenario.Lifecycle) (state : Tracked) :
    let later :=
      ((operation.run (controller own settings) state).run ⟨arena, []⟩).2.remote
    later.Quiet own ∧ ∀ role ≠ state.role,
      (later.authority.policy own).SameOn role
        (arena.authority.policy own) := by
  obtain ⟨error, hopening⟩ | ⟨hrole, hbelongs⟩ :=
    opening_error_or_own own settings state arena
  · have hrun := (controller own settings).run_unopened operation
      (show (controller own settings).opening state (World.mk arena []).remote =
        _ from hopening)
    rw [hrun]
    exact ⟨hquiet, fun role _ => .refl role _⟩
  · have hcalm : (World.mk arena []).remote.Calm := hquiet.calm
    obtain ⟨later, hrun, hlater, hbindings⟩ :=
      hcalm.run_lifecycle settings operation state hrole hbelongs
    rw [hrun]
    refine ⟨⟨hlater, ?_⟩, ?_⟩
    · rw [hbindings]
      exact Policy.nodup_rolesOf_edit operation _ hquiet.unique
    · intro role hbesides
      exact Policy.sameOn_besides hbesides operation hbindings

/-- Operations of one kind on states of one binding go alike, if the policies
say the same about its role. -/
theorem Quiet.run_same (hquiet : arena.Quiet own) (hother : other.Quiet own)
    (settings : Settings) (operation : Scenario.Lifecycle)
    (hstates : state.SameBinding twin)
    (hsame : (arena.authority.policy own).SameOn state.role
      (other.authority.policy own)) :
    let ended := (operation.run (controller own settings) state).run ⟨arena, []⟩
    let otherEnded :=
      (operation.run (controller own settings) twin).run ⟨other, []⟩
    ended.1.SameBinding otherEnded.1 ∧
      (ended.2.remote.authority.policy own).SameOn state.role
        (otherEnded.2.remote.authority.policy own) := by
  have hcongr := hquiet.opening_congr hother settings hstates
  obtain ⟨error, hopening⟩ | ⟨hrole, hbelongs⟩ :=
    opening_error_or_own own settings state arena
  · rw [hopening] at hcongr
    have hrun := (controller own settings).run_unopened operation
      (show (controller own settings).opening state (World.mk arena []).remote =
        _ from hopening)
    have htwin := (controller own settings).run_unopened operation
      (show (controller own settings).opening twin (World.mk other []).remote =
        _ from hcongr.symm)
    rw [hrun, htwin]
    exact ⟨⟨rfl, hstates⟩, hsame⟩
  · have hcalm : (World.mk arena []).remote.Calm := hquiet.calm
    have hotherCalm : (World.mk other []).remote.Calm := hother.calm
    have htwinRole : twin.role.isEmpty = false := hstates.role ▸ hrole
    have htwinBelongs : twin.BelongsTo own :=
      fun id hid => hbelongs id (hstates.id.trans hid)
    obtain ⟨later, hrun, hlater, hbindings⟩ :=
      hcalm.run_lifecycle settings operation state hrole hbelongs
    obtain ⟨otherLater, htwin, hotherLater, hotherBindings⟩ :=
      hotherCalm.run_lifecycle settings operation twin htwinRole htwinBelongs
    have hdeclarations : Declaration.mk twin.role twin.members =
        ⟨state.role, state.members⟩ := by
      rw [hstates.role, hstates.members]
    rw [hdeclarations] at hotherBindings
    have hafter := hsame.edited operation hbindings hotherBindings
    rw [hrun, htwin]
    refine ⟨?_, hafter⟩
    apply operation.report_same own hstates hsame hafter
    · rw [hbindings]
      exact Policy.nodup_rolesOf_edit operation _ hquiet.unique
    · rw [hotherBindings]
      exact Policy.nodup_rolesOf_edit operation _ hother.unique

end Arena

end AccessPolicy
