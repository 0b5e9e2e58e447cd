import AccessPolicy.Proofs.Arena.Cycle
import AccessPolicy.Proofs.Controller.Run
import AccessPolicy.Proofs.Policy.Merging

/-!
# Operations that nobody disturbs

When no failure is armed and nobody else acts around the coming fetches, a fetch
brings what is stored and a commit behind it is accepted.  An operation on a
binding with a role, tracked on its own resource or not at all, then succeeds,
and what it reports and stores follows from the stored policy.  The arena stays
calm, so that several such operations can be put in a row.
-/

namespace AccessPolicy

/-- What a policy says to someone who looks a role up: its first entry,
and the etag to it. -/
def Policy.found (policy : Policy) (role : String) : Option (Binding × Etag) :=
  (policy.binding? role).map fun binding => (binding, policy.etag)

theorem Policy.found_of_binding? {policy : Policy} {role : String}
    {entry : Binding} (hentry : policy.binding? role = some entry) :
    policy.found role = some (entry, policy.etag) := by
  rw [Policy.found, hentry]
  rfl

theorem Controller.fst_observation {ρ : Type} (connection : Connection ρ)
    (role : String) (policy : Policy) (world : World ρ) :
    (observation connection role policy world).1 = policy.found role := by
  rw [observation, Policy.found]
  cases policy.binding? role with
  | none => rfl
  | some binding => rfl

theorem Controller.remote_observation {ρ : Type} (connection : Connection ρ)
    (role : String) (policy : Policy) (world : World ρ) :
    (observation connection role policy world).2.remote = world.remote := by
  rw [observation]
  cases policy.binding? role with
  | none => rfl
  | some binding => rfl

theorem Controller.fst_removal {ρ : Type} (connection : Connection ρ)
    (role : String) (entries : Nat) (world : World ρ) :
    (removal connection role entries world).1 =
      if entries = 0 then .alreadyAbsent else .removed := by
  rw [removal]
  by_cases hentries : entries = 0
  · rw [if_pos hentries, if_pos hentries]
  · rw [if_neg hentries, if_neg hentries]

theorem Controller.remote_removal {ρ : Type} (connection : Connection ρ)
    (role : String) (entries : Nat) (world : World ρ) :
    (removal connection role entries world).2.remote = world.remote := by
  rw [removal]
  by_cases hentries : entries = 0
  · rw [if_pos hentries]
  · rw [if_neg hentries]

/-- A state that names no other resource. -/
def Tracked.BelongsTo (state : Tracked) (own : String) : Prop :=
  ∀ id, state.id = some id → id.resource = own

theorem Tracked.BelongsTo.of_id {state : Tracked} {own role : String}
    (hstate : state.id = some ⟨own, role⟩) : state.BelongsTo own := by
  intro id hid
  rw [hstate] at hid
  cases hid
  rfl

/-- A resource is reached if no connection fails, and if the state is not
tracked elsewhere. -/
theorem Authority.reach_eq_ok_iff {authority : Authority} {resource : String}
    {state : Tracked} :
    authority.reach resource state = .ok () ↔
      authority.connectionFailure = none ∧ state.BelongsTo resource := by
  rw [reach, Tracked.BelongsTo]
  cases authority.connectionFailure with
  | some failure => simp
  | none =>
      cases state.id with
      | none => simp
      | some id => by_cases hown : id.resource = resource <;> simp [hown]

namespace Arena

/-- All connections of a controller go to its own resource, and only for states
that name no other. -/
theorem connect_eq_ok_iff {own : String} {settings : Settings} {state : Tracked}
    {arena : Arena} {target : Connection Arena} :
    (controller own settings).connect state arena = .ok target ↔
      arena.authority.connectionFailure = none ∧ state.BelongsTo own ∧
        target = connection own := by
  rw [← and_assoc, ← Authority.reach_eq_ok_iff]
  simp only [controller, connector]
  cases arena.authority.reach own state with
  | error cause => simp [Except.map]
  | ok reached => simp [Except.map, eq_comm]

/-- No failure is armed, and nobody else acts around the coming fetches. -/
structure Calm (arena : Arena) : Prop where
  races : ∀ race ∈ arena.races, race.before = [] ∧ race.after = []
  fetches : arena.authority.fetchFailure = none
  commits : arena.authority.commitFailure = none
  connections : arena.authority.connectionFailure = none

theorem calm_default : Calm {} := ⟨nofun, rfl, rfl, rfl⟩

variable {own : String} {settings : Settings} {arena : Arena}
    {world : World Arena}
variable {state : Tracked}

theorem Calm.race (hcalm : arena.Calm) :
    (arena.races.headD {}).before = [] ∧ (arena.races.headD {}).after = [] := by
  cases hraces : arena.races with
  | nil => exact ⟨rfl, rfl⟩
  | cons head tail =>
      apply hcalm.races head
      rw [hraces]
      exact List.mem_cons_self

theorem Calm.reached (hcalm : arena.Calm) (own : String) :
    arena.reached own = arena.authority := by
  rw [Arena.reached, hcalm.race.1]
  rfl

theorem Calm.offered (hcalm : arena.Calm) (own : String) :
    arena.offered own = arena.authority.policy own := by
  rw [Arena.offered, hcalm.reached]

theorem Calm.served_eq (hcalm : arena.Calm) (own : String) :
    arena.served own = ⟨arena.authority.fetched, arena.races.tail⟩ := by
  rw [Arena.served, hcalm.race.2, hcalm.reached]
  rfl

theorem Calm.served (hcalm : arena.Calm) (own : String) :
    (arena.served own).Calm := by
  rw [hcalm.served_eq]
  refine ⟨?_, rfl, hcalm.commits, hcalm.connections⟩
  intro race hrace
  exact hcalm.races race (List.mem_of_mem_tail hrace)

/-- A binding with a role is opened without fail, unless it is tracked
elsewhere. -/
theorem Calm.opening (hcalm : arena.Calm) (settings : Settings)
    (hrole : state.role.isEmpty = false) (hbelongs : state.BelongsTo own) :
    (controller own settings).opening state arena =
      .ok (connection own, ⟨state.role, state.members⟩) := by
  have hconnect : (controller own settings).connect state arena =
      .ok (connection own) :=
    connect_eq_ok_iff.2 ⟨hcalm.connections, hbelongs, rfl⟩
  have hdeclaration : state.declaration = .ok ⟨state.role, state.members⟩ := by
    rw [Tracked.declaration, hrole]
    rfl
  simp only [Controller.opening, hconnect, hdeclaration]
  rfl

theorem Calm.run_fetchPolicy (hcalm : world.remote.Calm) (own : String)
    (settings : Settings) :
    (fetchPolicy (connection own) settings).run world =
      (.ok (world.remote.authority.policy own),
        retrieved own settings world) := by
  obtain ⟨cause, harmed, -⟩ | ⟨-, hrun⟩ :=
    run_fetchPolicy_cases own settings world
  · rw [hcalm.reached, hcalm.fetches] at harmed
    cases harmed
  · rw [hrun, hcalm.offered]

/-- A read finds what is stored. -/
theorem Calm.run_read (hcalm : world.remote.Calm) (settings : Settings)
    (state : Tracked) (hrole : state.role.isEmpty = false)
    (hbelongs : state.BelongsTo own) :
    ∃ later, ((controller own settings).read state).run world =
        (Controller.absorbed state
          ((world.remote.authority.policy own).found state.role), later) ∧
      later.remote.Calm ∧
        later.remote.authority.stored = world.remote.authority.stored := by
  rw [Controller.run_read, Controller.run_lookUp,
    hcalm.opening settings hrole hbelongs]
  simp only [hcalm.run_fetchPolicy own (controller own settings).settings,
    Controller.fst_observation]
  refine ⟨_, rfl, ?_, ?_⟩
  · rw [Controller.remote_observation]
    exact hcalm.served own
  · rw [Controller.remote_observation]
    show (world.remote.served own).authority.stored = _
    rw [hcalm.served_eq]
    rfl

/-- A cycle whose change succeeds has its commit accepted. -/
theorem Calm.run_cycle (hcalm : world.remote.Calm) (settings : Settings)
    {α : Type} {change : Mutation α} {output : α} {changed : Policy}
    (hchange : change (world.remote.authority.policy own) =
      .ok (output, changed)) :
    ∃ later, (readModifyWrite (connection own) settings fun policy =>
        liftM (change policy)).run world = (.ok output, later) ∧
      later.remote.Calm ∧
      later.remote.authority.stored =
        (world.remote.authority.write own changed.bindings).stored := by
  have hserved := hcalm.served own
  have hcommit : (connection own).commit
      { changed with etag := (world.remote.authority.policy own).etag }
      (retrieved own settings world) =
      (.ok (),
        accepted own changed.bindings (retrieved own settings world)) := by
    apply commit_current hserved.commits
    show _ = ((world.remote.served own).authority.stored own).etag
    rw [hcalm.served_eq]
    rfl
  rw [readModifyWrite, Action.run_bind, hcalm.run_fetchPolicy own settings]
  simp only [run_changeAndCommit, hchange, hcommit]
  refine ⟨_, rfl, ?_, ?_⟩
  · exact ⟨hserved.races, hserved.fetches, rfl, hserved.connections⟩
  · show ((world.remote.served own).authority.committed.write own _).stored = _
    rw [hcalm.served_eq]
    rfl

theorem policy_of_stored {arena other : Arena}
    (hstored : arena.authority.stored = other.authority.stored) (own : String) :
    arena.authority.policy own = other.authority.policy own := by
  rw [Authority.policy, Authority.policy, hstored]

theorem bindings_of_stored {arena : Arena} {authority : Authority}
    {bindings : List Binding}
    (hstored : arena.authority.stored = (authority.write own bindings).stored) :
    (arena.authority.policy own).bindings = bindings := by
  rw [Authority.policy, hstored, Authority.stored_write_self]
  rfl

/-- A write is stored and read back. -/
theorem Calm.run_writeThenRead (hcalm : world.remote.Calm) (settings : Settings)
    (state : Tracked) (hrole : state.role.isEmpty = false)
    (hbelongs : state.BelongsTo own) {change : Declaration → Mutation Unit}
    {edit : List Binding → List Binding}
    (hchange : Rewrites (change ⟨state.role, state.members⟩) edit) :
    ∃ later, ((controller own settings).writeThenRead state change).run world =
        (Controller.absorbed (state.setId ⟨own, state.role⟩)
          ((later.remote.authority.policy own).found state.role), later) ∧
      later.remote.Calm ∧
      later.remote.authority.stored =
        (world.remote.authority.change own edit).stored := by
  obtain ⟨output, hchanged⟩ := hchange (world.remote.authority.policy own)
  obtain ⟨between, hcycle, hbetween, hstored⟩ :=
    hcalm.run_cycle (controller own settings).settings hchanged
  have hrecorded : (state.setId ⟨own, state.role⟩).BelongsTo own := .of_id rfl
  obtain ⟨later, hread, hlater, hkept⟩ :=
    hbetween.run_read settings (state.setId ⟨own, state.role⟩) hrole hrecorded
  rw [Controller.run_writeThenRead, Controller.run_write,
    hcalm.opening settings hrole hbelongs]
  simp only [hcycle]
  refine ⟨later, ?_, hlater, hkept.trans hstored⟩
  have hpolicy : later.remote.authority.policy own =
      between.remote.authority.policy own := by
    rw [Authority.policy, Authority.policy, hkept]
  rw [hpolicy]
  exact hread

/-- A creation or an update is stored, and the new state shows the entry
that is stored then. -/
theorem Calm.run_present (hcalm : world.remote.Calm) (settings : Settings)
    (state : Tracked) (hrole : state.role.isEmpty = false)
    (hbelongs : state.BelongsTo own) {change : Declaration → Mutation Unit}
    {edit : List Binding → List Binding}
    (hchange : Rewrites (change ⟨state.role, state.members⟩) edit)
    (hgrants : ∀ bindings, state.role ∈ rolesOf (edit bindings)) :
    ∃ entry later,
      ((controller own settings).writeThenRead state change).run world =
        (⟨.ok .present, (state.setId ⟨own, state.role⟩).observe entry
          (later.remote.authority.policy own).etag⟩, later) ∧
      later.remote.Calm ∧
      (later.remote.authority.policy own).bindings =
        edit (world.remote.authority.policy own).bindings ∧
      (later.remote.authority.policy own).binding? state.role = some entry := by
  obtain ⟨later, hrun, hlater, hstored⟩ :=
    hcalm.run_writeThenRead settings state hrole hbelongs hchange
  have hbindings : (later.remote.authority.policy own).bindings =
      edit (world.remote.authority.policy own).bindings :=
    bindings_of_stored hstored
  have hgranted : state.role ∈
      rolesOf (later.remote.authority.policy own).bindings := by
    rw [hbindings]
    exact hgrants _
  obtain ⟨entry, hentry⟩ := Policy.exists_binding? hgranted
  refine ⟨entry, later, ?_, hlater, hbindings, hentry⟩
  rw [hrun, Policy.found_of_binding? hentry]
  rfl

end Arena

end AccessPolicy
