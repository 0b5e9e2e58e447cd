import AccessPolicy.Proofs.Arena.Cycle
import AccessPolicy.Proofs.Controller.Run
import AccessPolicy.Proofs.Policy.AccessRelation
import AccessPolicy.Scenario.Step

/-!
# Endings of operations amid other writers

Whatever the others do and whatever fails, an operation that changes a
policy ends in one of three ways: none of its commits was accepted and its
state is as before, or its change was accepted and the closing read failed,
or it finished.  An error of the first kind can be a conflict, an error of
the second kind cannot.
-/

namespace AccessPolicy

/-- The operations that change a policy. -/
inductive Writing where
  | create
  | update
  | delete
  deriving DecidableEq

namespace Writing

def lifecycle : Writing → Scenario.Lifecycle
  | create => .create
  | update => .update
  | delete => .delete

/-- What the operation makes of the bindings that it fetched. -/
def edit (operation : Writing) (declaration : Declaration)
    (bindings : List Binding) : List Binding :=
  match operation with
  | create => Policy.grantedBindings bindings declaration
  | update => Policy.assignedBindings declaration bindings
  | delete => Policy.revokedBindings declaration.role bindings

/-- The state with which the operation starts its closing read. -/
def recorded (operation : Writing) (own : String) (state : Tracked) : Tracked :=
  match operation with
  | create | update => { state with id := some ⟨own, state.role⟩ }
  | delete => state

/-- Reading is the only operation that does not change a policy. -/
theorem lifecycle_cases (operation : Scenario.Lifecycle) :
    operation = .read ∨ ∃ writing : Writing, writing.lifecycle = operation := by
  cases operation with
  | create => exact .inr ⟨.create, rfl⟩
  | read => exact .inl rfl
  | update => exact .inr ⟨.update, rfl⟩
  | delete => exact .inr ⟨.delete, rfl⟩

end Writing

namespace Arena

/-- Opening a binding fails for want of a connection or of a role. -/
theorem opening_cases (own : String) (settings : Settings) (state : Tracked)
    (arena : Arena) :
    (∃ error, (controller own settings).opening state arena = .error error ∧
      error.isConflict = false ∧
      (state.role.isEmpty = false → ∃ cause, error = .construction cause)) ∨
    (state.role.isEmpty = false ∧
      (controller own settings).opening state arena =
        .ok (connection own, ⟨state.role, state.members⟩)) := by
  simp only [Controller.opening, controller, connector, Tracked.declaration]
  cases arena.authority.reach own state with
  | error cause =>
      exact .inl ⟨.construction cause, rfl, rfl, fun _ => ⟨cause, rfl⟩⟩
  | ok reached =>
      cases hrole : state.role.isEmpty with
      | true => exact .inl ⟨.invalidBinding .emptyRole, rfl, rfl, nofun⟩
      | false => exact .inr ⟨rfl, rfl⟩

/-- The ends of a read. -/
inductive ReadEnd (own : String) (state : Tracked) (world : World Arena) :
    Report Presence → World Arena → Prop
  | unopened {error : OperationError}
      (hphase : state.role.isEmpty = false →
        ∃ cause, error = .construction cause) :
      ReadEnd own state world ⟨.error error, state⟩ world
  | fetchFailed {cause : RemoteError} {later : World Arena}
      (hothers : OthersOnly own 1 0 world later) :
      ReadEnd own state world
        ⟨.error (.fetch (Authority.describe own) cause), state⟩ later
  | finished {presence : Presence} {tracked : Tracked} {later : World Arena}
      (hothers : OthersOnly own 1 0 world later) :
      ReadEnd own state world ⟨.ok presence, tracked⟩ later

/-- What a read makes of a fetched policy is no request. -/
theorem othersOnly_observation (own role : String) (policy : Policy)
    (world : World Arena) :
    OthersOnly own 0 0 world
      (Controller.observation (connection own) role policy world).2 := by
  rw [Controller.observation]
  cases policy.binding? role with
  | some binding => exact .refl own world
  | none => exact othersOnly_log own world rfl

/-- Every read has one of these ends. -/
theorem read_end (own : String) (settings : Settings) (state : Tracked)
    (world : World Arena) :
    ReadEnd own state world (((controller own settings).read state).run world).1
      (((controller own settings).read state).run world).2 := by
  rw [Controller.run_read, Controller.run_lookUp]
  obtain ⟨error, hopening, _, hphase⟩ | ⟨_, hopening⟩ :=
    opening_cases own settings state world.remote
  · rw [hopening]
    exact .unopened hphase
  · rw [hopening]
    obtain ⟨cause, _, hfetch⟩ | ⟨_, hfetch⟩ :=
      run_fetchPolicy_cases own (controller own settings).settings world
    · simp only [hfetch]
      exact .fetchFailed (othersOnly_unfetched own world)
    · simp only [hfetch]
      have hothers := (othersOnly_retrieved own settings world).trans
        (othersOnly_observation own state.role (world.remote.offered own) _)
      obtain ⟨presence, tracked, hok⟩ := Controller.absorbed_ok state
        (Controller.observation (connection own) state.role
          (world.remote.offered own)
          (retrieved own (controller own settings).settings world)).1
      rw [hok]
      exact .finished hothers

/-! ## Writing and reading back -/

/-- A read failed, in connecting or in fetching.  It left the state as it was,
and the store to the others. -/
structure ReadFailed (own : String) (settings : Settings) (state : Tracked)
    (error : OperationError) (world later : World Arena) : Prop where
  run : ((controller own settings).read state).run world =
    (⟨.error error, state⟩, later)
  phase : (∃ cause, error = .construction cause) ∨
    ∃ cause, error = .fetch (Authority.describe own) cause
  others : ∃ fetches, OthersOnly own fetches 0 world later

/-- One change was accepted, under the last of so many commits, and the
closing read failed. -/
structure ClosingFailed (own : String) (settings : Settings)
    (edit : List Binding → List Binding) (recorded : Tracked) (commits : Nat)
    (error : OperationError) (world later : World Arena) : Prop where
  stored : ∃ fetches, OneWrite own edit fetches commits world later ∧
    EditedOnce own edit fetches world later
  closing : ∃ between, OneWrite own edit commits commits world between ∧
    ReadFailed own settings recorded error between later

section

variable {own : String} {settings : Settings}
    {edit : List Binding → List Binding}
variable {recorded : Tracked} {error : OperationError} {retries commits : Nat}
variable {world between later : World Arena}

theorem OneWrite.closingFailed
    (hwrite : OneWrite own edit commits commits world between)
    (hread : ReadFailed own settings recorded error between later) :
    ClosingFailed own settings edit recorded commits error world later where
  stored := by
    obtain ⟨fetches, hothers⟩ := hread.others
    have hall := hwrite.then_others hothers
    exact ⟨_, hall, hall.edited⟩
  closing := ⟨between, hwrite, hread⟩

theorem OthersOnly.then_closingFailed
    (hothers : OthersOnly own retries retries world between)
    (hclosing :
      ClosingFailed own settings edit recorded commits error between later) :
    ClosingFailed own settings edit recorded
      (retries + commits) error world later where
  stored := by
    obtain ⟨fetches, hwrite, -⟩ := hclosing.stored
    have hall := hothers.then_write hwrite
    exact ⟨_, hall, hall.edited⟩
  closing := by
    obtain ⟨unread, hwrite, hread⟩ := hclosing.closing
    exact ⟨unread, hothers.then_write hwrite, hread⟩

/-- A closing read does not end in a conflict: what a fetch or a
connection reports is none. -/
theorem ClosingFailed.not_isConflict
    (hclosing :
      ClosingFailed own settings edit recorded commits error world later) :
    error.isConflict = false := by
  obtain ⟨between, _, hread⟩ := hclosing.closing
  obtain ⟨cause, rfl⟩ | ⟨cause, rfl⟩ := hread.phase
  · rfl
  · rfl

end

/-- The ends of an operation that changes a policy by an edit of its bindings,
and that closes with a read from a given state. -/
inductive OperationEnd {α : Type} (own : String) (settings : Settings)
    (edit : List Binding → List Binding) (state recorded : Tracked)
    (world : World Arena) : Report α → World Arena → Prop
  | failed {error : OperationError} {fetches commits : Nat}
      {later : World Arena}
      (hothers : OthersOnly own fetches commits world later)
      (hconflict : error.isConflict = true → fetches = 1 ∧ commits = 1) :
      OperationEnd own settings edit state recorded world
        ⟨.error error, state⟩ later
  | unread {error : OperationError} {later : World Arena}
      (hclosing :
        ClosingFailed own settings edit recorded 1 error world later) :
      OperationEnd own settings edit state recorded world
        ⟨.error error, recorded⟩ later
  | finished {output : α} {tracked : Tracked} {later : World Arena}
      (hwrite : OneWrite own edit 2 1 world later) :
      OperationEnd own settings edit state recorded world
        ⟨.ok output, tracked⟩ later

theorem OperationEnd.unopened {α : Type} {own : String} {settings : Settings}
    {edit : List Binding → List Binding} {state recorded : Tracked}
    {world : World Arena} {error : OperationError}
    (hnone : error.isConflict = false) :
    OperationEnd own settings edit state recorded world
      (⟨.error error, state⟩ : Report α) world := by
  apply OperationEnd.failed (.refl own world)
  intro hconflict
  rw [hnone] at hconflict
  cases hconflict

/-- What an operation reports may be rephrased. -/
theorem OperationEnd.map {α β : Type} {own : String} {settings : Settings}
    {edit : List Binding → List Binding} {state recorded : Tracked}
    {world later : World Arena} {report : Report α}
    (hend : OperationEnd own settings edit state recorded world report later)
    (f : α → β) :
    OperationEnd own settings edit state recorded world
      (report.map f) later := by
  cases hend with
  | failed hothers hconflict => exact .failed hothers hconflict
  | unread hclosing => exact .unread hclosing
  | finished hwrite => exact .finished hwrite

/-- After an accepted commit the closing read decides.  It cannot fail
for want of a role. -/
theorem closing_end {own : String} (settings : Settings)
    {edit : List Binding → List Binding} {world between : World Arena}
    (hwrite : OneWrite own edit 1 1 world between) (state : Tracked)
    {recorded : Tracked} (hrole : recorded.role.isEmpty = false) :
    OperationEnd own settings edit state recorded world
      (((controller own settings).read recorded).run between).1
      (((controller own settings).read recorded).run between).2 := by
  rcases hread : ((controller own settings).read recorded).run between
      with ⟨report, later⟩
  have hend := read_end own settings recorded between
  rw [hread] at hend
  cases hend with
  | unopened hphase =>
      exact .unread
        (hwrite.closingFailed ⟨hread, .inl (hphase hrole), 0, .refl own _⟩)
  | fetchFailed hothers =>
      exact .unread (hwrite.closingFailed ⟨hread, .inr ⟨_, rfl⟩, 1, hothers⟩)
  | finished hothers => exact .finished (hwrite.then_others hothers)

/-- How granting and assigning end. -/
theorem writeThenRead_end (own : String) (settings : Settings) (state : Tracked)
    (world : World Arena) {change : Declaration → Mutation Unit}
    {edit : Declaration → List Binding → List Binding}
    (hedit : ∀ declaration, Rewrites (change declaration) (edit declaration)) :
    OperationEnd own settings (edit ⟨state.role, state.members⟩) state
      (state.setId ⟨own, state.role⟩) world
      (((controller own settings).writeThenRead state change).run world).1
      (((controller own settings).writeThenRead state change).run world).2 := by
  rw [Controller.run_writeThenRead, Controller.run_write]
  obtain ⟨error, hopening, hnone, _⟩ | ⟨hrole, hopening⟩ :=
    opening_cases own settings state world.remote
  · rw [hopening]
    exact .unopened hnone
  · rw [hopening]
    rcases hcycle : (readModifyWrite (connection own)
      (controller own settings).settings
      fun policy => liftM (change ⟨state.role, state.members⟩ policy)).run world
      with ⟨result, later⟩
    simp only [hcycle]
    cases (cycle_end hcycle).account (hedit _) with
    | failed hothers hconflict => exact .failed hothers hconflict
    | accepted hwrite => exact closing_end settings hwrite state hrole

/-- Telling that there was nothing to delete is no request. -/
theorem othersOnly_removal (own role : String) (entries : Nat)
    (world : World Arena) :
    OthersOnly own 0 0 world
      (Controller.removal (connection own) role entries world).2 := by
  rw [Controller.removal]
  by_cases hentries : entries = 0
  · rw [if_pos hentries]
    exact othersOnly_log own world rfl
  · rw [if_neg hentries]
    exact .refl own world

/-- How revoking ends.  Its closing read starts from an unchanged state. -/
theorem delete_end (own : String) (settings : Settings) (state : Tracked)
    (world : World Arena) :
    OperationEnd own settings (Policy.revokedBindings state.role)
      state state world (((controller own settings).delete state).run world).1
      (((controller own settings).delete state).run world).2 := by
  rw [Controller.run_delete, Controller.run_drop]
  obtain ⟨error, hopening, hnone, _⟩ | ⟨hrole, hopening⟩ :=
    opening_cases own settings state world.remote
  · rw [hopening]
    exact .unopened hnone
  · rw [hopening]
    rcases hcycle : (readModifyWrite (connection own)
      (controller own settings).settings
      fun policy => liftM (Policy.revoke state.role policy)).run world
      with ⟨result, later⟩
    simp only [hcycle]
    have hedit : Rewrites (Policy.revoke state.role)
        (Policy.revokedBindings state.role) :=
      fun policy => ⟨_, Policy.revoke_eq_ok state.role policy⟩
    cases (cycle_end hcycle).account hedit with
    | failed hothers hconflict => exact .failed hothers hconflict
    | @accepted entries later hwrite =>
        have hbetween :=
          hwrite.then_others (othersOnly_removal own state.role entries later)
        exact (closing_end settings hbetween state hrole).map _

end Arena

/-- Every operation that changes a policy has one of these ends. -/
theorem Writing.operation_end (operation : Writing) (own : String)
    (settings : Settings) (state : Tracked) (world : World Arena) :
    Arena.OperationEnd own settings
      (operation.edit ⟨state.role, state.members⟩) state
      (operation.recorded own state) world
      ((operation.lifecycle.run
        (Arena.controller own settings) state).run world).1
      ((operation.lifecycle.run (Arena.controller own settings) state).run
        world).2 := by
  cases operation with
  | create =>
      exact (Arena.writeThenRead_end own settings state world
        fun declaration policy =>
          ⟨(), Policy.grant_eq_ok declaration policy⟩).map _
  | update =>
      exact (Arena.writeThenRead_end own settings state world
        fun declaration policy =>
          ⟨(), Policy.assign_eq_ok declaration policy⟩).map _
  | delete => exact (Arena.delete_end own settings state world).map _

end AccessPolicy
