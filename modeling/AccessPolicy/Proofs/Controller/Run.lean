import AccessPolicy.Controller

/-!
# Runs of the operations

Each operation on a binding is put together from a few actions, and its run is
the run of these actions one after another.  The first error ends the operation,
in the world in which it happened, and the state it reports is the one that had
been reached by then.
-/

namespace AccessPolicy

/-- An ending whose result is known is put together from its parts. -/
theorem Report.eq_of_result {α ω : Type} {ended : Report α × ω}
    {result : Except OperationError α} (hresult : ended.1.result = result) :
    ended = (⟨result, ended.1.state⟩, ended.2) := by
  rw [← hresult]

theorem Report.map_map {α β γ : Type} (report : Report α) (first : α → β)
    (second : β → γ) :
    (report.map first).map second = report.map fun output =>
      second (first output) := by
  obtain ⟨error | output, state⟩ := report
  · rfl
  · rfl

/-- To rephrase what a run reports is to rephrase its report. -/
theorem Report.run_map {ρ α β : Type} (f : α → β)
    {run : StateM (World ρ) (Report α)} {world later : World ρ}
    {report : Report α} (hrun : run.run world = (report, later)) :
    ((·.map f) <$> run : StateM (World ρ) (Report β)).run world =
      (report.map f, later) := by
  have hmapped : ((·.map f) <$> run : StateM (World ρ) (Report β)).run world =
      ((run.run world).1.map f, (run.run world).2) := rfl
  rw [hmapped, hrun]

/-- An attempt yields what the operation reports, and fails as the
operation does. -/
theorem run_onCopy {ρ α : Type}
    (operation : Tracked → StateM (World ρ) (Report α)) (state : Tracked)
    (world : World ρ) :
    (onCopy operation state).run world =
      (((operation state).run world).1.result.map fun output =>
        (output, ((operation state).run world).1.state),
        ((operation state).run world).2) := by
  have hbind : (onCopy operation state).run world =
      (do
        let output ← liftM ((operation state).run world).1.result
        pure (output, ((operation state).run world).1.state) :
          Action ρ (α × Tracked)).run
        ((operation state).run world).2 := rfl
  rw [hbind, Action.run_bind, Action.run_liftM]
  cases ((operation state).run world).1.result with
  | error error => rfl
  | ok output => rfl

namespace Controller

variable {ρ α : Type} (controller : Controller ρ) (state : Tracked)
    (world : World ρ)

/-- What opening a binding yields: a connection and a declaration, or the reason
why there is none. -/
def opening (remote : ρ) : Except OperationError (Connection ρ × Declaration) :=
  match controller.connect state remote with
  | .error cause => .error (.construction cause)
  | .ok connection =>
    state.declaration.map fun declaration => (connection, declaration)

/-- Actions that cannot fail run one after another. -/
theorem run_then {β : Type} (first : StateM (World ρ) α)
    (next : α → StateM (World ρ) β) :
    (first >>= next).run world = (next (first world).1).run (first world).2 :=
  rfl

/-- As part of an action, a run that cannot fail is the same run. -/
theorem run_lifted (run : StateM (World ρ) α) :
    (liftM run : Action ρ α).run world =
      (.ok (run.run world).1, (run.run world).2) :=
  rfl

theorem run_open_eq :
    (controller.open state).run world =
      (controller.opening state world.remote, world) :=
  controller.run_open state world

def observation (connection : Connection ρ) (role : String) (policy : Policy)
    (world : World ρ) : Option (Binding × Etag) × World ρ :=
  match policy.binding? role with
  | some binding => (some (binding, policy.etag), world)
  | none => (none,
    { world with log := world.log ++ [.notFound connection.description role] })

theorem run_lookUp :
    (controller.lookUp state).run world =
      match controller.opening state world.remote with
      | .error error => (.error error, world)
      | .ok (connection, declaration) =>
        match (fetchPolicy connection controller.settings).run world with
        | (.error error, later) => (.error error, later)
        | (.ok policy, later) =>
          let (found, final) :=
            observation connection declaration.role policy later
          (.ok found, final) := by
  rw [lookUp, Action.run_bind, run_open_eq]
  cases controller.opening state world.remote with
  | error error => rfl
  | ok opened =>
      simp only [Action.run_bind]
      rcases (fetchPolicy opened.1 controller.settings).run world
          with ⟨error | policy, later⟩
      · rfl
      · simp only [observation]
        cases policy.binding? opened.2.role with
        | none => rfl
        | some binding => rfl

/-- Take over what a lookup found. -/
def absorbed : Option (Binding × Etag) → Report Presence
  | some (binding, etag) => ⟨.ok .present, state.observe binding etag⟩
  | none => ⟨.ok .absent, state.clearId⟩

theorem absorbed_ok (found : Option (Binding × Etag)) :
    ∃ presence tracked, absorbed state found = ⟨.ok presence, tracked⟩ := by
  cases found with
  | none => exact ⟨.absent, _, rfl⟩
  | some found => exact ⟨.present, _, rfl⟩

theorem run_read :
    (controller.read state).run world =
      match (controller.lookUp state).run world with
      | (.error error, later) => (⟨.error error, state⟩, later)
      | (.ok found, later) => (absorbed state found, later) := by
  rw [read, run_then]
  rcases (controller.lookUp state).run world with ⟨error | ⟨_ | _⟩, later⟩
  · rfl
  · rfl
  · rfl

theorem run_write (change : Declaration → Mutation α) :
    (controller.write state change).run world =
      match controller.opening state world.remote with
      | .error error => (.error error, world)
      | .ok (connection, declaration) =>
        match (readModifyWrite connection controller.settings fun policy =>
          liftM (change declaration policy)).run world with
        | (.error error, later) => (.error error, later)
        | (.ok output, later) =>
          (.ok (⟨connection.resource, declaration.role⟩, output), later) := by
  rw [write, Action.run_bind, run_open_eq]
  cases controller.opening state world.remote with
  | error error => rfl
  | ok opened =>
      simp only [Action.run_bind]
      rcases (readModifyWrite opened.1 controller.settings fun policy =>
        liftM (change opened.2 policy)).run world with ⟨error | output, later⟩
      · rfl
      · rfl

theorem run_writeThenRead (change : Declaration → Mutation Unit) :
    (controller.writeThenRead state change).run world =
      match (controller.write state change).run world with
      | (.error error, later) => (⟨.error error, state⟩, later)
      | (.ok (id, ()), later) =>
        (controller.read (state.setId id)).run later := by
  rw [writeThenRead, run_then]
  rcases (controller.write state change).run world
      with ⟨error | ⟨id, ⟨⟩⟩, later⟩
  · rfl
  · rfl

/-- What a delete makes of the number of entries that it dropped. -/
def removal (connection : Connection ρ) (role : String) (entries : Nat)
    (world : World ρ) : Removal × World ρ :=
  if entries = 0 then
    (.alreadyAbsent,
      { world with
        log := world.log ++ [.nothingToDelete connection.description role] })
  else (.removed, world)

theorem run_drop :
    (controller.drop state).run world =
      match controller.opening state world.remote with
      | .error error => (.error error, world)
      | .ok (connection, declaration) =>
        match (readModifyWrite connection controller.settings fun policy =>
          liftM (Policy.revoke declaration.role policy)).run world with
        | (.error error, later) => (.error error, later)
        | (.ok entries, later) =>
          let (found, final) :=
            removal connection declaration.role entries later
          (.ok found, final) := by
  rw [drop, Action.run_bind, run_open_eq]
  cases controller.opening state world.remote with
  | error error => rfl
  | ok opened =>
      simp only [Action.run_bind]
      rcases (readModifyWrite opened.1 controller.settings fun policy =>
        liftM (Policy.revoke opened.2.role policy)).run world with ⟨error |
          entries, later⟩
      · rfl
      · by_cases hentries : entries = 0
        · simp [removal, hentries, Action.run_bind, -bind_pure_comp]
        · simp [removal, hentries]

theorem run_delete :
    (controller.delete state).run world =
      match (controller.drop state).run world with
      | (.error error, later) => (⟨.error error, state⟩, later)
      | (.ok removal, later) =>
        let (closing, final) := (controller.read state).run later
        (closing.map fun _ => removal, final) := by
  rw [delete, run_then]
  rcases (controller.drop state).run world with ⟨error | removal, later⟩
  · rfl
  · rfl

theorem run_adopt (name : String) :
    (controller.adopt name).run world =
      match BindingId.parse name with
      | .error error => (.error error, world)
      | .ok id =>
        match (controller.read (.ofId id)).run world with
        | (⟨.error error, _⟩, later) => (.error error, later)
        | (⟨.ok .present, tracked⟩, later) => (.ok tracked, later)
        | (⟨.ok .absent, _⟩, later) =>
          (.error (.invalidBinding (.notGranted id.role id.resource)),
            later) := by
  rw [adopt, Action.run_bind, Action.run_liftM]
  cases BindingId.parse name with
  | error error => rfl
  | ok id =>
      simp only
      rw [Action.run_bind, run_lifted]
      simp only [Action.run_bind, Action.run_liftM]
      rcases (controller.read (.ofId id)).run world
          with ⟨⟨error | ⟨⟨⟩ | ⟨⟩⟩, tracked⟩, later⟩
      · rfl
      · rfl
      · rfl

end Controller

end AccessPolicy
