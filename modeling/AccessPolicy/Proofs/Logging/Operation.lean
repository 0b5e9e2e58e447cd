import AccessPolicy.Proofs.Logging.Transparent

/-!
# Transparent operations

A request is discreet if it takes no notice of the log and reports no fetch in
it.  On connections whose requests are discreet, a fetch of a policy logs the
same with and without full logging, but for the contents; nothing else depends
on the setting.  So the plain operations are linked to the watched ones with
full logging, and all of them are transparent.
-/

namespace AccessPolicy

variable {ρ α β : Type}

/-- A run that takes no notice of the log, and adds to it no report of a
fetch. -/
def Discreet (run : StateM (World ρ) α) : Prop :=
  ∀ memory, ∃ value later events, TellsNoFetch events ∧
    ∀ log, run ⟨memory, log⟩ = (value, ⟨later, log ++ events⟩)

/-- A run that logs nothing and takes no notice of the log is discreet. -/
theorem Discreet.of_silent {run : StateM (World ρ) α}
    (hsilent : ∀ memory log,
      run ⟨memory, log⟩ =
        ((run ⟨memory, []⟩).1, ⟨(run ⟨memory, []⟩).2.remote, log⟩)) :
    Discreet run := by
  intro memory
  refine ⟨(run ⟨memory, []⟩).1, (run ⟨memory, []⟩).2.remote, [], .nil,
    fun log => ?_⟩
  rw [List.append_nil]
  exact hsilent memory log

structure Connection.Discreet (connection : Connection ρ) : Prop where
  fetch : AccessPolicy.Discreet connection.fetch
  commit : ∀ policy, AccessPolicy.Discreet (connection.commit policy)

def Controller.Discreet (controller : Controller ρ) : Prop :=
  ∀ state memory connection, controller.connect state memory = .ok connection →
    connection.Discreet

def Controller.telling (controller : Controller ρ) (full : Bool) :
    Controller ρ :=
  { controller with settings := controller.settings.telling full }

def fetchLog (connection : Connection ρ) (settings : Settings) :
    Except RemoteError Policy → List Event
  | .ok policy => fetchEvents connection settings policy
  | .error _ => []

theorem heard_fetchLog (connection : Connection ρ) (settings : Settings)
    (full : Bool) (answer : Except RemoteError Policy) :
    heard full (fetchLog connection (settings.telling true) answer) =
      fetchLog connection (settings.telling full) answer := by
  cases answer with
  | ok policy => cases full <;> rfl
  | error cause => cases full <;> rfl

theorem told_fetchLog (connection : Connection ρ) (settings : Settings)
    (before : ρ) (answer : Except RemoteError Policy) (after : ρ) :
    Told (fetched [.fetch before answer after])
      (fetchLog connection (settings.telling true) answer) := by
  cases answer with
  | ok policy => exact .fetch connection.description policy .nothing
  | error cause => exact .nothing

theorem run_fetchPolicy_of_fetch {connection : Connection ρ}
    {settings : Settings} {answer : Except RemoteError Policy}
    {memory later : ρ} {log events : List Event}
    (hfetch : connection.fetch ⟨memory, log⟩ =
      (answer, ⟨later, log ++ events⟩)) :
    (fetchPolicy connection settings).run ⟨memory, log⟩ =
      (answer.mapError (.fetch connection.description),
        ⟨later, log ++ (events ++ fetchLog connection settings answer)⟩) := by
  rw [run_fetchPolicy, hfetch]
  cases answer with
  | ok policy => simp only [fetchLog, List.append_assoc, Except.mapError]
  | error cause => simp only [fetchLog, List.append_nil, Except.mapError]

namespace Transparent

section

variable {watched : Action (Watched ρ) α} {run : Bool → Action ρ α}

theorem of_coupled_action
    (hcoupled : ∀ full start logged,
      Action.Coupled (Overhears full start logged) Eq watched (run full)) :
    Transparent watched.run fun full => (run full).run :=
  of_coupled fun full start logged =>
    (hcoupled full start logged).imp fun _ _ => agree_eq_iff.1

theorem coupled_action
    (htransparent : Transparent watched.run fun full => (run full).run)
    (full : Bool) (start : World (Watched ρ)) (logged : List Event) :
    Action.Coupled (Overhears full start logged) Eq watched (run full) :=
  (htransparent.coupled full start logged).imp fun _ _ => agree_eq_iff.2

/-- Transparent actions are transparent one after another. -/
theorem bind {next : α → Action (Watched ρ) β}
    {plainNext : Bool → α → Action ρ β}
    (hfirst : Transparent watched.run fun full => (run full).run)
    (hnext : ∀ value, Transparent (next value).run fun full =>
      (plainNext full value).run) :
    Transparent (watched >>= next).run fun full =>
      (run full >>= plainNext full).run := by
  apply of_coupled_action
  intro full start logged
  apply Action.Coupled.bind (hfirst.coupled_action full start logged)
  rintro value _ rfl
  exact (hnext value).coupled_action full start logged

end

/-- A change of a policy that is discreet. -/
theorem unwatched {action : Action ρ α} (hdiscreet : Discreet action.run) :
    Transparent action.unwatched.run fun _ => action.run := by
  intro memory
  obtain ⟨value, later, events, hevents, hrun⟩ := hdiscreet memory
  refine ⟨value, later, events, ?_, fun taken log =>
    ⟨[], .of_tellsNoFetch hevents, ?_⟩⟩
  · intro full log
    rw [hevents.heard]
    exact hrun log
  · show ((action.run ⟨memory, log⟩).1,
      World.extend _ [] (action.run ⟨memory, log⟩).2) = _
    rw [hrun]
    rfl

theorem emit {event : Event} (hevent : event.reportsFetch = false) :
    Transparent (emit event : Action (Watched ρ) Unit).run
      fun _ => (AccessPolicy.emit event : Action ρ Unit).run := by
  have hevents : TellsNoFetch [event] := .singleton hevent
  intro memory
  refine ⟨.ok (), memory, [event], ?_, fun taken log =>
    ⟨[], .of_tellsNoFetch hevents, ?_⟩⟩
  · intro full log
    rw [hevents.heard]
    rfl
  · rw [List.append_nil]
    rfl

theorem logsAlike (full : Bool) (start : World (Watched ρ))
    (logged : List Event) : LogsAlike (Overhears full start logged) :=
  fun _ hevent => (emit hevent).coupled_action full start logged

/-- What is transparent is so too if it is run again after conflicts. -/
theorem retryOnConflict {watched : Action (Watched ρ) α}
    {run : Bool → Action ρ α}
    (htransparent : Transparent watched.run fun full => (run full).run)
    (backoff : Backoff) :
    Transparent (retryOnConflict backoff watched).run
      fun full => (AccessPolicy.retryOnConflict backoff (run full)).run := by
  apply of_coupled_action
  intro full start logged
  exact .retryOnConflict backoff
    (fun _ _ _ _ => logsAlike full start logged _ rfl)
    (htransparent.coupled_action full start logged)

section

variable {connection : Connection ρ} (hdiscreet : connection.Discreet)
include hdiscreet

theorem commit (policy : Policy) :
    Transparent (connection.watched.commit policy) fun _ =>
      connection.commit policy := by
  intro memory
  obtain ⟨answer, later, events, hevents, hcommit⟩ :=
    hdiscreet.commit policy memory
  refine ⟨answer, later, events, ?_, ?_⟩
  · intro full log
    rw [hevents.heard]
    exact hcommit log
  · intro taken log
    refine ⟨[.commit memory policy answer later], .of_tellsNoFetch hevents, ?_⟩
    rw [StateT.run, watched_commit]
    simp only [World.bare, World.extend, hcommit]

/-- A fetch is told in brief and then in full, and in brief only without
full logging. -/
theorem fetchPolicy (settings : Settings) :
    Transparent (fetchPolicy connection.watched (settings.telling true)).run
      fun full =>
        (AccessPolicy.fetchPolicy connection (settings.telling full)).run := by
  intro memory
  obtain ⟨answer, later, events, hevents, hfetch⟩ := hdiscreet.fetch memory
  refine ⟨answer.mapError (.fetch connection.description), later,
    events ++ fetchLog connection (settings.telling true) answer, ?_, ?_⟩
  · intro full log
    rw [heard_append, hevents.heard, heard_fetchLog]
    exact run_fetchPolicy_of_fetch (hfetch log)
  · intro taken log
    have htold := told_fetchLog connection settings memory answer later
    refine ⟨[.fetch memory answer later],
      (Told.of_tellsNoFetch hevents).append htold, ?_⟩
    have hwatched : connection.watched.fetch ⟨⟨memory, taken⟩, log⟩ =
        (answer,
          ⟨⟨later, taken ++ [.fetch memory answer later]⟩, log ++ events⟩) := by
      rw [watched_fetch]
      simp only [World.bare, World.extend, hfetch]
    exact run_fetchPolicy_of_fetch hwatched

/-- Plain connections are linked to the watched ones with full logging. -/
theorem connection_linked (settings : Settings) (full : Bool)
    (start : World (Watched ρ)) (logged : List Event) :
    connection.watched.Linked (Overhears full start logged)
      (settings.telling true) (settings.telling full) connection where
  resource := rfl
  description := rfl
  fetch := (fetchPolicy hdiscreet settings).coupled_action full start logged
  commit policy := (commit hdiscreet policy).coupled full start logged

/-- A cycle with any discreet change. -/
theorem readModifyWrite (settings : Settings)
    {change : Policy → Action ρ (α × Policy)}
    (hchange : ∀ policy, Discreet (change policy).run) :
    Transparent
      (readModifyWrite connection.watched (settings.telling true)
        fun policy => (change policy).unwatched).run
      fun full => (AccessPolicy.readModifyWrite connection
        (settings.telling full) change).run := by
  apply of_coupled_action
  intro full start logged
  apply (connection_linked hdiscreet settings full start logged).readModifyWrite
    (logsAlike full start logged)
  intro policy
  exact (unwatched (hchange policy)).coupled_action full start logged

end

section

variable {controller : Controller ρ} (hdiscreet : controller.Discreet)
include hdiscreet

theorem controller_linked (full : Bool) (start : World (Watched ρ))
    (logged : List Event) :
    (controller.telling true).watched.Linked (Overhears full start logged)
      (controller.telling full) where
  connect := by
    intro state world other hworlds
    simp only [Controller.watched, Controller.telling, hworlds.memory]
    cases hconnect : controller.connect state world.remote.memory with
    | error cause => exact .error cause
    | ok connection =>
        exact .ok
          (connection_linked (hdiscreet _ _ _ hconnect) _ full start logged)

theorem lifecycle (operation : Scenario.Lifecycle) (state : Tracked) :
    Transparent (operation.run (controller.telling true).watched state)
      fun full => operation.run (controller.telling full) state :=
  of_coupled fun full start logged =>
    (controller_linked hdiscreet full start logged).lifecycle
      (logsAlike full start logged) operation state

theorem adopt (name : String) :
    Transparent ((controller.telling true).watched.adopt name).run
      fun full => ((controller.telling full).adopt name).run :=
  of_coupled_action fun full start logged =>
    (controller_linked hdiscreet full start logged).adopt
      (logsAlike full start logged) name

/-- An operation on a copy of a state, as it is run again after conflicts. -/
theorem attempt (operation : Scenario.Lifecycle) (state : Tracked) :
    Transparent
      (onCopy (operation.run (controller.telling true).watched ·) state).run
      fun full =>
        (onCopy (operation.run (controller.telling full) ·) state).run :=
  of_coupled_action fun full start logged =>
    (controller_linked hdiscreet full start logged).attempt
      (logsAlike full start logged) operation state

end

end Transparent

/-- Fetches of policies and cycles with any discreet change are transparent. -/
structure Connection.Transparent (connection : Connection ρ) : Prop where
  fetchPolicy : ∀ settings : Settings, AccessPolicy.Transparent
    (fetchPolicy connection.watched (settings.telling true)).run
    fun full =>
      (AccessPolicy.fetchPolicy connection (settings.telling full)).run
  readModifyWrite :
    ∀ (settings : Settings) {α : Type}
        (change : Policy → Action ρ (α × Policy)),
      (∀ policy, AccessPolicy.Discreet (change policy).run) →
        AccessPolicy.Transparent
          (readModifyWrite connection.watched (settings.telling true)
            fun policy => (change policy).unwatched).run
          fun full => (AccessPolicy.readModifyWrite connection
            (settings.telling full) change).run

structure Controller.Transparent (controller : Controller ρ) : Prop where
  lifecycle : ∀ (operation : Scenario.Lifecycle) (state : Tracked),
    AccessPolicy.Transparent
      (operation.run (controller.telling true).watched state)
      fun full => operation.run (controller.telling full) state
  attempt : ∀ (operation : Scenario.Lifecycle) (state : Tracked),
    AccessPolicy.Transparent
      (onCopy (operation.run (controller.telling true).watched ·) state).run
      fun full => (onCopy (operation.run (controller.telling full) ·) state).run
  adopt : ∀ name : String, AccessPolicy.Transparent
    ((controller.telling true).watched.adopt name).run
    fun full => ((controller.telling full).adopt name).run

theorem Connection.Transparent.of_discreet {connection : Connection ρ}
    (hdiscreet : connection.Discreet) : connection.Transparent where
  fetchPolicy settings := .fetchPolicy hdiscreet settings
  readModifyWrite settings _ _ hchange :=
    .readModifyWrite hdiscreet settings hchange

theorem Controller.Transparent.of_discreet {controller : Controller ρ}
    (hdiscreet : controller.Discreet) : controller.Transparent where
  lifecycle := .lifecycle hdiscreet
  attempt := .attempt hdiscreet
  adopt := .adopt hdiscreet

end AccessPolicy
