import AccessPolicy.Proofs.Watch.Protocol

/-!
# Watched operations

An operation through watched connections ends as the plain one does, with the
same result, state, memory and log, and what is taken down of it keeps the
protocol of remote calls.  This holds for every connector and every memory, so
whatever fails and whoever else writes to the authority.
-/

namespace AccessPolicy

variable {ρ : Type}

namespace Controller

def watched (controller : Controller ρ) : Controller (Watched ρ) where
  connect state watched :=
    (controller.connect state watched.memory).map Connection.watched
  settings := controller.settings

theorem settings_watched (controller : Controller ρ) :
    controller.watched.settings = controller.settings := rfl

theorem opening_watched (controller : Controller ρ) (state : Tracked)
    (watched : Watched ρ) :
    controller.watched.opening state watched =
      (controller.opening state watched.memory).map fun opened =>
        (opened.1.watched, opened.2) := by
  simp only [opening, Controller.watched]
  cases controller.connect state watched.memory with
  | error cause => rfl
  | ok connection => cases state.declaration <;> rfl

/-- The three ways in which opening a binding ends.  A failing connection comes
before a missing role. -/
theorem opening_outcomes (controller : Controller ρ) (state : Tracked)
    (memory : ρ) :
    (∃ cause, controller.connect state memory = .error cause ∧
      controller.opening state memory = .error (.construction cause)) ∨
    (∃ connection, controller.connect state memory = .ok connection ∧
      state.role = "" ∧
      controller.opening state memory = .error (.invalidBinding .emptyRole)) ∨
    (∃ connection, controller.Opens state memory connection ∧
      controller.opening state memory =
        .ok (connection, ⟨state.role, state.members⟩)) := by
  simp only [opening, Tracked.declaration, String.isEmpty_iff]
  cases hconnect : controller.connect state memory with
  | error cause => exact .inl ⟨cause, rfl, rfl⟩
  | ok connection =>
      by_cases hrole : state.role = ""
      · simp only [hrole, if_true]
        exact .inr (.inl ⟨connection, rfl, trivial, rfl⟩)
      · simp only [hrole, if_false]
        exact .inr (.inr ⟨connection, ⟨hconnect, hrole⟩, rfl⟩)

/-- What a read makes of a fetched policy, it makes of it in a watched
world too. -/
theorem observation_watched (connection : Connection ρ) (role : String)
    (policy : Policy) (world : World (Watched ρ))
    (exchanges : List (Exchange ρ)) (later : World ρ) :
    observation connection.watched role policy (world.extend exchanges later) =
      ((observation connection role policy later).1,
        world.extend exchanges
          (observation connection role policy later).2) := by
  simp only [observation]
  cases policy.binding? role with
  | none => rfl
  | some binding => rfl

/-- Telling that there was nothing to delete is no exchange. -/
theorem removal_watched (connection : Connection ρ) (role : String)
    (entries : Nat) (world : World (Watched ρ)) (exchanges : List (Exchange ρ))
    (later : World ρ) :
    removal connection.watched role entries (world.extend exchanges later) =
      ((removal connection role entries later).1,
        world.extend exchanges (removal connection role entries later).2) := by
  simp only [removal]
  by_cases hentries : entries = 0
  · rw [if_pos hentries, if_pos hentries]
    rfl
  · rw [if_neg hentries, if_neg hentries]

end Controller

/-- A watched read ends as the plain one does. -/
theorem run_read_watched (controller : Controller ρ) (state : Tracked)
    (world : World (Watched ρ)) :
    let plain := (controller.read state).run world.bare
    ∃ calls, ReadProtocol controller state world.remote.memory calls plain.1
      plain.2.remote ∧
      (controller.watched.read state).run world =
        (plain.1, world.extend calls plain.2) := by
  simp only [Controller.run_read, Controller.run_lookUp,
    Controller.opening_watched]
  have hmemory : world.bare.remote = world.remote.memory := rfl
  rw [hmemory]
  obtain ⟨cause, hconnect, hopening⟩ | ⟨connection, hconnect, hrole, hopening⟩ |
      ⟨connection, hopens, hopening⟩ :=
    controller.opening_outcomes state world.remote.memory
  · rw [hopening]
    exact ⟨[], .unconnected hconnect, by rw [World.extend_nil]; rfl⟩
  · rw [hopening]
    exact ⟨[], .roleless hconnect hrole, by rw [World.extend_nil]; rfl⟩
  · rw [hopening]
    simp only [Except.map, Controller.settings_watched]
    obtain ⟨answer, hfetches, hanswer, hwatched⟩ :=
      run_fetchPolicy_watched connection controller.settings world
    rw [hwatched]
    rcases hplain : (fetchPolicy connection controller.settings).run
        world.bare with
      ⟨result, later⟩
    rw [hplain] at hfetches hanswer
    simp only at hanswer
    subst hanswer
    cases answer with
    | error cause => exact ⟨_, .unfetched hopens hfetches, rfl⟩
    | ok policy =>
        simp only [Except.mapError, Controller.observation_watched,
          Controller.fst_observation]
        refine ⟨_, ?_, rfl⟩
        rw [Controller.remote_observation]
        exact .finished hopens hfetches

/-- How a write goes up to its commit.  If the binding cannot be opened,
nothing is called.  If it can, the watched cycle ends as the plain one does,
and what has been called is a write that failed, or lacks only the calls of
the closing read. -/
theorem cycle_cases_watched {α : Type} (controller : Controller ρ)
    (operation : Writing) (state : Tracked) {change : Mutation α}
    (hedit : Arena.Rewrites change (operation.edit ⟨state.role, state.members⟩))
    (world : World (Watched ρ)) :
    (∃ error, controller.opening state world.remote.memory = .error error ∧
      WriteProtocol controller operation state world.remote.memory []
        ⟨.error error, state⟩ world.remote.memory) ∨
    ∃ connection calls result later,
      controller.opening state world.remote.memory =
        .ok (connection, ⟨state.role, state.members⟩) ∧
      (readModifyWrite connection controller.settings fun policy =>
        liftM (change policy)).run
        world.bare = (result, later) ∧
      (readModifyWrite connection.watched controller.settings fun policy =>
        liftM (change policy)).run world = (result, world.extend calls later) ∧
      ((∃ error, result = .error error ∧
        WriteProtocol controller operation state world.remote.memory calls
          ⟨.error error, state⟩ later.remote) ∨
      ∃ output, result = .ok output ∧
        ∀ {more closing final} (form : Presence → Scenario.Answer),
          ReadProtocol controller
            (operation.recorded connection.resource state) later.remote more
            closing final →
          WriteProtocol controller operation state world.remote.memory
            (calls ++ more) (closing.map form) final) := by
  obtain ⟨cause, hconnect, hopening⟩ | ⟨connection, hconnect, hrole, hopening⟩ |
      ⟨connection, hopens, hopening⟩ :=
    controller.opening_outcomes state world.remote.memory
  · exact .inl ⟨_, hopening, .unconnected hconnect⟩
  · exact .inl ⟨_, hopening, .roleless hconnect hrole⟩
  · obtain ⟨calls, hcycle, hwatched⟩ :=
      run_cycle_watched connection controller.settings change world
    exact .inr ⟨connection, calls, _, _, hopening, rfl, hwatched,
      hcycle.write_cases hopens hedit⟩

/-- A watched creation or update ends as the plain one does. -/
theorem run_writeThenRead_watched (controller : Controller ρ)
    (operation : Writing) (state : Tracked)
    {change : Declaration → Mutation Unit}
    (hedit : Arena.Rewrites (change ⟨state.role, state.members⟩)
      (operation.edit ⟨state.role, state.members⟩))
    (hrecorded : ∀ own,
      operation.recorded own state = state.setId ⟨own, state.role⟩)
    (world : World (Watched ρ)) :
    let plain := (controller.writeThenRead state change).run world.bare
    ∃ calls,
      WriteProtocol controller operation state world.remote.memory calls
        (plain.1.map .presence) plain.2.remote ∧
      (controller.watched.writeThenRead state change).run world =
        (plain.1, world.extend calls plain.2) := by
  simp only [Controller.run_writeThenRead, Controller.run_write,
    Controller.opening_watched]
  have hmemory : world.bare.remote = world.remote.memory := rfl
  rw [hmemory]
  obtain ⟨error, hopening, hends⟩ |
      ⟨connection, calls, result, later, hopening, hplain, hwatched, hresult⟩ :=
    cycle_cases_watched controller operation state hedit world
  · rw [hopening]
    exact ⟨[], hends, by rw [World.extend_nil]; rfl⟩
  · rw [hopening]
    simp only [Except.map, Controller.settings_watched, hplain, hwatched]
    obtain ⟨error, rfl, hends⟩ | ⟨output, rfl, hends⟩ := hresult
    · exact ⟨calls, hends, rfl⟩
    · obtain ⟨more, hclosing, hread⟩ := run_read_watched controller
        (state.setId ⟨connection.resource, state.role⟩)
          (world.extend calls later)
      rw [hrecorded] at hends
      rw [World.extend_extend] at hread
      exact ⟨_, hends .presence hclosing, hread⟩

/-- A watched deletion ends as the plain one does. -/
theorem run_delete_watched (controller : Controller ρ) (state : Tracked)
    (world : World (Watched ρ)) :
    let plain := (controller.delete state).run world.bare
    ∃ calls,
      WriteProtocol controller .delete state world.remote.memory calls
        (plain.1.map .removal) plain.2.remote ∧
      (controller.watched.delete state).run world =
        (plain.1, world.extend calls plain.2) := by
  simp only [Controller.run_delete, Controller.run_drop,
    Controller.opening_watched]
  have hmemory : world.bare.remote = world.remote.memory := rfl
  rw [hmemory]
  have hedit : Arena.Rewrites (Policy.revoke state.role)
      (Writing.delete.edit ⟨state.role, state.members⟩) :=
    fun policy => ⟨_, Policy.revoke_eq_ok state.role policy⟩
  obtain ⟨error, hopening, hends⟩ |
      ⟨connection, calls, result, later, hopening, hplain, hwatched, hresult⟩ :=
    cycle_cases_watched controller .delete state hedit world
  · rw [hopening]
    exact ⟨[], hends, by rw [World.extend_nil]; rfl⟩
  · rw [hopening]
    simp only [Except.map, Controller.settings_watched, hplain, hwatched]
    obtain ⟨error, rfl, hends⟩ | ⟨entries, rfl, hends⟩ := hresult
    · exact ⟨calls, hends, rfl⟩
    · simp only [Controller.removal_watched]
      obtain ⟨more, hclosing, hread⟩ := run_read_watched controller state
        (world.extend calls
          (Controller.removal connection state.role entries later).2)
      simp only [World.memory_extend, Controller.remote_removal,
        World.bare_extend] at hclosing
      simp only [hread, World.bare_extend, World.extend_extend]
      generalize (controller.read state).run
        (Controller.removal connection state.role entries later).2 =
          ended at hclosing ⊢
      obtain ⟨closing, final⟩ := ended
      simp only [Report.map_map]
      exact ⟨_, hends _ hclosing, rfl⟩

/-- Every watched operation that changes a policy ends as the plain one does. -/
theorem run_writing_watched (controller : Controller ρ) (operation : Writing)
    (state : Tracked) (world : World (Watched ρ)) :
    let plain := (operation.lifecycle.run controller state).run world.bare
    ∃ calls,
      WriteProtocol controller operation state world.remote.memory calls plain.1
        plain.2.remote ∧
      (operation.lifecycle.run controller.watched state).run world =
        (plain.1, world.extend calls plain.2) := by
  cases operation with
  | create =>
      obtain ⟨calls, hcalls, hrun⟩ :=
        run_writeThenRead_watched controller .create state
          (fun policy => ⟨(), Policy.grant_eq_ok _ policy⟩) (fun _ => rfl) world
      refine ⟨calls, hcalls, ?_⟩
      exact Report.run_map _ hrun
  | update =>
      obtain ⟨calls, hcalls, hrun⟩ :=
        run_writeThenRead_watched controller .update state
          (fun policy => ⟨(), Policy.assign_eq_ok _ policy⟩)
            (fun _ => rfl) world
      refine ⟨calls, hcalls, ?_⟩
      exact Report.run_map _ hrun
  | delete =>
      obtain ⟨calls, hcalls, hrun⟩ := run_delete_watched controller state world
      refine ⟨calls, hcalls, ?_⟩
      exact Report.run_map _ hrun

theorem Controller.run_adopt_of_parse (controller : Controller ρ)
    {name : String} {id : BindingId} (hparse : BindingId.parse name = .ok id)
    (world : World ρ) :
    (controller.adopt name).run world =
      (adopted id ((controller.read (.ofId id)).run world).1,
        ((controller.read (.ofId id)).run world).2) := by
  rw [run_adopt, hparse]
  simp only
  rcases (controller.read (.ofId id)).run world
      with ⟨⟨error | ⟨⟨⟩ | ⟨⟩⟩, tracked⟩, later⟩
  · rfl
  · rfl
  · rfl

/-- A watched adoption ends as the plain one does. -/
theorem run_adopt_watched (controller : Controller ρ) (name : String)
    (world : World (Watched ρ)) :
    let plain := (controller.adopt name).run world.bare
    ∃ calls,
      AdoptProtocol controller name world.remote.memory calls plain.1
        plain.2.remote ∧
      (controller.watched.adopt name).run world =
        (plain.1, world.extend calls plain.2) := by
  cases hsplit : BindingId.split? name with
  | none =>
      have hparse : BindingId.parse name =
          .error (.invalidBinding (.unsplittable name)) := by
        rw [BindingId.parse, hsplit]
      simp only [Controller.run_adopt, hparse]
      exact ⟨[], .unparsed hparse, by rw [World.extend_nil]⟩
  | some id =>
      have hparse : BindingId.parse name = .ok id := by
        rw [BindingId.parse, hsplit]
      obtain ⟨calls, hread, hrun⟩ :=
        run_read_watched controller (.ofId id) world
      rw [controller.run_adopt_of_parse hparse,
        controller.watched.run_adopt_of_parse hparse, hrun]
      exact ⟨calls, .parsed hparse hread, rfl⟩

/-! ## All operations -/

/-- The calls that a run makes when it is watched from the beginning. -/
def callsOf {α : Type} (run : StateM (World (Watched ρ)) α) (world : World ρ) :
    List (Exchange ρ) :=
  (run.run world.watched).2.remote.exchanges

/-- The calls of a run are those that were taken down in the world it left. -/
theorem callsOf_eq {α : Type} {run : StateM (World (Watched ρ)) α}
    {world later : World ρ} {value : α} {calls : List (Exchange ρ)}
    (hrun : run.run world.watched = (value, world.watched.extend calls later)) :
    callsOf run world = calls := by
  rw [callsOf, hrun]
  rfl

/-- Every operation keeps the protocol of remote calls, on every authority and
through every connector.  A creation, an update or a deletion calls a part of
fetch, commit and fetch, in this order; a read or an adoption calls a fetch at
most.  Watching them shows the calls and changes nothing. -/
theorem calls_keep_protocol (controller : Controller ρ) (state : Tracked)
    (world : World ρ) :
    (∀ operation : Writing,
      let plain := (operation.lifecycle.run controller state).run world
      let watched := operation.lifecycle.run controller.watched state
      WriteProtocol controller operation state world.remote
        (callsOf watched world) plain.1 plain.2.remote ∧
      (callsOf watched world).map (·.isCommit) <+: [false, true, false] ∧
      (watched.run world.watched).1 = plain.1 ∧
        (watched.run world.watched).2.bare = plain.2) ∧
    (let plain := (controller.read state).run world
      let watched := controller.watched.read state
      ReadProtocol controller state world.remote
        (callsOf watched world) plain.1 plain.2.remote ∧
      (callsOf watched world).map (·.isCommit) <+: [false] ∧
      (watched.run world.watched).1 = plain.1 ∧
        (watched.run world.watched).2.bare = plain.2) ∧
    ∀ name,
      let plain := (controller.adopt name).run world
      let watched := (controller.watched.adopt name).run
      AdoptProtocol controller name world.remote
        (callsOf watched world) plain.1 plain.2.remote ∧
      (callsOf watched world).map (·.isCommit) <+: [false] ∧
      (watched.run world.watched).1 = plain.1 ∧
        (watched.run world.watched).2.bare = plain.2 := by
  refine ⟨?writing, ?reading, ?adopting⟩
  case writing =>
    intro operation plain watched
    obtain ⟨calls, hcalls, hrun⟩ :=
      run_writing_watched controller operation state world.watched
    have hmade : callsOf watched world = calls := by rw [callsOf, hrun]; rfl
    rw [hmade, hrun]
    exact ⟨hcalls, hcalls.order, rfl, rfl⟩
  case reading =>
    intro plain watched
    obtain ⟨calls, hcalls, hrun⟩ :=
      run_read_watched controller state world.watched
    have hmade : callsOf watched world = calls := by rw [callsOf, hrun]; rfl
    rw [hmade, hrun]
    exact ⟨hcalls, hcalls.order, rfl, rfl⟩
  case adopting =>
    intro name plain watched
    obtain ⟨calls, hcalls, hrun⟩ :=
      run_adopt_watched controller name world.watched
    have hmade : callsOf watched world = calls := by
      rw [callsOf]
      exact congrArg (fun ended => ended.2.remote.exchanges) hrun
    rw [hmade]
    exact ⟨hcalls, hcalls.order, congrArg Prod.fst hrun,
      congrArg (fun ended => ended.2.bare) hrun⟩

end AccessPolicy
