import AccessPolicy.Proofs.Retry
import AccessPolicy.Proofs.Watch.Operation

/-!
# The calls of a step

A step of a scenario may run an operation, run it again after conflicts,
or run a cycle with a change of its own.  Each of them can be watched: it
ends as the plain one does, and what is taken down of it is what its parts
call, one after another.
-/

namespace AccessPolicy

variable {ρ α : Type}

/-- An action that makes no request through a watched connection, as part
of a watched run. -/
def Action.unwatched (action : Action ρ α) : Action (Watched ρ) α :=
  ExceptT.mk fun world =>
  let (result, later) := action.run world.bare
  (result, world.extend [] later)

/-- A run ends as another one does that is not watched, and what it calls is in
a relation to the memories before and after it. -/
def Mirrors (Calls : ρ → List (Exchange ρ) → ρ → Prop)
    (watched : StateM (World (Watched ρ)) α)
    (plain : StateM (World ρ) α) : Prop :=
  ∀ world, ∃ calls,
    Calls world.remote.memory calls (plain world.bare).2.remote ∧
    watched world =
      ((plain world.bare).1, world.extend calls (plain world.bare).2)

namespace Mirrors

variable {Calls : ρ → List (Exchange ρ) → ρ → Prop}

/-- What was taken down from the beginning of a run. -/
theorem callsOf {watched : StateM (World (Watched ρ)) α}
    {plain : StateM (World ρ) α} (hmirrors : Mirrors Calls watched plain)
    (world : World ρ) :
    Calls world.remote (callsOf watched world) (plain.run world).2.remote := by
  obtain ⟨calls, hcalls, hrun⟩ := hmirrors world.watched
  rw [callsOf_eq hrun]
  exact hcalls

theorem onCopy {watched : Tracked → StateM (World (Watched ρ)) (Report α)}
    {plain : Tracked → StateM (World ρ) (Report α)} {state : Tracked}
    (hmirrors : Mirrors Calls (watched state) (plain state)) :
    Mirrors Calls (AccessPolicy.onCopy watched state).run
      (AccessPolicy.onCopy plain state).run := by
  intro world
  obtain ⟨calls, hcalls, hrun⟩ := hmirrors world
  change (watched state).run world = _ at hrun
  rw [run_onCopy, run_onCopy, hrun]
  exact ⟨calls, hcalls, rfl⟩

/-- What is said of calls in a row is said of all attempts together. -/
theorem attemptFrom {watched : Action (Watched ρ) α} {plain : Action ρ α}
    (hmirrors : Mirrors Calls watched.run plain.run)
    (htrans : ∀ {before between after first second},
      Calls before first between →
      Calls between second after → Calls before (first ++ second) after)
    (backoff : Backoff) (left : Nat) (attempt : UInt32) :
    Mirrors Calls (AccessPolicy.attemptFrom backoff watched left attempt).run
      (AccessPolicy.attemptFrom backoff plain left attempt).run := by
  induction left generalizing attempt with
  | zero => exact hmirrors
  | succ left ih =>
      intro world
      obtain ⟨calls, hcalls, hrun⟩ := hmirrors world
      rw [run_attemptFrom_succ, run_attemptFrom_succ, hrun]
      rcases hplain : plain.run world.bare with ⟨error | value, later⟩
      all_goals rw [hplain] at hcalls
      · cases hconflict : error.isConflict with
        | false =>
            simp only [hconflict, Bool.false_eq_true, if_false]
            exact ⟨calls, hcalls, rfl⟩
        | true =>
            simp only [hconflict, if_true, World.log_extend]
            -- The next attempt goes on from the world in which the conflict was
            -- logged.
            obtain ⟨more, hmore, hrest⟩ := ih (attempt + 1) (world.extend calls
              { later with log := later.log ++
                [.retrying attempt backoff.attempts
                  (backoff.delayFor attempt) error] })
            rw [World.bare_extend] at hmore hrest
            rw [World.extend_extend] at hrest
            exact ⟨calls ++ more, htrans hcalls hmore, hrest⟩
      · exact ⟨calls, hcalls, rfl⟩

theorem retryOnConflict {watched : Action (Watched ρ) α} {plain : Action ρ α}
    (hmirrors : Mirrors Calls watched.run plain.run)
    (htrans : ∀ {before between after first second},
      Calls before first between →
      Calls between second after → Calls before (first ++ second) after)
    (backoff : Backoff) :
    Mirrors Calls (AccessPolicy.retryOnConflict backoff watched).run
      (AccessPolicy.retryOnConflict backoff plain).run :=
  hmirrors.attemptFrom htrans backoff _ _

/-- What is said of single fetches holds of every fetch of a policy. -/
theorem fetchPolicy (connection : Connection ρ) (settings : Settings)
    (hfetch : ∀ {before answer after}, connection.Fetches before answer after →
      Calls before [.fetch before answer after] after) :
    Mirrors Calls (AccessPolicy.fetchPolicy connection.watched settings).run
      (AccessPolicy.fetchPolicy connection settings).run := by
  intro world
  obtain ⟨answer, hfetches, -, hrun⟩ :=
    run_fetchPolicy_watched connection settings world
  exact ⟨_, hfetch hfetches, hrun⟩

/-- What the table of calls says of adoptions holds of every adoption. -/
theorem adopt (controller : Controller ρ) (name : String)
    (hadopt : ∀ {before calls result after},
      AdoptProtocol controller name before calls result after →
        Calls before calls after) :
    Mirrors Calls (controller.watched.adopt name).run
      (controller.adopt name).run := by
  intro world
  obtain ⟨calls, hcalls, hrun⟩ := run_adopt_watched controller name world
  exact ⟨calls, hadopt hcalls, hrun⟩

end Mirrors

namespace Scenario

variable {Calls : ρ → List (Exchange ρ) → ρ → Prop}

/-- What the tables of calls say of reads and of writes holds of every
operation. -/
theorem Lifecycle.mirrors (operation : Lifecycle) (controller : Controller ρ)
    (state : Tracked)
    (hread : ∀ {before calls report after},
      ReadProtocol controller state before calls report after →
        Calls before calls after)
    (hwrite : ∀ {writing before calls report after},
      writing.lifecycle = operation →
      WriteProtocol controller writing state before calls report after →
        Calls before calls after) :
    Mirrors Calls (operation.run controller.watched state)
      (operation.run controller state) := by
  intro world
  obtain rfl | ⟨writing, rfl⟩ := Writing.lifecycle_cases operation
  · obtain ⟨calls, hcalls, hrun⟩ := run_read_watched controller state world
    exact ⟨calls, hread hcalls, Report.run_map Answer.presence hrun⟩
  · obtain ⟨calls, hcalls, hrun⟩ :=
      run_writing_watched controller writing state world
    exact ⟨calls, hwrite rfl hcalls, hrun⟩

/-- If what the tables say can be put in a row, it holds of repeated
operations too. -/
theorem Lifecycle.mirrors_retry (operation : Lifecycle)
    (controller : Controller ρ) (state : Tracked) (backoff : Backoff)
    (hread : ∀ {before calls report after},
      ReadProtocol controller state before calls report after →
        Calls before calls after)
    (hwrite : ∀ {writing before calls report after},
      writing.lifecycle = operation →
      WriteProtocol controller writing state before calls report after →
        Calls before calls after)
    (htrans : ∀ {before between after first second},
      Calls before first between →
      Calls between second after → Calls before (first ++ second) after) :
    Mirrors Calls
      (retryOnConflict backoff
        (onCopy (operation.run controller.watched ·) state)).run
      (retryOnConflict backoff
        (onCopy (operation.run controller ·) state)).run := by
  have hcopy :
      Mirrors Calls (onCopy (operation.run controller.watched ·) state).run
        (onCopy (operation.run controller ·) state).run :=
    Mirrors.onCopy (operation.mirrors controller state hread hwrite)
  exact hcopy.retryOnConflict htrans backoff

def Step.calls (settings : Settings) (own : String) (stage : Stage) :
    Step → List (Exchange Arena)
  | run operation name =>
    callsOf
      (operation.run (Arena.controller own settings).watched (stage.state name))
      ⟨stage.arena, []⟩
  | adopt id _ =>
    callsOf ((Arena.controller own settings).watched.adopt id).run
      ⟨stage.arena, []⟩
  | retry operation name backoff =>
    let attempt :=
      onCopy (operation.run (Arena.controller own settings).watched ·)
        (stage.state name)
    callsOf (retryOnConflict backoff attempt).run ⟨stage.arena, []⟩
  | cycle edits =>
    let change := fun policy => (PolicyEdit.applyAll own edits policy).unwatched
    callsOf (readModifyWrite (Arena.connection own).watched settings change).run
      ⟨stage.arena, []⟩
  | fetchPolicy =>
    callsOf
      (AccessPolicy.fetchPolicy (Arena.connection own).watched settings).run
      ⟨stage.arena, []⟩
  | _ => []

end Scenario

end AccessPolicy
