import AccessPolicy.Proofs.Arena.Cycle
import AccessPolicy.Proofs.Retry
import AccessPolicy.Proofs.Scenario.Edit

/-!
# The contract of a cycle

A cycle fetches once.  If the fetch succeeds, what it brought is changed once,
in place, and if the change succeeds, what it left is committed once, under
the fetched etag.  Failures are reported as they were answered, each as a
failure of its own turn.  This is so for every authority and every change,
whatever the change does to the etag, to the world, or to the policy before it
fails.  A cycle stores nothing before its commit, so if it fails it leaves the
store to the others.
-/

namespace AccessPolicy

variable {ρ α β : Type}

/-- A change of a policy in place.  It leaves some policy also if it fails, and
may do anything to the world meanwhile. -/
structure InPlace (ρ α : Type) where
  run : Policy → StateM (World ρ) (Except OperationError α × Policy)

/-- The change as part of a cycle, which drops what a failed change left. -/
def InPlace.change (mutation : InPlace ρ α) (policy : Policy) :
    Action ρ (α × Policy) :=
  ExceptT.mk do
    let (result, left) ← mutation.run policy
    pure (result.map fun output => (output, left))

theorem InPlace.run_change (mutation : InPlace ρ α) (policy : Policy)
    (world : World ρ) :
    (mutation.change policy).run world =
      (((mutation.run policy).run world).1.1.map fun output =>
        (output, ((mutation.run policy).run world).1.2),
        ((mutation.run policy).run world).2) := rfl

/-- A change that leaves the policy as it was if it fails. -/
def InPlace.ofChange (change : Policy → Action ρ (α × Policy)) :
    InPlace ρ α where
  run policy := fun world =>
    match (change policy).run world with
    | (.error error, later) => ((.error error, policy), later)
    | (.ok (output, left), later) => ((.ok output, left), later)

/-- Every change that a cycle can make can be made in place. -/
theorem InPlace.change_ofChange (change : Policy → Action ρ (α × Policy)) :
    (ofChange change).change = change := by
  funext policy
  apply funext
  intro world
  refine ((ofChange change).run_change policy world).trans ?_
  simp only [ofChange, StateT.run]
  rcases hchange : (change policy).run world
      with ⟨error | ⟨output, left⟩, later⟩
  · exact hchange.symm
  · exact hchange.symm

/-- A turn of a cycle: a fetch with its answer, a change with the policy that it
was given, the policy that it left and its result, or a commit with its
answer. -/
inductive Turn (α : Type) where
  | fetch (answer : Except RemoteError Policy)
  | change (given left : Policy) (result : Except OperationError α)
  | commit (sent : Policy) (answer : Except RemoteError Unit)

/-- The memory of an authority, and the turns that were taken so far,
the earliest first. -/
structure Traced (ρ α : Type) where
  memory : ρ
  turns : List (Turn α) := []

def World.noting (turns : List (Turn α)) (world : World ρ) :
    World (Traced ρ α) :=
  ⟨⟨world.remote, turns⟩, world.log⟩

def Turn.record (turn : β → Turn α) (step : StateM (World ρ) β) :
    StateM (World (Traced ρ α)) β := fun world =>
  let (value, later) := step ⟨world.remote.memory, world.log⟩
  (value, later.noting (world.remote.turns ++ [turn value]))

def Connection.traced (connection : Connection ρ) :
    Connection (Traced ρ α) where
  resource := connection.resource
  description := connection.description
  fetch := Turn.record .fetch connection.fetch
  commit sent := Turn.record (.commit sent) (connection.commit sent)

def InPlace.traced (mutation : InPlace ρ α) : InPlace (Traced ρ α) α where
  run given := Turn.record (fun (result, left) => .change given left result)
    (mutation.run given)

/-- The turns of a cycle, and its result.  The four cases are a failed fetch, a
failed change, a refused commit and an accepted one. -/
inductive CycleTurns (description : String) :
    List (Turn α) → Except OperationError α → Prop
  | unfetched (cause : RemoteError) :
      CycleTurns description [.fetch (.error cause)]
        (.error (.fetch description cause))
  | unchanged (policy left : Policy) (error : OperationError) :
      CycleTurns description
        [.fetch (.ok policy), .change policy left (.error error)] (.error error)
  | refused (policy left : Policy) (output : α) (cause : RemoteError) :
      CycleTurns description
        [.fetch (.ok policy), .change policy left (.ok output),
          .commit { left with etag := policy.etag } (.error cause)]
        (.error (.commit description cause))
  | accepted (policy left : Policy) (output : α) :
      CycleTurns description
        [.fetch (.ok policy), .change policy left (.ok output),
          .commit { left with etag := policy.etag } (.ok ())]
        (.ok output)

def World.fetched (connection : Connection ρ) (settings : Settings)
    (policy : Policy) (world : World ρ) : World ρ :=
  { world with log := world.log ++ fetchEvents connection settings policy }

/-- A cycle, turn by turn. -/
theorem run_cycle_inPlace (connection : Connection ρ) (settings : Settings)
    (mutation : InPlace ρ α) (world : World ρ) :
    (readModifyWrite connection settings mutation.change).run world =
      match connection.fetch world with
      | (.error cause, later) =>
        (.error (.fetch connection.description cause), later)
      | (.ok policy, later) =>
        match (mutation.run policy).run
          (later.fetched connection settings policy) with
        | ((.error error, _), changed) => (.error error, changed)
        | ((.ok output, left), changed) =>
          let sent := { left with etag := policy.etag }
          let answered := connection.commit sent changed
          (commitReport connection output answered.1,
            { answered.2 with
              log := answered.2.log ++
                commitEvents connection sent answered.1 }) := by
  rw [run_readModifyWrite]
  rcases connection.fetch world with ⟨cause | policy, later⟩
  · rfl
  · simp only [changeAndCommit, Action.run_bind, mutation.run_change,
      World.fetched]
    rcases (mutation.run policy).run _ with ⟨⟨error | output, left⟩, changed⟩
    · rfl
    · simp only [Except.map, run_commitPolicy]
      rcases connection.commit { left with etag := policy.etag } changed with
        ⟨cause | ⟨⟩, answered⟩
      · rfl
      · rfl

section

variable (connection : Connection ρ) (world : World ρ) (turns : List (Turn α))

theorem traced_fetch :
    connection.traced.fetch (world.noting turns) =
      ((connection.fetch world).1,
        (connection.fetch world).2.noting
          (turns ++ [.fetch (connection.fetch world).1])) := rfl

theorem traced_commit (sent : Policy) :
    connection.traced.commit sent (world.noting turns) =
      ((connection.commit sent world).1,
        (connection.commit sent world).2.noting
          (turns ++ [.commit sent (connection.commit sent world).1])) := rfl

theorem traced_run (mutation : InPlace ρ α) (policy : Policy) :
    (mutation.traced.run policy).run (world.noting turns) =
      (((mutation.run policy).run world).1,
        ((mutation.run policy).run world).2.noting
          (turns ++ [.change policy ((mutation.run policy).run world).1.2
            ((mutation.run policy).run world).1.1])) := rfl

theorem World.fetched_noting (settings : Settings) (policy : Policy) :
    (world.noting turns).fetched connection.traced settings policy =
      (world.fetched connection settings policy).noting turns := rfl

end

/-- A cycle of which the turns are taken down goes as the plain one does, and
its turns are those of a cycle. -/
theorem run_cycle_traced (connection : Connection ρ) (settings : Settings)
    (mutation : InPlace ρ α) (world : World ρ) :
    let plain := (readModifyWrite connection settings mutation.change).run world
    ∃ turns, CycleTurns connection.description turns plain.1 ∧
      (readModifyWrite connection.traced settings mutation.traced.change).run
        (world.noting []) = (plain.1, plain.2.noting turns) := by
  simp only [run_cycle_inPlace, traced_fetch]
  rcases hfetch : connection.fetch world with ⟨cause | policy, later⟩
  · exact ⟨_, .unfetched cause, rfl⟩
  · simp only [World.fetched_noting, traced_run]
    rcases hchange : (mutation.run policy).run
        (later.fetched connection settings policy) with
      ⟨⟨error | output, left⟩, changed⟩
    · exact ⟨_, .unchanged policy left error, rfl⟩
    · simp only [traced_commit]
      rcases hcommit :
          connection.commit { left with etag := policy.etag } changed with
        ⟨cause | ⟨⟩, after⟩
      · exact ⟨_, .refused policy left output cause, rfl⟩
      · exact ⟨_, .accepted policy left output, rfl⟩

/-! ## What a failed cycle leaves stored -/

/-- The world that a cycle has reached when it is time to commit, or when
its fetch failed. -/
def World.uncommitted (connection : Connection ρ) (settings : Settings)
    (mutation : InPlace ρ α) (world : World ρ) : World ρ :=
  match connection.fetch world with
  | (.error _, later) => later
  | (.ok policy, later) =>
    ((mutation.run policy).run (later.fetched connection settings policy)).2

/-- A change that edits the policy, while other actors do something to
the authority. -/
def InPlace.amid (own : String) (meanwhile : Policy → List Interference)
    (edit : Policy → Except OperationError α × Policy) : InPlace Arena α where
  run policy := fun world =>
    (edit policy, PolicyEdit.disturbed own (meanwhile policy) world)

namespace Arena

variable {own : String} {settings : Settings}

/-- All that others do in the course of a cycle: around its fetch and, if there
is something to change, during its change. -/
def others (own : String) (meanwhile : Policy → List Interference)
    (arena : Arena) : List Interference :=
  arena.coming 1 ++
    match (arena.fetch own).1 with
    | .error _ => []
    | .ok policy => meanwhile policy

/-- A cycle that fails leaves the store as it was when it was time to commit. -/
theorem stored_of_failed {mutation : InPlace Arena α} {world : World Arena}
    {error : OperationError}
    (hfailed : ((readModifyWrite (connection own) settings mutation.change).run
      world).1 = .error error) :
    ((readModifyWrite (connection own) settings mutation.change).run
        world).2.remote.authority.stored =
      (world.uncommitted (connection own) settings
        mutation).remote.authority.stored := by
  rw [run_cycle_inPlace] at hfailed ⊢
  rw [World.uncommitted]
  rcases hfetch : (connection own).fetch world with ⟨cause | policy, later⟩
  · rfl
  · simp only [hfetch] at hfailed ⊢
    rcases hchange : (mutation.run policy).run
        (later.fetched (connection own) settings policy)
      with ⟨⟨failure | output, left⟩, changed⟩
    · rfl
    · -- Only an accepted commit stores something, and behind it a cycle does
      -- not fail.
      obtain ⟨cause, hcommit⟩ | ⟨-, hcommit⟩ :=
        commit_cases own { left with etag := policy.etag } changed
      · simp only [hcommit]
        rfl
      · simp only [hchange, hcommit] at hfailed
        cases hfailed

/-- When it is time to commit, the store is what the others have made of it. -/
theorem stored_uncommitted_amid (meanwhile : Policy → List Interference)
    (edit : Policy → Except OperationError α × Policy) (world : World Arena) :
    (world.uncommitted (connection own) settings (.amid own meanwhile
        edit)).remote.authority.stored =
      (Interference.applyAll own world.remote.authority
        (world.remote.others own meanwhile)).stored := by
  have hconnection : (connection own).fetch world =
      ((world.remote.fetch own).1,
        { world with remote := (world.remote.fetch own).2 }) := rfl
  rw [World.uncommitted, hconnection, others]
  obtain ⟨cause, -, hfetch⟩ | ⟨-, hfetch⟩ := fetch_cases own world.remote
  · rw [hfetch, List.append_nil]
    exact stored_served own world.remote
  · rw [hfetch, Interference.applyAll_append]
    exact Interference.stored_applyAll_congr own
      (stored_served own world.remote) _

end Arena

/-- Whatever an authority answers and whatever a change does, a cycle takes the
turns of its contract, and reports what they yielded; taking them down changes
nothing else.  All changes that a cycle can make are among the changes in place.
On an arena, a cycle that fails leaves the store as it was when it was time to
commit.  This is what the others made of it: around the fetch and, if it
succeeded, during the change. -/
theorem cycle_keeps_contract :
    (∀ {ρ α : Type} (change : Policy → Action ρ (α × Policy)),
      ∃ mutation : InPlace ρ α, mutation.change = change) ∧
    (∀ {ρ α : Type} (connection : Connection ρ) (settings : Settings)
        (mutation : InPlace ρ α) (world : World ρ),
      let plain :=
        (readModifyWrite connection settings mutation.change).run world
      let traced :=
        (readModifyWrite connection.traced settings mutation.traced.change).run
          (world.noting [])
      traced = (plain.1, plain.2.noting traced.2.remote.turns) ∧
        CycleTurns connection.description traced.2.remote.turns plain.1) ∧
    (∀ {α : Type} (own : String) (settings : Settings)
        (mutation : InPlace Arena α) (world : World Arena)
        (error : OperationError),
      let ended := (readModifyWrite
        (Arena.connection own) settings mutation.change).run world
      ended.1 = .error error →
        ended.2.remote.authority.stored =
          (world.uncommitted (Arena.connection own) settings
            mutation).remote.authority.stored) ∧
    ∀ {α : Type} (own : String) (settings : Settings)
        (meanwhile : Policy → List Interference)
        (edit : Policy → Except OperationError α × Policy)
        (world : World Arena) (error : OperationError),
      let ended := (readModifyWrite (Arena.connection own) settings
        (InPlace.amid own meanwhile edit).change).run world
      ended.1 = .error error →
        ended.2.remote.authority.stored =
          (Interference.applyAll own world.remote.authority
            (world.remote.others own meanwhile)).stored := by
  refine ⟨fun change =>
    ⟨_, InPlace.change_ofChange change⟩, ?turns, ?failed, ?amid⟩
  case turns =>
    intro ρ α connection settings mutation world plain traced
    obtain ⟨turns, hturns, hrun⟩ :=
      run_cycle_traced connection settings mutation world
    have htraced : traced = (plain.1, plain.2.noting turns) := hrun
    rw [htraced]
    exact ⟨rfl, hturns⟩
  case failed =>
    intro α own settings mutation world error ended hfailed
    exact Arena.stored_of_failed hfailed
  case amid =>
    intro α own settings meanwhile edit world error ended hfailed
    rw [← Arena.stored_uncommitted_amid meanwhile edit world]
    exact Arena.stored_of_failed hfailed

def viewed : World Arena where
  remote.authority := .write {} "projects/demo" [⟨"roles/viewer", ["user:x"]⟩]

/-- A cycle there.  Somebody else becomes owner while it clears the policy
and forges the etag. -/
def usurped : Except OperationError Unit × World Arena :=
  (readModifyWrite (Arena.connection "projects/demo") {}
    (InPlace.amid "projects/demo"
      (fun _ => [.write none (· ++ [⟨"roles/owner", ["user:o"]⟩])])
      fun _ => (.ok (), ⟨⟨"forged"⟩, []⟩)).change).run viewed

theorem cycle_keeps_contract_usurped :
    ∃ error, usurped.1 = .error error ∧ error.isConflict = true ∧
      (usurped.2.remote.authority.stored "projects/demo").bindings =
        [⟨"roles/viewer", ["user:x"]⟩, ⟨"roles/owner", ["user:o"]⟩] := by
  have hconflict : isRetried usurped.1 = true := by decide +kernel
  cases hfailed : usurped.1 with
  | ok output =>
      rw [hfailed] at hconflict
      cases hconflict
  | error error =>
      rw [hfailed] at hconflict
      obtain ⟨-, -, -, hothers⟩ := cycle_keeps_contract
      have hstored := hothers "projects/demo" {} _ _ viewed error hfailed
      change usurped.2.remote.authority.stored = _ at hstored
      refine ⟨error, rfl, hconflict, ?_⟩
      rw [hstored]
      decide +kernel

end AccessPolicy
