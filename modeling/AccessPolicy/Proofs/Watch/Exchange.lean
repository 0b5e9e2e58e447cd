import AccessPolicy.Proofs.Cycle

/-!
# Watched connections

Every request that goes through a watched connection is taken down, with its
answer and with what the authority remembered before and after it.  Taking
requests down changes nothing else: a watched cycle ends as the plain one does.
What is taken down of a cycle is a fetch, behind it a commit if the fetch and
the change succeeded, and nothing more.
-/

namespace AccessPolicy

variable {ρ α : Type}

/-- A request that was made, its answer, and the authority's memory
before and after it. -/
inductive Exchange (ρ : Type) where
  | fetch (before : ρ) (answer : Except RemoteError Policy) (after : ρ)
  | commit (before : ρ) (sent : Policy)
      (answer : Except RemoteError Unit) (after : ρ)

/-- The memory of an authority, and the exchanges with it so far, the
earliest first. -/
structure Watched (ρ : Type) where
  memory : ρ
  exchanges : List (Exchange ρ) := []

namespace World

def bare (world : World (Watched ρ)) : World ρ :=
  ⟨world.remote.memory, world.log⟩

def watched (world : World ρ) : World (Watched ρ) :=
  ⟨⟨world.remote, []⟩, world.log⟩

/-- A watched world goes on as a plain one does, and these exchanges are
taken down. -/
def extend (world : World (Watched ρ)) (exchanges : List (Exchange ρ))
    (later : World ρ) : World (Watched ρ) :=
  ⟨⟨later.remote, world.remote.exchanges ++ exchanges⟩, later.log⟩

@[simp]
theorem bare_extend (world : World (Watched ρ)) (exchanges : List (Exchange ρ))
    (later : World ρ) : (world.extend exchanges later).bare = later := rfl

@[simp]
theorem memory_extend (world : World (Watched ρ))
    (exchanges : List (Exchange ρ)) (later : World ρ) :
    (world.extend exchanges later).remote.memory = later.remote := rfl

theorem extend_nil (world : World (Watched ρ)) :
    world.extend [] world.bare = world := by
  rw [extend, List.append_nil]
  rfl

@[simp]
theorem extend_extend (world : World (Watched ρ))
    (first second : List (Exchange ρ)) (between later : World ρ) :
    (world.extend first between).extend second later =
      world.extend (first ++ second) later := by
  simp only [extend, List.append_assoc]

/-- What is logged is no exchange. -/
theorem log_extend (world : World (Watched ρ)) (exchanges : List (Exchange ρ))
    (later : World ρ) (events : List Event) :
    { world.extend exchanges later with
      log := (world.extend exchanges later).log ++ events } =
      world.extend exchanges { later with log := later.log ++ events } := rfl

end World

namespace Connection

/-- The connection through which every request is taken down. -/
def watched (connection : Connection ρ) : Connection (Watched ρ) where
  resource := connection.resource
  description := connection.description
  fetch := fun world =>
    let (answer, later) := connection.fetch world.bare
    (answer,
      world.extend [.fetch world.remote.memory answer later.remote] later)
  commit sent := fun world =>
    let (answer, later) := connection.commit sent world.bare
    (answer,
      world.extend [.commit world.remote.memory sent answer later.remote] later)

/-- A fetch can be answered in this way, whatever has been logged. -/
def Fetches (connection : Connection ρ) (before : ρ)
    (answer : Except RemoteError Policy) (after : ρ) : Prop :=
  ∃ log later, connection.fetch ⟨before, log⟩ = (answer, ⟨after, later⟩)

def Commits (connection : Connection ρ) (before : ρ) (sent : Policy)
    (answer : Except RemoteError Unit) (after : ρ) : Prop :=
  ∃ log later, connection.commit sent ⟨before, log⟩ = (answer, ⟨after, later⟩)

end Connection

/-- The exchanges of a cycle: what is fetched is changed and sent back
under its own etag. -/
inductive CycleExchanges (connection : Connection ρ) (change : Mutation α)
    (before : ρ) : List (Exchange ρ) → Except OperationError α → ρ → Prop
  | unfetched {cause : RemoteError} {after : ρ}
      (hfetch : connection.Fetches before (.error cause) after) :
      CycleExchanges connection change before
        [.fetch before (.error cause) after]
        (.error (.fetch connection.description cause)) after
  | unchanged {policy : Policy} {error : OperationError} {after : ρ}
      (hfetch : connection.Fetches before (.ok policy) after)
      (hchange : change policy = .error error) :
      CycleExchanges connection change before [.fetch before (.ok policy) after]
        (.error error) after
  | refused {policy changed : Policy} {output : α} {cause : RemoteError}
      {between after : ρ}
      (hfetch : connection.Fetches before (.ok policy) between)
      (hchange : change policy = .ok (output, changed))
      (hcommit : connection.Commits between { changed with etag := policy.etag }
        (.error cause) after) :
      CycleExchanges connection change before
        [.fetch before (.ok policy) between,
          .commit between { changed with etag := policy.etag }
            (.error cause) after]
        (.error (.commit connection.description cause)) after
  | accepted {policy changed : Policy} {output : α} {between after : ρ}
      (hfetch : connection.Fetches before (.ok policy) between)
      (hchange : change policy = .ok (output, changed))
      (hcommit : connection.Commits between
        { changed with etag := policy.etag } (.ok ()) after) :
      CycleExchanges connection change before
        [.fetch before (.ok policy) between,
          .commit between { changed with etag := policy.etag } (.ok ()) after]
        (.ok output) after

theorem watched_fetch (connection : Connection ρ) (world : World (Watched ρ)) :
    connection.watched.fetch world =
      ((connection.fetch world.bare).1,
        world.extend
          [.fetch world.remote.memory (connection.fetch world.bare).1
            (connection.fetch world.bare).2.remote]
          (connection.fetch world.bare).2) := rfl

theorem watched_commit (connection : Connection ρ) (sent : Policy)
    (world : World (Watched ρ)) :
    connection.watched.commit sent world =
      ((connection.commit sent world.bare).1,
        world.extend
          [.commit world.remote.memory sent
            (connection.commit sent world.bare).1
            (connection.commit sent world.bare).2.remote]
          (connection.commit sent world.bare).2) := rfl

theorem fetchEvents_watched (connection : Connection ρ) (settings : Settings)
    (policy : Policy) :
    fetchEvents connection.watched settings policy =
      fetchEvents connection settings policy :=
  rfl

/-- A watched fetch ends as the plain one does, and is one exchange. -/
theorem run_fetchPolicy_watched (connection : Connection ρ)
    (settings : Settings) (world : World (Watched ρ)) :
    let plain := (fetchPolicy connection settings).run world.bare
    ∃ answer, connection.Fetches world.remote.memory answer plain.2.remote ∧
      plain.1 = answer.mapError (.fetch connection.description) ∧
      (fetchPolicy connection.watched settings).run world =
        (plain.1, world.extend
          [.fetch world.remote.memory answer plain.2.remote] plain.2) := by
  simp only [run_fetchPolicy, watched_fetch]
  rcases hfetch : connection.fetch world.bare with ⟨cause | policy, later⟩
  · exact ⟨.error cause, ⟨_, _, hfetch⟩, rfl, rfl⟩
  · exact ⟨.ok policy, ⟨_, _, hfetch⟩, rfl, rfl⟩

/-- A watched cycle ends as the plain one does, and its exchanges are
those of a cycle. -/
theorem run_cycle_watched (connection : Connection ρ) (settings : Settings)
    (change : Mutation α) (world : World (Watched ρ)) :
    let plain := (readModifyWrite connection settings fun policy =>
      liftM (change policy)).run
      world.bare
    ∃ exchanges,
      CycleExchanges connection change world.remote.memory exchanges plain.1
        plain.2.remote ∧
      (readModifyWrite connection.watched settings fun policy =>
        liftM (change policy)).run world =
        (plain.1, world.extend exchanges plain.2) := by
  simp only [run_readModifyWrite, watched_fetch]
  rcases hfetch : connection.fetch world.bare with ⟨cause | policy, between⟩
  · exact ⟨_, .unfetched ⟨_, _, hfetch⟩, rfl⟩
  · simp only [run_changeAndCommit]
    rcases hchange : change policy with error | ⟨output, changed⟩
    · exact ⟨_, .unchanged ⟨_, _, hfetch⟩ hchange, rfl⟩
    · simp only [watched_commit, World.log_extend, World.bare_extend,
        fetchEvents_watched]
      rcases hcommit : connection.commit { changed with etag := policy.etag }
        { between with
          log := between.log ++ fetchEvents connection settings policy }
        with ⟨cause | ⟨⟩, after⟩
      · refine ⟨_, .refused ⟨_, _, hfetch⟩ hchange ⟨_, _, hcommit⟩, ?_⟩
        rw [World.extend_extend]
        rfl
      · refine ⟨_, .accepted ⟨_, _, hfetch⟩ hchange ⟨_, _, hcommit⟩, ?_⟩
        rw [World.extend_extend]
        rfl

end AccessPolicy
