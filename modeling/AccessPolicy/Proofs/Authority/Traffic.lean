import AccessPolicy.Proofs.Arena.Cycle

/-!
# Interleaved cycles

Several clients run read-modify-write cycles against one authority, other
writers write past all etags, and failures are armed, all in any order.  A cycle
goes through two steps, its fetch and its commit, and anything may happen
between them.  This file proves that no update is lost: what is stored at the
end is what the accepted writes leave when they are executed one after another.

The invariant is that every cycle in flight holds a policy as it was shown, and
not more writes ago than the run has accepted.
-/

namespace AccessPolicy.Traffic

/-- A read-modify-write cycle of some client. -/
structure Cycle where
  Output : Type
  resource : String
  settings : Settings
  change : Mutation Output

/-- A cycle between its fetch and its commit. -/
structure Flight where
  cycle : Cycle
  fetched : Policy

/-- What can happen next.  Cycles in flight are told apart by numbers; a cycle
whose number is used again is given up. -/
inductive Step where
  | seed (resource : String) (bindings : List Binding)
  | external (resource : String) (edit : List Binding → List Binding)
  | failFetch (failure : RemoteError)
  | failCommit (failure : RemoteError)
  | fetch (number : Nat) (cycle : Cycle)
  | commit (number : Nat)

/-- A write that was accepted. -/
inductive Write where
  | seed (resource : String) (bindings : List Binding)
  | external (resource : String) (edit : List Binding → List Binding)
  | cycle (cycle : Cycle)

structure State where
  authority : Authority
  log : List Event := []
  flights : Nat → Option Flight := fun _ => none

namespace Cycle

def fetch (cycle : Cycle) : Action Arena Policy :=
  fetchPolicy (Arena.connection cycle.resource) cycle.settings

def run (cycle : Cycle) : Action Arena cycle.Output :=
  readModifyWrite (Arena.connection cycle.resource) cycle.settings
    fun policy => liftM (cycle.change policy)

end Cycle

def Flight.commit (flight : Flight) : Action Arena flight.cycle.Output :=
  changeAndCommit (Arena.connection flight.cycle.resource)
    (fun policy => liftM (flight.cycle.change policy)) flight.fetched

/-- A cycle is its two halves, one right after the other. -/
theorem Cycle.run_eq (client : Cycle) :
    client.run = client.fetch >>= fun fetched =>
      (Flight.mk client fetched).commit :=
  rfl

namespace State

/-- The world in which a half of a cycle runs: nobody else acts during a
request. -/
def world (state : State) : World Arena :=
  ⟨{ authority := state.authority }, state.log⟩

/-- Take over what a half of a cycle left, and what became of its number. -/
def resume (state : State) (later : World Arena) (number : Nat)
    (flight : Option Flight) : State where
  authority := later.remote.authority
  log := later.log
  flights := fun other => if other = number then flight else state.flights other

/-- Make a step, and tell which write was accepted in it. -/
def step (state : State) : Step → State × Option Write
  | .seed resource bindings =>
    ({ state with authority := state.authority.write resource bindings },
      some (.seed resource bindings))
  | .external resource edit =>
    ({ state with authority := state.authority.change resource edit },
      some (.external resource edit))
  | .failFetch failure =>
    ({ state with authority := { state.authority with
      fetchFailure := some failure } }, none)
  | .failCommit failure =>
    ({ state with authority := { state.authority with
      commitFailure := some failure } }, none)
  | .fetch number cycle =>
    match cycle.fetch.run state.world with
    | (.ok policy, later) =>
      (state.resume later number (some ⟨cycle, policy⟩), none)
    | (.error _, later) => (state.resume later number none, none)
  | .commit number =>
    match state.flights number with
    | none => (state, none)
    | some flight =>
      match flight.commit.run state.world with
      | (.ok _, later) =>
        (state.resume later number none, some (.cycle flight.cycle))
      | (.error _, later) => (state.resume later number none, none)

def run (state : State) : List Step → State × List Write
  | [] => (state, [])
  | next :: rest =>
    let (between, written) := state.step next
    let (final, writes) := between.run rest
    (final, written.toList ++ writes)

end State

namespace Write

def resource : Write → String
  | seed resource _ | external resource _ => resource
  | cycle client => client.resource

/-- Execute a write with nothing else going on.  A cycle fetches anew,
changes and commits. -/
def execute (authority : Authority) : Write → Authority
  | seed resource bindings => authority.write resource bindings
  | external resource edit => authority.change resource edit
  | cycle client => (client.run.run ⟨{ authority }, []⟩).2.remote.authority

def executeAll (authority : Authority) (writes : List Write) : Authority :=
  writes.foldl execute authority

def count (resource : String) (writes : List Write) : Nat :=
  writes.countP (·.resource = resource)

/-- What a write makes of the version and the bindings that are stored for its
resource.  A cycle whose change fails makes nothing of them. -/
def edit (stored : Stored) : Write → Stored
  | seed _ bindings => ⟨stored.version + 1, bindings⟩
  | external _ edit => ⟨stored.version + 1, edit stored.bindings⟩
  | cycle client =>
    match client.change ⟨Stored.etagOf stored.version, stored.bindings⟩ with
    | .ok (_, changed) => ⟨stored.version + 1, changed.bindings⟩
    | .error _ => stored

def editAll (resource : String) (stored : Stored)
    (writes : List Write) : Stored :=
  (writes.filter (·.resource = resource)).foldl edit stored

end Write

/-- What a write makes of the policy that is stored when it is accepted. -/
def Write.Yields (authority : Authority) (bindings : List Binding) :
    Write → Prop
  | .seed _ written => bindings = written
  | .external resource edit =>
    bindings = edit (authority.stored resource).bindings
  | .cycle client => ∃ output changed,
    client.change (authority.policy client.resource) = .ok (output, changed) ∧
      bindings = changed.bindings

theorem Cycle.fetch_cases (client : Cycle) (state : State) :
    ∃ later, later.remote.authority.stored = state.authority.stored ∧
      ((∃ error, client.fetch.run state.world = (.error error, later)) ∨
        client.fetch.run state.world =
          (.ok (state.authority.policy client.resource), later)) := by
  obtain ⟨cause, _, hrun⟩ | ⟨_, hrun⟩ :=
    Arena.run_fetchPolicy_cases client.resource client.settings state.world
  · exact ⟨_, rfl, .inl ⟨_, hrun⟩⟩
  · exact ⟨_, rfl, .inr hrun⟩

theorem Flight.commit_cases (flight : Flight) (world : World Arena) :
    (∃ error later, flight.commit.run world = (.error error, later) ∧
      later.remote.authority.stored = world.remote.authority.stored) ∨
    (∃ output changed later,
      flight.cycle.change flight.fetched = .ok (output, changed) ∧
      flight.fetched.etag =
        (world.remote.authority.stored flight.cycle.resource).etag ∧
      flight.commit.run world = (.ok output, later) ∧
      later.remote.authority.stored =
        (world.remote.authority.write flight.cycle.resource
          changed.bindings).stored) := by
  obtain ⟨error, -, hrun⟩ | ⟨output, changed, cause, -, hrun⟩ |
      ⟨output, changed, hchange, hetag, hrun⟩ :=
    Arena.run_changeAndCommit_cases flight.cycle.resource flight.cycle.change
      flight.fetched world
  · exact .inl ⟨error, world, hrun, rfl⟩
  · exact .inl ⟨_, _, hrun, rfl⟩
  · exact .inr ⟨output, changed, _, hchange, hetag, hrun, rfl⟩

/-- Nothing is armed that a request of a cycle could fail with. -/
structure Unarmed (authority : Authority) : Prop where
  fetches : authority.fetchFailure = none
  commits : authority.commitFailure = none

theorem Cycle.fetch_unarmed (client : Cycle) {authority : Authority}
    (hunarmed : Unarmed authority) :
    ∃ log, client.fetch.run ⟨{ authority }, []⟩ =
      (.ok (authority.policy client.resource),
        ⟨{ authority := authority.fetched }, log⟩) := by
  obtain ⟨_, harmed, _⟩ | ⟨_, hrun⟩ :=
    Arena.run_fetchPolicy_cases client.resource client.settings
      ⟨{ authority }, []⟩
  · cases harmed.symm.trans hunarmed.fetches
  · exact ⟨_, hrun⟩

/-- A commit of a policy that is still current is accepted, unless the
change fails. -/
theorem Flight.commit_unarmed (flight : Flight) (world : World Arena)
    (hcommits : world.remote.authority.commitFailure = none)
    (hcurrent : flight.fetched =
      world.remote.authority.policy flight.cycle.resource) :
    (flight.commit.run world).2.remote.authority =
      match flight.cycle.change flight.fetched with
      | .ok (_, changed) =>
        world.remote.authority.committed.write flight.cycle.resource
          changed.bindings
      | .error _ => world.remote.authority := by
  rw [Flight.commit, run_changeAndCommit]
  cases flight.cycle.change flight.fetched with
  | error error => rfl
  | ok changed =>
      have hetag : flight.fetched.etag =
          (world.remote.authority.stored flight.cycle.resource).etag := by
        rw [hcurrent, Authority.policy, Stored.policy]
      let sent : Policy := { changed.2 with etag := flight.fetched.etag }
      have hcommit :
          (Arena.connection flight.cycle.resource).commit sent world =
            (.ok (),
              Arena.accepted flight.cycle.resource sent.bindings world) :=
        Arena.commit_current hcommits hetag
      simp only [sent] at hcommit
      simp only [hcommit]
      rfl

/-- Alone on an authority without armed failures, a cycle stores what it makes
of the current policy.  It is its two halves, one right after the other. -/
theorem Cycle.run_alone (client : Cycle) {authority : Authority}
    (hunarmed : Unarmed authority) :
    (client.run.run ⟨{ authority }, []⟩).2.remote.authority =
      match client.change (authority.policy client.resource) with
      | .ok (_, changed) =>
        authority.fetched.committed.write client.resource changed.bindings
      | .error _ => authority.fetched := by
  obtain ⟨log, hfetch⟩ := client.fetch_unarmed hunarmed
  let flight : Flight := ⟨client, authority.policy client.resource⟩
  have hcommit := flight.commit_unarmed
    ⟨{ authority := authority.fetched }, log⟩ hunarmed.commits rfl
  simp only [client.run_eq, Action.run_bind, hfetch]
  refine hcommit.trans ?_
  cases client.change (authority.policy client.resource) with
  | error | ok => rfl

namespace Write

variable {authority : Authority}

theorem execute_unarmed (hunarmed : Unarmed authority) (write : Write) :
    Unarmed (write.execute authority) := by
  cases write with
  | seed | external => exact ⟨hunarmed.fetches, hunarmed.commits⟩
  | cycle client =>
      rw [execute, client.run_alone hunarmed]
      split
      · exact ⟨rfl, rfl⟩
      · exact ⟨rfl, hunarmed.commits⟩

theorem edit_cycle (authority : Authority) (client : Cycle) :
    (cycle client).edit (authority.stored client.resource) =
      match client.change (authority.policy client.resource) with
      | .ok (_, changed) =>
        (authority.stored client.resource).write changed.bindings
      | .error _ => authority.stored client.resource :=
  rfl

/-- A write that is executed alone edits what is stored for its resource,
and nothing else. -/
theorem stored_execute (hunarmed : Unarmed authority) (write : Write)
    (resource : String) :
    (write.execute authority).stored resource =
      if write.resource = resource then write.edit (authority.stored resource)
      else authority.stored resource := by
  by_cases hresource : write.resource = resource
  · subst hresource
    rw [if_pos rfl]
    cases write with
    | seed resource bindings =>
        exact Authority.stored_write_self authority resource bindings
    | external resource edit =>
        exact Authority.stored_write_self authority resource _
    | cycle client =>
        rw [execute, client.run_alone hunarmed, resource, edit_cycle]
        split
        · exact Authority.stored_write_self _ client.resource _
        · rfl
  · rw [if_neg hresource]
    have hother : resource ≠ write.resource := Ne.symm hresource
    cases write with
    | seed | external => exact Authority.stored_write_of_ne authority _ hother
    | cycle client =>
        rw [execute, client.run_alone hunarmed]
        split
        · exact Authority.stored_write_of_ne _ _ hother
        · rfl

theorem stored_executeAll (hunarmed : Unarmed authority) (writes : List Write)
    (resource : String) :
    (executeAll authority writes).stored resource =
      editAll resource (authority.stored resource) writes := by
  induction writes generalizing authority with
  | nil => rfl
  | cons write later ih =>
      have hlater := ih (write.execute_unarmed hunarmed)
      rw [write.stored_execute hunarmed] at hlater
      rw [executeAll, List.foldl_cons, ← executeAll, hlater, editAll, editAll]
      by_cases hresource : write.resource = resource
      · rw [if_pos hresource,
          List.filter_cons_of_pos (by simpa using hresource), List.foldl_cons]
      · rw [if_neg hresource,
          List.filter_cons_of_neg (by simpa using hresource)]

/-- What a write yields is what it makes of what is stored. -/
theorem Yields.edit_eq {bindings : List Binding} {write : Write}
    (hyields : write.Yields authority bindings) :
    write.edit (authority.stored write.resource) =
      (authority.stored write.resource).write bindings := by
  cases write with
  | seed | external =>
      subst hyields
      rfl
  | cycle client =>
      obtain ⟨output, changed, hchange, rfl⟩ := hyields
      rw [resource, edit_cycle, hchange]

end Write

/-! ## One step -/

namespace State

/-- Every cycle in flight holds a policy that was shown, and not more than
so many writes ago. -/
def Sound (state : State) (past : String → Nat) : Prop :=
  ∀ number flight, state.flights number = some flight →
    ∃ writes ≤ past flight.cycle.resource,
      (state.authority.stored flight.cycle.resource).Shown flight.fetched writes

/-- What a step does to the store: either nothing, or one write that was
accepted. -/
def StepEffect (state next : State) : Option Write → Prop
  | none => next.authority.stored = state.authority.stored
  | some write => ∃ bindings, write.Yields state.authority bindings ∧
    next.authority.stored =
      (state.authority.write write.resource bindings).stored

variable {state next : State} {past : String → Nat}

/-- A cycle in flight whose etag is current holds the current policy, as long as
the counter cannot have come full circle. -/
theorem Sound.fetched_eq (hsound : state.Sound past) {number : Nat}
    {flight : Flight} (hflight : state.flights number = some flight)
    (hpast : past flight.cycle.resource < 2 ^ 64)
    (hetag : flight.fetched.etag =
      (state.authority.stored flight.cycle.resource).etag) :
    flight.fetched = state.authority.policy flight.cycle.resource := by
  obtain ⟨writes, hwrites, hshown⟩ := hsound number flight hflight
  exact hshown.eq_policy (Nat.lt_of_le_of_lt hwrites hpast) hetag

theorem step_effect (hsound : state.Sound past)
    (hpast : ∀ resource, past resource < 2 ^ 64) (step : Step) :
    StepEffect state (state.step step).1 (state.step step).2 := by
  cases step with
  | seed resource bindings => exact ⟨bindings, rfl, rfl⟩
  | external resource edit => exact ⟨_, rfl, rfl⟩
  | failFetch | failCommit => exact rfl
  | fetch number client =>
      obtain ⟨later, hstored, ⟨error, hrun⟩ | hrun⟩ := client.fetch_cases state
      · simp only [State.step, hrun]
        exact hstored
      · simp only [State.step, hrun]
        exact hstored
  | commit number =>
      cases hflight : state.flights number with
      | none =>
          simp only [State.step, hflight]
          exact rfl
      | some flight =>
          obtain ⟨error, later, hrun, hstored⟩ |
              ⟨output, changed, later, hchange, hetag, hrun, hstored⟩ :=
            flight.commit_cases state.world
          · simp only [State.step, hflight, hrun]
            exact hstored
          · simp only [State.step, hflight, hrun]
            -- Its etag was current, so the cycle changed what was stored.
            rw [hsound.fetched_eq hflight (hpast _) hetag] at hchange
            exact ⟨changed.bindings, ⟨output, changed, hchange, rfl⟩, hstored⟩

/-- A flight that is there after a step was there before it, or its cycle
has just fetched. -/
theorem flight_of_step {step : Step} {number : Nat} {flight : Flight}
    (hflight : (state.step step).1.flights number = some flight) :
    state.flights number = some flight ∨
      (state.step step).2 = none ∧
        flight.fetched = state.authority.policy flight.cycle.resource := by
  cases step with
  | seed | external | failFetch | failCommit => exact .inl hflight
  | fetch begun client =>
      obtain ⟨later, -, ⟨error, hrun⟩ | hrun⟩ := client.fetch_cases state
      · simp only [State.step, hrun, resume] at hflight
        by_cases hnumber : number = begun
        · simp [hnumber] at hflight
        · exact .inl (by simpa [hnumber] using hflight)
      · simp only [State.step, hrun, resume] at hflight ⊢
        by_cases hnumber : number = begun
        · rw [if_pos hnumber] at hflight
          cases hflight
          exact .inr ⟨trivial, rfl⟩
        · exact .inl (by simpa [hnumber] using hflight)
  | commit ended =>
      cases hended : state.flights ended with
      | none =>
          simp only [State.step, hended] at hflight
          exact .inl hflight
      | some old =>
          have hkept : number ≠ ended ∧ state.flights number = some flight := by
            simp only [State.step, hended] at hflight
            split at hflight <;> simpa [resume] using hflight
          exact .inl hkept.2

/-- A step keeps the invariant, and an accepted write makes the held policies of
its resource older by one. -/
theorem step_sound (hsound : state.Sound past)
    (hpast : ∀ resource, past resource < 2 ^ 64) (step : Step) :
    (state.step step).1.Sound fun resource =>
      past resource + Write.count resource (state.step step).2.toList := by
  intro number flight hflight
  have heffect := step_effect hsound hpast step
  obtain hold | ⟨hnone, hfetched⟩ := flight_of_step hflight
  · obtain ⟨writes, hwrites, hshown⟩ := hsound number flight hold
    cases hwritten : (state.step step).2 with
    | none =>
        rw [hwritten] at heffect
        refine ⟨writes, hwrites, ?_⟩
        rw [heffect]
        exact hshown
    | some write =>
        rw [hwritten] at heffect
        obtain ⟨bindings, -, hstored⟩ := heffect
        rw [hstored]
        by_cases hresource : write.resource = flight.cycle.resource
        · refine ⟨writes + 1, ?_, ?_⟩
          · simp [Write.count, hresource, hwrites]
          · rw [hresource, Authority.stored_write_self]
            exact hshown.write bindings
        · refine ⟨writes, Nat.le_add_right_of_le hwrites, ?_⟩
          rw [Authority.stored_write_of_ne _ _ (Ne.symm hresource)]
          exact hshown
  · rw [hnone] at heffect
    refine ⟨0, Nat.zero_le _, ?_⟩
    rw [heffect, hfetched]
    exact Stored.shown_policy _

/-! ## Runs -/

theorem run_append (state : State) (first second : List Step) :
    state.run (first ++ second) =
      (((state.run first).1.run second).1,
        (state.run first).2 ++ ((state.run first).1.run second).2) := by
  induction first generalizing state with
  | nil => rfl
  | cons head tail ih =>
      simp only [List.cons_append, run, ih, List.append_assoc]

/-- The accepted writes of a run are those of its first step and those
of the rest. -/
theorem count_run_cons (state : State) (head : Step) (tail : List Step)
    (resource : String) :
    Write.count resource (state.run (head :: tail)).2 =
      Write.count resource (state.step head).2.toList +
        Write.count resource ((state.step head).1.run tail).2 :=
  List.countP_append

/-- A step has at most one write accepted. -/
theorem count_run_le (state : State) (steps : List Step) (resource : String) :
    Write.count resource (state.run steps).2 ≤ steps.length := by
  induction steps generalizing state with
  | nil => exact Nat.le_refl 0
  | cons head tail ih =>
      have hhead : Write.count resource (state.step head).2.toList ≤ 1 :=
        Nat.le_trans List.countP_le_length Option.length_toList_le
      rw [count_run_cons, List.length_cons]
      have htail := ih (state.step head).1
      omega

theorem run_sound {steps : List Step} (hsound : state.Sound past)
    (hbound : ∀ resource,
      past resource + Write.count resource (state.run steps).2 < 2 ^ 64) :
    (state.run steps).1.Sound fun resource =>
      past resource + Write.count resource (state.run steps).2 := by
  induction steps generalizing state past with
  | nil => exact hsound
  | cons head tail ih =>
      have hpast : ∀ resource, past resource < 2 ^ 64 := fun resource =>
        Nat.lt_of_le_of_lt (Nat.le_add_right _ _) (hbound resource)
      simp only [count_run_cons, ← Nat.add_assoc] at hbound ⊢
      exact ih (step_sound hsound hpast head) hbound

/-- An authority on which nothing but the accepted writes was executed
keeps up with the run. -/
structure Follows (serial : Authority) (state : State) : Prop
    extends Unarmed serial where
  stored : serial.stored = state.authority.stored

theorem Follows.execute {serial : Authority} {write : Write}
    (hfollows : Follows serial state)
    (heffect : StepEffect state next (some write)) :
    Follows (write.execute serial) next where
  toUnarmed := write.execute_unarmed hfollows.toUnarmed
  stored := by
    obtain ⟨bindings, hyields, hstored⟩ := heffect
    funext resource
    rw [write.stored_execute hfollows.toUnarmed, hfollows.stored, hstored]
    by_cases hresource : write.resource = resource
    · subst hresource
      rw [if_pos rfl, hyields.edit_eq, Authority.stored_write_self]
    · rw [if_neg hresource,
        Authority.stored_write_of_ne _ _ (Ne.symm hresource)]

theorem run_follows {steps : List Step} {serial : Authority}
    (hsound : state.Sound past)
    (hbound : ∀ resource,
      past resource + Write.count resource (state.run steps).2 < 2 ^ 64)
    (hfollows : Follows serial state) :
    Follows (Write.executeAll serial (state.run steps).2)
      (state.run steps).1 := by
  induction steps generalizing state past serial with
  | nil => exact hfollows
  | cons head tail ih =>
      have hpast : ∀ resource, past resource < 2 ^ 64 := fun resource =>
        Nat.lt_of_le_of_lt (Nat.le_add_right _ _) (hbound resource)
      have heffect := step_effect hsound hpast head
      simp only [count_run_cons, ← Nat.add_assoc] at hbound
      cases hwritten : (state.step head).2 with
      | none =>
          rw [hwritten] at heffect
          have hnext : Follows serial (state.step head).1 :=
            ⟨hfollows.toUnarmed, hfollows.stored.trans heffect.symm⟩
          have hfinal := ih (step_sound hsound hpast head) hbound hnext
          simp only [run, hwritten, Option.toList_none, List.nil_append]
          exact hfinal
      | some write =>
          rw [hwritten] at heffect
          have hfinal :=
            ih (step_sound hsound hpast head) hbound (hfollows.execute heffect)
          simp only [run, hwritten, Option.toList_some, List.singleton_append]
          exact hfinal

end State

/-- No update is lost.  Whatever the order of the steps, the store ends up as if
the accepted writes had been executed one after another on an authority that
nobody else touches: what is stored for a resource is what was stored at the
start, edited by its accepted writes in turn.  Each of them was made from what
was stored immediately before it, and no other step changes the store: a cycle
that failed in its fetch, in its change or in its commit contributes nothing. -/
theorem no_lost_update (start : Authority) (steps : List Step)
    (hwrites : ∀ resource,
      Write.count resource (State.run { authority := start } steps).2 <
        2 ^ 64) :
    (State.run { authority := start } steps).1.authority.stored =
        (Write.executeAll
          { start with fetchFailure := none, commitFailure := none }
          (State.run { authority := start } steps).2).stored ∧
      (∀ resource,
        (State.run { authority := start } steps).1.authority.stored resource =
          Write.editAll resource (start.stored resource)
            (State.run { authority := start } steps).2) ∧
      ∀ before step after, steps = before ++ step :: after →
        let reached := (State.run { authority := start } before).1
        State.StepEffect reached (reached.step step).1
          (reached.step step).2 := by
  have hsound : State.Sound { authority := start } fun _ => 0 := by
    intro number flight hflight
    cases hflight
  have hunarmed :
      Unarmed { start with fetchFailure := none, commitFailure := none } :=
    ⟨rfl, rfl⟩
  have hbound : ∀ resource,
      0 + Write.count resource (State.run { authority := start } steps).2 <
        2 ^ 64 := by
    intro resource
    rw [Nat.zero_add]
    exact hwrites resource
  have hserial := (State.run_follows hsound hbound ⟨hunarmed, rfl⟩).stored.symm
  refine ⟨hserial, ?_, ?_⟩
  · intro resource
    rw [hserial]
    exact Write.stored_executeAll hunarmed _ resource
  · intro before step after hsteps
    subst hsteps
    have hpast : ∀ resource,
        0 + Write.count resource (State.run { authority := start } before).2 <
          2 ^ 64 := by
      intro resource
      have hprefix := hbound resource
      rw [State.run_append, Write.count, List.countP_append,
        ← Nat.add_assoc] at hprefix
      exact Nat.lt_of_le_of_lt (Nat.le_add_right _ _) hprefix
    exact State.step_effect (State.run_sound hsound hpast) hpast step

/-- Two cycles that fetched the same version: the second commit is refused. -/
def clash : List Step :=
  [.seed "projects/demo" [⟨"roles/viewer", ["user:x"]⟩],
    .fetch 0 ⟨Unit, "projects/demo", {},
      Policy.grant ⟨"roles/editor", .ofList ["user:e"]⟩⟩,
    .fetch 1 ⟨Nat, "projects/demo", {}, Policy.revoke "roles/viewer"⟩,
    .commit 0,
    .commit 1]

theorem no_lost_update_clash :
    (∀ resource,
      Write.count resource (State.run { authority := {} } clash).2 < 2 ^ 64) ∧
      (State.run { authority := {} } clash).1.authority.stored =
        (Write.executeAll {} (State.run { authority := {} } clash).2).stored ∧
      (∀ resource,
        (State.run { authority := {} } clash).1.authority.stored resource =
          Write.editAll resource {} (State.run { authority := {} } clash).2) ∧
      ∀ before step after, clash = before ++ step :: after →
        let reached := (State.run { authority := {} } before).1
        State.StepEffect reached (reached.step step).1
          (reached.step step).2 := by
  have hwrites : ∀ resource,
      Write.count resource (State.run { authority := {} } clash).2 <
        2 ^ 64 := by
    intro resource
    exact Nat.lt_of_le_of_lt (State.count_run_le _ clash resource) (by decide)
  exact ⟨hwrites, no_lost_update {} clash hwrites⟩

end AccessPolicy.Traffic
