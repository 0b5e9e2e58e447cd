import AccessPolicy.Proofs.Watch.Step

/-!
# What runs leave behind

A watched run leaves two traces: the calls that were taken down of it, and the
events that it logged.  What is said of both, together with the value of the
run, is put together by rules that follow the shape of a program: what the later
parts leave comes behind what the earlier ones left.
-/

namespace AccessPolicy

variable {ρ α β : Type}

/-- From every world, a run makes some calls and logs some events, and these are
as stated, together with the value of the run. -/
def Leaves (Post : α → List (Exchange ρ) → List Event → Prop)
    (run : StateM (World (Watched ρ)) α) : Prop :=
  ∀ world, ∃ calls events later, Post (run.run world).1 calls events ∧
    (run.run world).2 = world.extend calls ⟨later, world.log ++ events⟩

namespace Leaves

variable {Post : α → List (Exchange ρ) → List Event → Prop}
variable {Final : β → List (Exchange ρ) → List Event → Prop}

theorem imp {Other : α → List (Exchange ρ) → List Event → Prop}
    {run : StateM (World (Watched ρ)) α} (hrun : Leaves Post run)
    (himp : ∀ value calls events, Post value calls events →
      Other value calls events) :
    Leaves Other run := by
  intro world
  obtain ⟨calls, events, later, hpost, hlater⟩ := hrun world
  exact ⟨calls, events, later, himp _ _ _ hpost, hlater⟩

/-- A value leaves nothing behind. -/
theorem pure {value : α} (hpost : Post value [] []) :
    Leaves Post (pure value : StateM (World (Watched ρ)) α) := by
  intro world
  refine ⟨[], [], world.remote.memory, hpost, ?_⟩
  rw [List.append_nil]
  exact world.extend_nil.symm

/-- Behind what was left already, a value leaves nothing. -/
theorem pure_after {value : α} {calls : List (Exchange ρ)} {events : List Event}
    (hpost : Post value calls events) :
    Leaves (fun result more rest =>
      Post result (calls ++ more) (events ++ rest))
      (Pure.pure value : StateM (World (Watched ρ)) α) := by
  apply pure
  rw [List.append_nil, List.append_nil]
  exact hpost

/-- The second run adds to what the first one left. -/
theorem bind {first : StateM (World (Watched ρ)) α}
    {next : α → StateM (World (Watched ρ)) β} (hfirst : Leaves Post first)
    (hnext : ∀ value calls events, Post value calls events →
      Leaves (fun result more rest =>
        Final result (calls ++ more) (events ++ rest))
        (next value)) : Leaves Final (first >>= next) := by
  intro world
  obtain ⟨calls, events, between, hpost, hbetween⟩ := hfirst world
  obtain ⟨more, rest, later, hfinal, hlater⟩ :=
    hnext _ _ _ hpost (first.run world).2
  refine ⟨calls ++ more, events ++ rest, later, hfinal, ?_⟩
  have hrun : ((first >>= next).run world).2 = ((next (first.run world).1).run
      (first.run world).2).2 := rfl
  rw [hrun, hlater, hbetween, World.extend_extend, ← List.append_assoc]
  rfl

theorem map {run : StateM (World (Watched ρ)) α} {form : α → β}
    (hrun : Leaves (fun value => Final (form value)) run) :
    Leaves Final (form <$> run) := by
  intro world
  exact hrun world

section

variable
    {Post : Except OperationError α → List (Exchange ρ) → List Event → Prop}
variable
    {Final : Except OperationError β → List (Exchange ρ) → List Event → Prop}

/-- A run that cannot fail leaves as an action what it leaves as a run. -/
theorem lift_run {run : StateM (World (Watched ρ)) α}
    (hrun : Leaves (fun value => Post (.ok value)) run) :
    Leaves Post (liftM run : Action (Watched ρ) α).run := by
  intro world
  rw [StateT.run, Controller.run_lifted]
  exact hrun world

/-- An error keeps what was left up to it; a value is followed by what the
next action leaves. -/
theorem action_bind {first : Action (Watched ρ) α}
    {next : α → Action (Watched ρ) β} (hfirst : Leaves Post first.run)
    (herror : ∀ error calls events, Post (.error error) calls events →
      Final (.error error) calls events)
    (hnext : ∀ value calls events, Post (.ok value) calls events →
      Leaves (fun result more rest =>
        Final result (calls ++ more) (events ++ rest))
        (next value).run) : Leaves Final (first >>= next).run := by
  change Leaves Final (first.run >>= ExceptT.bindCont next)
  apply bind hfirst
  intro result calls events hpost
  cases result with
  | ok value => exact hnext value calls events hpost
  | error error => exact pure_after (herror error calls events hpost)

/-- An action that starts with an outcome known beforehand. -/
theorem lift_bind {result : Except OperationError α}
    {next : α → Action (Watched ρ) β}
    (herror : ∀ error, result = .error error → Final (.error error) [] [])
    (hnext : ∀ value, result = .ok value → Leaves Final (next value).run) :
    Leaves Final ((liftM result : Action (Watched ρ) α) >>= next).run := by
  cases result with
  | ok value => exact hnext value rfl
  | error error => exact pure (herror error rfl)

end

/-- What is logged in front of an action comes before the events of the
action. -/
theorem emit_then
    {Post : Except OperationError α → List (Exchange ρ) → List Event → Prop}
    {event : Event} {next : Action (Watched ρ) α}
    (hnext : Leaves
      (fun result calls events => Post result calls (event :: events))
      next.run) :
    Leaves Post
      ((emit event : Action (Watched ρ) Unit) >>= fun _ => next).run := by
  intro world
  obtain ⟨calls, events, later, hpost, hlater⟩ :=
    hnext { world with log := world.log ++ [event] }
  refine ⟨calls, event :: events, later, hpost, ?_⟩
  have hrun : (((emit event : Action (Watched ρ) Unit) >>= fun _ =>
    next).run.run world).2 =
      (next.run.run { world with log := world.log ++ [event] }).2 := rfl
  rw [hrun, hlater]
  simp [World.extend]

section

variable {Fits : List (Exchange ρ) → List Event → Prop}

theorem onCopy {operation : Tracked → StateM (World (Watched ρ)) (Report α)}
    {state : Tracked}
    (hoperation : Leaves
      (fun _ calls events => Fits calls events) (operation state)) :
    Leaves (fun _ calls events => Fits calls events)
      (onCopy operation state).run := by
  intro world
  obtain ⟨calls, events, later, hfits, hlater⟩ := hoperation world
  refine ⟨calls, events, later, hfits, ?_⟩
  rw [StateT.run, run_onCopy]
  exact hlater

/-- What is told of every attempt is told of all of them, if it can be put in a
row around the reports of the conflicts. -/
theorem attemptFrom {operation : Action (Watched ρ) α}
    (hoperation : Leaves
      (fun _ calls events => Fits calls events) operation.run)
    (htrans : ∀ {calls events more rest} attempt attempts delay error,
      Fits calls events →
      Fits more rest →
        Fits (calls ++ more)
          (events ++ .retrying attempt attempts delay error :: rest))
    (backoff : Backoff) (left : Nat) (attempt : UInt32) :
    Leaves (fun _ calls events => Fits calls events)
      (attemptFrom backoff operation left attempt).run := by
  induction left generalizing attempt with
  | zero => exact hoperation
  | succ left ih =>
      intro world
      obtain ⟨calls, events, later, hfits, hlater⟩ := hoperation world
      rw [StateT.run, run_attemptFrom_succ]
      change (operation.run world).2 = _ at hlater
      rcases hrun : operation.run world with ⟨error | value, ended⟩
      all_goals rw [hrun] at hlater
      · cases hconflict : error.isConflict with
        | false =>
            simp only [hconflict, Bool.false_eq_true, if_false]
            exact ⟨calls, events, later, hfits, hlater⟩
        | true =>
            simp only [hconflict, if_true]
            -- The next attempt goes on from the world in which the conflict was
            -- logged.
            let event : Event :=
              .retrying attempt backoff.attempts
                (backoff.delayFor attempt) error
            obtain ⟨more, rest, final, hmore, hfinal⟩ :=
              ih (attempt + 1) { ended with log := ended.log ++ [event] }
            refine ⟨calls ++ more, events ++ event :: rest, final,
              htrans attempt backoff.attempts
                (backoff.delayFor attempt) error hfits hmore, ?_⟩
            obtain rfl : ended =
                world.extend calls ⟨later, world.log ++ events⟩ := hlater
            refine hfinal.trans ?_
            rw [World.log_extend, World.extend_extend]
            simp [World.extend]
      · exact ⟨calls, events, later, hfits, hlater⟩

theorem retryOnConflict {operation : Action (Watched ρ) α}
    (hoperation : Leaves
      (fun _ calls events => Fits calls events) operation.run)
    (htrans : ∀ {calls events more rest} attempt attempts delay error,
      Fits calls events →
      Fits more rest →
        Fits (calls ++ more)
          (events ++ .retrying attempt attempts delay error :: rest))
    (backoff : Backoff) :
    Leaves (fun _ calls events => Fits calls events)
      (retryOnConflict backoff operation).run :=
  hoperation.attemptFrom htrans backoff _ _

end

end Leaves

/-- What a watched run left behind when it was watched from the beginning. -/
theorem Leaves.callsOf {Post : α → List (Exchange ρ) → List Event → Prop}
    {run : StateM (World (Watched ρ)) α} (hrun : Leaves Post run)
    (world : World ρ) :
    ∃ events, Post (run.run world.watched).1 (callsOf run world) events ∧
      (run.run world.watched).2.log = world.log ++ events := by
  obtain ⟨calls, events, later, hpost, hlater⟩ := hrun world.watched
  have hcalls : AccessPolicy.callsOf run world = calls :=
    congrArg (fun ended => ended.remote.exchanges) hlater
  rw [hcalls]
  exact ⟨events, hpost, congrArg (·.log) hlater⟩

end AccessPolicy
