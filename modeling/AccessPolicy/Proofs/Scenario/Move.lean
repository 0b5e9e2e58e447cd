import AccessPolicy.Scenario.Step

/-!
# What an operator does

An operator makes new states, by declaring a binding, by copying a state or by
adopting a binding that exists, and makes calls on the states that there are.
Besides that other writers act, at once or around the coming fetches.
-/

namespace AccessPolicy.Scenario

/-- What an operator does with a state: run an operation on it, or set
its members. -/
inductive Call where
  | run (operation : Lifecycle) (name : String)
  | setMembers (name : String) (members : List String)
  deriving DecidableEq

def Call.name : Call → String
  | run _ name | setMembers name _ => name

def Call.step : Call → Step
  | run operation name => .run operation name
  | setMembers name members => .setMembers name members

/-- What happens in a scenario in which states come into being as they
really do. -/
inductive Move where
  | declare (name role : String) (members : List String)
  | copy (source name : String)
  | adopt (id name : String)
  | call (made : Call)
  | race (races : List Race)
  | interfere (changes : List Interference)

namespace Move

def step : Move → Step
  | declare name role members => .define name (.declare role members)
  | copy source name => .copy source name
  | adopt id name => .adopt id name
  | .call made => made.step
  | race races => .race races
  | interfere changes => .interfere changes

/-- Whether a name may stand for another state afterwards. -/
def renews (name : String) : Move → Bool
  | declare other _ _ | copy _ other | adopt _ other => other = name
  | .call _ | race _ | interfere _ => false

end Move

def Stage.after (settings : Settings) (own : String) (stage : Stage)
    (steps : List Step) : Stage :=
  steps.foldl (fun stage step => (step.play settings own stage).stage) stage

theorem lookup_filter_ne {name other : String} (hname : other ≠ name)
    (states : List (String × Tracked)) :
    (states.filter (·.1 ≠ name)).lookup other = states.lookup other := by
  induction states with
  | nil => rfl
  | cons head tail ih =>
      by_cases hhead : head.1 = name
      · rw [List.filter_cons_of_neg (by simp [hhead]), List.lookup_cons, hhead,
          beq_false_of_ne hname]
        exact ih
      · rw [List.filter_cons_of_pos (by simp [hhead]), List.lookup_cons,
          List.lookup_cons, ih]

theorem Stage.state_define (stage : Stage) (name other : String)
    (state : Tracked) :
    (stage.define name state).state other =
      if other = name then state else stage.state other := by
  by_cases hname : other = name
  · rw [if_pos hname, Stage.state, Stage.define, List.lookup_cons, hname,
      beq_self_eq_true]
    rfl
  · rw [if_neg hname, Stage.state, Stage.define, List.lookup_cons,
      beq_false_of_ne hname]
    simp only [lookup_filter_ne hname, Stage.state]

/-- The world that a step leaves, where it began with an empty log. -/
def Outcome.world (outcome : Outcome) : World Arena :=
  ⟨outcome.stage.arena, outcome.log⟩

section

variable (settings : Settings) (own : String) (stage : Stage)

/-- An adoption that fails defines no state. -/
theorem play_adopt (id name : String) :
    (Step.adopt id name).play settings own stage =
      match ((Arena.controller own settings).adopt id).run
        ⟨stage.arena, []⟩ with
      | (.ok state, world) =>
        ⟨.ok .done,
          { stage with arena := world.remote }.define name state, world.log⟩
      | (.error error, world) =>
        ⟨.error (.operation error), { stage with arena := world.remote },
          world.log⟩ := by
  simp only [Step.play, Stage.perform, StateT.run]
  rcases ((Arena.controller own settings).adopt id).run ⟨stage.arena, []⟩ with
    ⟨error | state, world⟩
  · rfl
  · rfl

/-- An operation that fails in its last attempt leaves its state alone. -/
theorem play_retry (operation : Lifecycle) (name : String) (backoff : Backoff) :
    (Step.retry operation name backoff).play settings own stage =
      match (retryOnConflict backoff
        (onCopy (operation.run (Arena.controller own settings) ·)
          (stage.state name))).run ⟨stage.arena, []⟩ with
      | (.ok (answer, state), world) =>
        ⟨.ok answer,
          { stage with arena := world.remote }.define name state, world.log⟩
      | (.error error, world) =>
        ⟨.error (.operation error), { stage with arena := world.remote },
          world.log⟩ := by
  simp only [Step.play, Stage.perform, StateT.run]
  rcases (retryOnConflict backoff
    (onCopy (operation.run (Arena.controller own settings) ·)
      (stage.state name))).run ⟨stage.arena, []⟩ with
    ⟨error | ⟨answer, state⟩, world⟩
  · rfl
  · rfl

theorem world_adopt (id name : String) :
    ((Step.adopt id name).play settings own stage).world =
      (((Arena.controller own settings).adopt id).run ⟨stage.arena, []⟩).2 := by
  rw [play_adopt]
  rcases ((Arena.controller own settings).adopt id).run ⟨stage.arena, []⟩ with
    ⟨error | state, world⟩
  · rfl
  · rfl

theorem world_retry (operation : Lifecycle) (name : String)
    (backoff : Backoff) :
    ((Step.retry operation name backoff).play settings own stage).world =
      ((retryOnConflict backoff
        (onCopy (operation.run (Arena.controller own settings) ·)
          (stage.state name))).run ⟨stage.arena, []⟩).2 := by
  rw [play_retry]
  rcases (retryOnConflict backoff
    (onCopy (operation.run (Arena.controller own settings) ·)
      (stage.state name))).run ⟨stage.arena, []⟩ with
    ⟨error | ⟨answer, state⟩, world⟩
  · rfl
  · rfl

theorem arena_adopt (id name : String) :
    ((Step.adopt id name).play settings own stage).stage.arena =
      (((Arena.controller own settings).adopt id).run
        ⟨stage.arena, []⟩).2.remote :=
  congrArg World.remote (world_adopt settings own stage id name)

theorem arena_retry (operation : Lifecycle) (name : String)
    (backoff : Backoff) :
    ((Step.retry operation name backoff).play settings own stage).stage.arena =
      ((retryOnConflict backoff
        (onCopy (operation.run (Arena.controller own settings) ·)
          (stage.state name))).run ⟨stage.arena, []⟩).2.remote :=
  congrArg World.remote (world_retry settings own stage operation name backoff)

end

end AccessPolicy.Scenario
