import AccessPolicy.Retry
import AccessPolicy.Scenario.Edit

/-!
# Scenarios

A scenario plays the operations against an authority in memory, with several
named states of bindings on its side and other writers around its fetches.
-/

namespace AccessPolicy.Scenario

inductive Lifecycle where
  | create
  | read
  | update
  | delete
  deriving DecidableEq

inductive Step where
  | define (name : String) (state : Tracked)
  /-- Give a copy of a named state another name. -/
  | copy (source name : String)
  /-- Replace the declared members of a named state. -/
  | setMembers (name : String) (members : List String)
  | run (operation : Lifecycle) (name : String)
  /-- Start to track an existing binding under a name. -/
  | adopt (id name : String)
  | plan (name : String) (declaration : Declaration)
  /-- Run an operation on a named state again after conflicts. -/
  | retry (operation : Lifecycle) (name : String) (backoff : Backoff)
  /-- Lay down what happens around the coming fetches. -/
  | race (races : List Race)
  /-- Let another actor act now. -/
  | interfere (changes : List Interference)
  | cycle (edits : List PolicyEdit)
  /-- Fetch the policy as the operations do. -/
  | fetchPolicy
  /-- Fetch the policy from the authority itself, outside all races. -/
  | rawFetch
  /-- Commit a policy to the authority itself. -/
  | rawCommit (policy : Policy)
  /-- Ask the connection what it is connected to. -/
  | describe

inductive Answer where
  | done
  | presence (presence : Presence)
  | removal (removal : Removal)
  | plan (plan : Plan)
  | count (count : Nat)
  | policy (policy : Policy)
  | target (resource description : String)

inductive Failure where
  | operation (error : OperationError)
  | request (error : RemoteError)

/-- Where a scenario stands: the arena, and the named states. -/
structure Stage where
  arena : Arena := {}
  states : List (String × Tracked) := []

namespace Stage

/-- The state with a name.  A name that was never given stands for a
binding without role. -/
def state (stage : Stage) (name : String) : Tracked :=
  (stage.states.lookup name).getD (.declare "" [])

def define (stage : Stage) (name : String) (state : Tracked) : Stage :=
  { stage with states := (name, state) :: stage.states.filter (·.1 ≠ name) }

/-- The stage of an authority to which bindings have been written,
resource by resource. -/
def seeded (seeds : List (String × List Binding)) : Stage :=
  { arena.authority := seeds.foldl
      (fun authority (resource, bindings) =>
        authority.write resource bindings) {} }

end Stage

structure Outcome where
  result : Except Failure Answer
  stage : Stage
  log : List Event := []

def Stage.perform {α : Type} (stage : Stage) (action : StateM (World Arena) α) :
    α × Stage × List Event :=
  let (value, world) := action.run ⟨stage.arena, []⟩
  (value, { stage with arena := world.remote }, world.log)

def Stage.answer {α : Type} (stage : Stage) (action : Action Arena α)
    (form : α → Answer) : Outcome :=
  let (result, stage, log) := stage.perform action.run
  ⟨(result.map form).mapError .operation, stage, log⟩

def Lifecycle.run {ρ : Type} (controller : Controller ρ) (state : Tracked) :
    Lifecycle → StateM (World ρ) (Report Answer)
  | create => (·.map .presence) <$> controller.create state
  | read => (·.map .presence) <$> controller.read state
  | update => (·.map .presence) <$> controller.update state
  | delete => (·.map .removal) <$> controller.delete state

def Step.play (settings : Settings) (resource : String) (stage : Stage) :
    Step → Outcome
  | define name state => ⟨.ok .done, stage.define name state, []⟩
  | copy source name => ⟨.ok .done, stage.define name (stage.state source), []⟩
  | setMembers name members =>
    ⟨.ok .done, stage.define name ((stage.state name).setMembers members), []⟩
  | run operation name =>
    let controller := Arena.controller resource settings
    let (report, stage, log) :=
      stage.perform (operation.run controller (stage.state name))
    ⟨report.result.mapError .operation, stage.define name report.state, log⟩
  | adopt id name =>
    let controller := Arena.controller resource settings
    let (result, stage, log) := stage.perform (controller.adopt id).run
    match result with
    | .ok state => ⟨.ok .done, stage.define name state, log⟩
    | .error error => ⟨.error (.operation error), stage, log⟩
  | plan name declaration =>
    ⟨.ok (.plan ((stage.state name).plan declaration)), stage, []⟩
  | retry operation name backoff =>
    let controller := Arena.controller resource settings
    let attempt := onCopy (operation.run controller ·) (stage.state name)
    let (result, stage, log) :=
      stage.perform (retryOnConflict backoff attempt).run
    match result with
    | .ok (answer, state) => ⟨.ok answer, stage.define name state, log⟩
    | .error error => ⟨.error (.operation error), stage, log⟩
  | race races => ⟨.ok .done, { stage with arena.races := races }, []⟩
  | interfere changes =>
    let authority :=
      Interference.applyAll resource stage.arena.authority changes
    ⟨.ok .done, { stage with arena.authority := authority }, []⟩
  | cycle edits =>
    stage.answer
      (readModifyWrite (Arena.connection resource) settings
        (PolicyEdit.applyAll resource edits))
      .count
  | fetchPolicy =>
    stage.answer
      (AccessPolicy.fetchPolicy (Arena.connection resource) settings) .policy
  | rawFetch =>
    let (result, authority) := stage.arena.authority.fetch resource
    ⟨(result.map .policy).mapError .request,
      { stage with arena.authority := authority }, []⟩
  | rawCommit policy =>
    let (result, stage, log) :=
      stage.perform ((Arena.connection resource).commit policy)
    ⟨(result.map fun () => .done).mapError .request, stage, log⟩
  | describe =>
    let connection := Arena.connection resource
    ⟨.ok (.target connection.resource connection.description), stage, []⟩

def play (settings : Settings) (stage : Stage) :
    List (String × Step) → List Outcome
  | [] => []
  | (resource, step) :: rest =>
    let outcome := step.play settings resource stage
    outcome :: play settings outcome.stage rest

end AccessPolicy.Scenario
