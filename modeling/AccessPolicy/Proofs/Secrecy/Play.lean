import AccessPolicy.Proofs.Controller.Adoption
import AccessPolicy.Proofs.Secrecy.Blind
import AccessPolicy.Scenario.Step

/-!
# Scenarios that show no member

Two scenarios are played on stages that differ in their members at most, by
steps that do the same but for the members that they declare and that other
writers grant roles to.  As long as policies are not logged in full, an observer
who sees every result and every log cannot tell the two apart.
-/

namespace AccessPolicy.Scenario

abbrev NamedAlike : List (String × Tracked) → List (String × Tracked) → Prop :=
  List.Forall₂ fun named other => named.1 = other.1 ∧ named.2.Alike other.2

structure Stage.Alike (first second : Stage) : Prop where
  arena : first.arena.Alike second.arena
  states : NamedAlike first.states second.states

/-- What a step left behind shows no member. -/
structure Outcome.Alike (first second : Outcome) : Prop where
  result : first.result = second.result
  stage : first.stage.Alike second.stage
  log : first.log = second.log

/-- Steps on tracked bindings, by their operator or by others, that differ
in members at most. -/
inductive Step.Alike : Step → Step → Prop
  | define (name : String) {state other : Tracked}
      (hstates : state.Alike other) :
      Alike (.define name state) (.define name other)
  | copy (source name : String) : Alike (.copy source name) (.copy source name)
  | setMembers (name : String) (members others : List String) :
      Alike (.setMembers name members) (.setMembers name others)
  | run (operation : Lifecycle) (name : String) :
      Alike (.run operation name) (.run operation name)
  | adopt (id name : String) : Alike (.adopt id name) (.adopt id name)
  | retry (operation : Lifecycle) (name : String) (backoff : Backoff) :
      Alike (.retry operation name backoff) (.retry operation name backoff)
  | race {races others : List Race}
      (hraces : List.Forall₂ Race.Alike races others) :
      Alike (.race races) (.race others)
  | interfere {changes others : List Interference}
      (hchanges : List.Forall₂ Interference.Alike changes others) :
      Alike (.interfere changes) (.interfere others)
  | describe : Alike .describe .describe

variable {stage other : Stage} {settings : Settings} {α : Type}
    {R : α → α → Prop}

theorem Stage.Alike.state (halike : stage.Alike other) (name : String) :
    (stage.state name).Alike (other.state name) := by
  obtain ⟨arena, states⟩ := stage
  obtain ⟨otherArena, others⟩ := other
  have hstates : NamedAlike states others := halike.states
  clear halike
  rw [Stage.state, Stage.state]
  induction hstates with
  | nil => exact .refl _
  | @cons named otherNamed rest others hhead htail ih =>
      rw [List.lookup_cons, List.lookup_cons, hhead.1]
      cases name == otherNamed.1 with
      | true => exact hhead.2
      | false => exact ih

theorem Stage.Alike.define (halike : stage.Alike other) (name : String)
    {state otherState : Tracked} (hstates : state.Alike otherState) :
    (stage.define name state).Alike (other.define name otherState) := by
  refine ⟨halike.arena, .cons ⟨rfl, hstates⟩ ?_⟩
  apply List.rel_filter _ halike.states
  intro named otherNamed hnamed
  simp only [hnamed.1]

/-- A blind run on stages that are alike. -/
theorem Stage.Alike.perform (halike : stage.Alike other)
    {first second : StateM (World Arena) α} (hblind : Blind R first second) :
    R (stage.perform first).1 (other.perform second).1 ∧
      (stage.perform first).2.1.Alike (other.perform second).2.1 ∧
      (stage.perform first).2.2 = (other.perform second).2.2 := by
  obtain ⟨hvalues, hworlds⟩ :=
    hblind ⟨stage.arena, []⟩ ⟨other.arena, []⟩ ⟨halike.arena, rfl⟩
  exact ⟨hvalues, ⟨hworlds.remote, halike.states⟩, hworlds.log⟩

/-- A blind action on stages that are alike succeeds on both or fails on
both. -/
theorem Stage.Alike.perform_cases (halike : stage.Alike other)
    {first second : Action Arena α} (hblind : Action.Blind R first second) :
    (∃ value otherValue later otherLater log, R value otherValue ∧
      later.Alike otherLater ∧
      stage.perform first.run = (.ok value, later, log) ∧
      other.perform second.run = (.ok otherValue, otherLater, log)) ∨
    (∃ error later otherLater log, later.Alike otherLater ∧
      stage.perform first.run = (.error error, later, log) ∧
      other.perform second.run = (.error error, otherLater, log)) := by
  obtain ⟨hresults, hstages, hlogs⟩ := halike.perform hblind
  generalize stage.perform first.run = ended at hresults hstages hlogs ⊢
  generalize other.perform second.run = otherEnded at hresults hstages hlogs ⊢
  obtain ⟨result, later, log⟩ := ended
  obtain ⟨otherResult, otherLater, otherLog⟩ := otherEnded
  obtain rfl : log = otherLog := hlogs
  cases hresults with
  | ok hvalues =>
      exact .inl ⟨_, _, later, otherLater, log, hvalues, hstages, rfl, rfl⟩
  | error error => exact .inr ⟨error, later, otherLater, log, hstages, rfl, rfl⟩

/-- Every operation is blind to members. -/
theorem Lifecycle.run_blind (operation : Lifecycle) (own : String)
    (hsecret : settings.logPolicyContents = false) {state otherState : Tracked}
    (hstates : state.Alike otherState) :
    Blind Report.Alike (operation.run (Arena.controller own settings) state)
      (operation.run (Arena.controller own settings) otherState) := by
  cases operation with
  | create =>
      exact (Arena.writeThenRead_blind own hsecret hstates grant_alike).map _
  | read => exact (Arena.read_blind own hsecret hstates).map _
  | update =>
      exact (Arena.writeThenRead_blind own hsecret hstates assign_alike).map _
  | delete => exact (Arena.delete_blind own hsecret hstates).map _

theorem Step.Alike.play {step otherStep : Step} (hsteps : step.Alike otherStep)
    (hsecret : settings.logPolicyContents = false) (resource : String)
    (halike : stage.Alike other) :
    (step.play settings resource stage).Alike
      (otherStep.play settings resource other) := by
  cases hsteps with
  | define name hstates => exact ⟨rfl, halike.define name hstates, rfl⟩
  | copy source name =>
      exact ⟨rfl, halike.define name (halike.state source), rfl⟩
  | setMembers name members others =>
      have hstates := halike.state name
      exact ⟨rfl,
        halike.define name ⟨hstates.id, hstates.role, hstates.etag⟩, rfl⟩
  | run operation name =>
      obtain ⟨hreports, hstages, hlogs⟩ :=
        halike.perform
          (operation.run_blind resource hsecret (halike.state name))
      have hresult :=
        congrArg (Except.mapError Failure.operation) hreports.result
      exact ⟨hresult, hstages.define name hreports.state, hlogs⟩
  | adopt id name =>
      simp only [Step.play]
      obtain ⟨_, _, _, _, _, hstates, hstages, hfirst, hsecond⟩ |
          ⟨_, _, _, _, hstages, hfirst, hsecond⟩ :=
        halike.perform_cases (Arena.adopt_blind resource hsecret id)
      · rw [hfirst, hsecond]
        exact ⟨rfl, hstages.define name hstates, rfl⟩
      · rw [hfirst, hsecond]
        exact ⟨rfl, hstages, rfl⟩
  | retry operation name backoff =>
      simp only [Step.play]
      obtain ⟨⟨answer, _⟩, ⟨_, _⟩, _, _, _, ⟨rfl, hstates⟩, hstages,
        hfirst, hsecond⟩ |
          ⟨_, _, _, _, hstages, hfirst, hsecond⟩ :=
        halike.perform_cases (Arena.retryOnConflict_blind backoff
          (Arena.onCopy_blind
            (operation.run (Arena.controller resource settings) ·)
            (operation.run_blind resource hsecret (halike.state name))))
      · rw [hfirst, hsecond]
        exact ⟨rfl, hstages.define name hstates, rfl⟩
      · rw [hfirst, hsecond]
        exact ⟨rfl, hstages, rfl⟩
  | race hraces =>
      exact ⟨rfl, ⟨⟨halike.arena.authority, hraces⟩, halike.states⟩, rfl⟩
  | interfere hchanges =>
      have hauthorities :=
        Interference.applyAll_alike hchanges resource halike.arena.authority
      exact ⟨rfl, ⟨⟨hauthorities, halike.arena.races⟩, halike.states⟩, rfl⟩
  | describe => exact ⟨rfl, halike, rfl⟩

/-- Scenarios that differ in members at most have the same results and the same
logs, and leave stages that differ in members at most.  This covers adoptions
that are retried as well, which are nothing but adoptions. -/
theorem play_alike (hsecret : settings.logPolicyContents = false)
    {steps others : List (String × Step)}
    (hsteps : List.Forall₂
      (fun step other => step.1 = other.1 ∧ step.2.Alike other.2)
      steps others)
    (halike : stage.Alike other) :
    List.Forall₂ Outcome.Alike (play settings stage steps)
      (play settings other others) ∧
      ∀ (resource id : String) (backoff : Backoff),
        retryOnConflict backoff
          ((Arena.controller resource settings).adopt id) =
          (Arena.controller resource settings).adopt id := by
  constructor
  · induction hsteps generalizing stage other with
    | nil => exact .nil
    | @cons step otherStep rest others hhead htail ih =>
        obtain ⟨resource, step⟩ := step
        obtain ⟨_, otherStep⟩ := otherStep
        obtain ⟨rfl, hstep⟩ := hhead
        have houtcome := hstep.play hsecret resource halike
        exact .cons houtcome (ih houtcome.stage)
  · intro resource id backoff
    exact (Arena.controller resource settings).retryOnConflict_adopt backoff id

-- With policies logged in full, a single read tells the members apart.
example :
    let logs := fun member => (play { logPolicyContents := true }
      (.seeded [("projects/demo", [⟨"roles/viewer", [member]⟩])])
      [("projects/demo", .define "viewer" (.declare "roles/viewer" [])),
        ("projects/demo", .run .read "viewer")]).map (·.log)
    logs "user:a" ≠ logs "user:b" := by
  decide +kernel

def held (member : String) : Stage :=
  .seeded [("projects/demo", [⟨"roles/viewer", [member]⟩])]

/-- The role is granted again while another writer grants a second one
to the same member. -/
def crossing (member : String) : List (String × Step) :=
  [("projects/demo", .define "viewer" (.declare "roles/viewer" [member])),
    ("projects/demo",
      .race [{ after := [.write none (· ++ [⟨"roles/editor", [member]⟩])] }]),
    ("projects/demo", .retry .create "viewer" {}),
    ("projects/demo", .run .read "viewer")]

theorem play_alike_crossing :
    List.Forall₂ Outcome.Alike (play {} (held "user:a") (crossing "user:a"))
      (play {} (held "user:b") (crossing "user:b")) := by
  have hheld : (held "user:a").Alike (held "user:b") :=
    ⟨⟨(Authority.Alike.refl {}).write "projects/demo" rfl, .nil⟩, .nil⟩
  have hedits : SameOnRoles (· ++ [⟨"roles/editor", ["user:a"]⟩])
      (· ++ [⟨"roles/editor", ["user:b"]⟩]) := by
    intro bindings others hroles
    rw [rolesOf_append, rolesOf_append, hroles]
    rfl
  have hraces : List.Forall₂ Race.Alike
      [{ after := [.write none (· ++ [⟨"roles/editor", ["user:a"]⟩])] }]
      [{ after := [.write none (· ++ [⟨"roles/editor", ["user:b"]⟩])] }] :=
    .cons ⟨.nil, .cons (.write none hedits) .nil⟩ .nil
  have hcrossing : List.Forall₂
      (fun step other => step.1 = other.1 ∧ step.2.Alike other.2)
      (crossing "user:a") (crossing "user:b") :=
    .cons ⟨rfl, .define "viewer" ⟨rfl, rfl, rfl⟩⟩ (.cons ⟨rfl, .race hraces⟩
      (.cons ⟨rfl, .retry .create "viewer" {}⟩
        (.cons ⟨rfl, .run .read "viewer"⟩ .nil)))
  exact (play_alike rfl hcrossing hheld).1

end AccessPolicy.Scenario
