import AccessPolicy.Proofs.Controller.Separation
import AccessPolicy.Proofs.Scenario.Move

/-!
# Runs on different roles

When nobody else acts, calls on states of one role go as if there were no calls
on states of other roles.  A run and the run in which only the calls for one
role are made stay in step: after each of these calls both show the same of the
role, and both calls have the same result.
-/

namespace AccessPolicy.Scenario

variable {own role : String} {settings : Settings}

/-- Two stages show the same of a role: their policies say the same about it,
and its states are of the same bindings. -/
structure Stage.SameFor (own role : String) (first second : Stage) : Prop where
  policy : (first.arena.authority.policy own).SameOn role
    (second.arena.authority.policy own)
  states : ∀ name, (first.state name).role = role →
    (first.state name).SameBinding (second.state name)

def Stage.SameRoles (first second : Stage) : Prop :=
  ∀ name, (first.state name).role = (second.state name).role

namespace Stage

variable {stage first second third : Stage}

theorem SameFor.refl (own role : String) (stage : Stage) :
    stage.SameFor own role stage :=
  ⟨.refl role _, fun _ _ => .refl _⟩

theorem SameFor.trans (hfirst : first.SameFor own role second)
    (hsecond : second.SameFor own role third) :
    first.SameFor own role third where
  policy := hfirst.policy.trans hsecond.policy
  states name hrole := by
    have hsame := hfirst.states name hrole
    exact hsame.trans (hsecond.states name (hsame.role.symm.trans hrole))

/-- States of one binding may be defined on both sides. -/
theorem SameFor.define (hsame : first.SameFor own role second) (name : String)
    {state other : Tracked} (hstates : state.SameBinding other) :
    (first.define name state).SameFor own role (second.define name other) where
  policy := hsame.policy
  states known := by
    rw [state_define, state_define]
    by_cases hname : known = name
    · rw [if_pos hname, if_pos hname]
      exact fun _ => hstates
    · rw [if_neg hname, if_neg hname]
      exact hsame.states known

/-- A state of another role may be defined on one side. -/
theorem SameFor.define_besides (hsame : first.SameFor own role second)
    (name : String) {state : Tracked} (hbesides : state.role ≠ role) :
    (first.define name state).SameFor own role second where
  policy := hsame.policy
  states known := by
    rw [state_define]
    by_cases hname : known = name
    · rw [if_pos hname]
      exact fun hrole => absurd hrole hbesides
    · rw [if_neg hname]
      exact hsame.states known

/-- A state may be defined anew under the name of one with its role. -/
theorem SameRoles.define (hsame : first.SameRoles second) {name : String}
    {state : Tracked} (hrole : state.role = (second.state name).role) :
    (first.define name state).SameRoles second := by
  intro known
  rw [state_define]
  by_cases hname : known = name
  · rw [if_pos hname, hname]
    exact hrole
  · rw [if_neg hname]
    exact hsame known

def concerns (stage : Stage) (role : String) (call : Call) : Bool :=
  (stage.state call.name).role = role

def outcomes (settings : Settings) (own : String) (stage : Stage)
    (calls : List Call) : List Outcome :=
  play settings stage (calls.map fun call => (own, call.step))

theorem outcomes_cons (settings : Settings) (own : String) (stage : Stage)
    (call : Call) (rest : List Call) :
    stage.outcomes settings own (call :: rest) =
      call.step.play settings own stage ::
        (call.step.play settings own stage).stage.outcomes settings
          own rest := rfl

end Stage

/-- Of the outcomes of some calls, those of the selected calls. -/
def outcomesOf (selects : Call → Bool) (calls : List Call)
    (outcomes : List Outcome) : List Outcome :=
  ((calls.zip outcomes).filter (selects ·.1)).map (·.2)

section

variable {selects : Call → Bool} {call : Call}

theorem outcomesOf_cons_of_pos (hselects : selects call = true)
    (calls : List Call) (outcome : Outcome) (outcomes : List Outcome) :
    outcomesOf selects (call :: calls) (outcome :: outcomes) =
      outcome :: outcomesOf selects calls outcomes := by
  simp [outcomesOf, hselects]

theorem outcomesOf_cons_of_neg (hselects : ¬selects call = true)
    (calls : List Call) (outcome : Outcome) (outcomes : List Outcome) :
    outcomesOf selects (call :: calls) (outcome :: outcomes) =
      outcomesOf selects calls outcomes := by
  simp [outcomesOf, hselects]

end

namespace Call

variable {stage other : Stage}

/-- A call leaves the arena quiet and every state with its role. -/
theorem play_kept (call : Call) (settings : Settings)
    (hquiet : stage.arena.Quiet own) :
    (call.step.play settings own stage).stage.arena.Quiet own ∧
      (call.step.play settings own stage).stage.SameRoles stage := by
  cases call with
  | setMembers name members => exact ⟨hquiet, .define (fun _ => rfl) rfl⟩
  | run operation name =>
      have hkept := hquiet.run settings operation (stage.state name)
      have htouched :=
        operation.touched own settings (stage.state name) ⟨stage.arena, []⟩
      exact ⟨hkept.1, .define (fun _ => rfl) htouched.2.role⟩

/-- A call on a state of another role changes nothing that a role shows. -/
theorem play_besides (call : Call) (settings : Settings)
    (hquiet : stage.arena.Quiet own)
    (hbesides : (stage.state call.name).role ≠ role) :
    (call.step.play settings own stage).stage.SameFor own role stage := by
  cases call with
  | setMembers name members =>
      exact (Stage.SameFor.refl own role stage).define_besides name hbesides
  | run operation name =>
      have htouched :=
        operation.touched own settings (stage.state name) ⟨stage.arena, []⟩
      have hlater :=
        (hquiet.run settings operation (stage.state name)).2 role hbesides.symm
      have hsame : Stage.SameFor own role
          { stage with
            arena := ((operation.run (Arena.controller own settings)
              (stage.state name)).run ⟨stage.arena, []⟩).2.remote }
          stage := ⟨hlater, fun _ _ => .refl _⟩
      apply hsame.define_besides name
      intro hrole
      exact hbesides (htouched.2.role.symm.trans hrole)

/-- Calls on a state of a role go alike on stages that show the same of it. -/
theorem play_same (call : Call) (settings : Settings)
    (hquiet : stage.arena.Quiet own) (hother : other.arena.Quiet own)
    (hsame : stage.SameFor own role other)
    (hrole : (stage.state call.name).role = role) :
    (call.step.play settings own stage).result =
      (call.step.play settings own other).result ∧
      (call.step.play settings own stage).stage.SameFor own role
        (call.step.play settings own other).stage := by
  have hstates := hsame.states call.name hrole
  cases call with
  | setMembers name members =>
      exact ⟨rfl, hsame.define name ⟨hstates.id, hstates.role, rfl⟩⟩
  | run operation name =>
      subst hrole
      obtain ⟨hreports, hlater⟩ :=
        hquiet.run_same hother settings operation hstates hsame.policy
      refine ⟨congrArg (Except.mapError Failure.operation) hreports.result, ?_⟩
      apply Stage.SameFor.define _ name hreports.state
      exact ⟨hlater, hsame.states⟩

end Call

structure Outcome.SameFor (own role : String)
    (first second : Outcome) : Prop where
  result : first.result = second.result
  stage : first.stage.SameFor own role second.stage

/-- Stages that show the same of a role still do so after calls of which the
second one makes only those on states of this role.  Which calls these are is
decided by the roles of the states at the beginning, since these stay. -/
theorem Stage.SameFor.run {start first second : Stage}
    (hsame : first.SameFor own role second) (settings : Settings)
    (hfirst : first.arena.Quiet own) (hsecond : second.arena.Quiet own)
    (hroles : first.SameRoles start) (calls : List Call) :
    (first.after settings own (calls.map (·.step))).SameFor own role
        (second.after settings own
          ((calls.filter (start.concerns role)).map (·.step))) ∧
      List.Forall₂ (Outcome.SameFor own role)
        (outcomesOf (start.concerns role) calls
          (first.outcomes settings own calls))
        (second.outcomes settings own
          (calls.filter (start.concerns role))) := by
  induction calls generalizing first second with
  | nil => exact ⟨hsame, .nil⟩
  | cons call rest ih =>
      obtain ⟨hquiet, hkept⟩ := call.play_kept settings hfirst
      have hlater : (call.step.play settings own first).stage.SameRoles start :=
        fun name => (hkept name).trans (hroles name)
      have hcall := hroles call.name
      by_cases hrole : (start.state call.name).role = role
      · have hconcerns : start.concerns role call = true := decide_eq_true hrole
        obtain ⟨hresult, hstage⟩ :=
          call.play_same settings hfirst hsecond hsame (hcall.trans hrole)
        obtain ⟨hafter, houtcomes⟩ :=
          ih hstage hquiet (call.play_kept settings hsecond).1 hlater
        refine ⟨?_, ?_⟩
        · rw [List.filter_cons_of_pos hconcerns]
          exact hafter
        · rw [List.filter_cons_of_pos hconcerns, outcomes_cons, outcomes_cons,
            outcomesOf_cons_of_pos hconcerns]
          exact .cons ⟨hresult, hstage⟩ houtcomes
      · have hconcerns : ¬start.concerns role call = true := by
          simpa [concerns] using hrole
        have hbesides := call.play_besides settings hfirst (hcall ▸ hrole)
        obtain ⟨hafter, houtcomes⟩ :=
          ih (hbesides.trans hsame) hquiet hsecond hlater
        refine ⟨?_, ?_⟩
        · rw [List.filter_cons_of_neg hconcerns]
          exact hafter
        · rw [List.filter_cons_of_neg hconcerns, outcomes_cons,
            outcomesOf_cons_of_neg hconcerns]
          exact houtcomes

theorem Stage.sameRoles_after {stage : Stage} (hquiet : stage.arena.Quiet own)
    (settings : Settings) (calls : List Call) :
    (stage.after settings own (calls.map (·.step))).SameRoles stage := by
  induction calls generalizing stage with
  | nil => exact fun _ => rfl
  | cons call rest ih =>
      obtain ⟨hlater, hkept⟩ := call.play_kept settings hquiet
      exact fun name => (ih hlater name).trans (hkept name)

/-- Calls on states of one role do not notice the calls on states of other
roles.  On an authority that nobody disturbs, whose policy has one entry for
each role, a run can be compared with the run in which all calls on states of
other roles are left out.  Their calls have the same results, and after each of
them and in the end the same members hold the role, it has an entry in both
policies or in neither, and its states have the same identities and members.  No
state ever changes its role. -/
theorem roles_separated {stage : Stage} (hcalm : stage.arena.Calm)
    (hunique : (stage.arena.authority.policy own).hasUniqueRoles = true)
    (settings : Settings) (calls : List Call) (role : String) :
    let kept := calls.filter (stage.concerns role)
    (stage.after settings own (calls.map (·.step))).SameFor own role
      (stage.after settings own (kept.map (·.step))) ∧
    List.Forall₂ (Outcome.SameFor own role)
      (outcomesOf (stage.concerns role) calls
        (stage.outcomes settings own calls))
      (stage.outcomes settings own kept) ∧
    (stage.after settings own (calls.map (·.step))).SameRoles stage := by
  intro kept
  have hquiet : stage.arena.Quiet own :=
    ⟨hcalm, Policy.hasUniqueRoles_iff.1 hunique⟩
  obtain ⟨hafter, houtcomes⟩ :=
    (Stage.SameFor.refl own role stage).run settings hquiet hquiet
      (fun _ => rfl) calls
  exact ⟨hafter, houtcomes, Stage.sameRoles_after hquiet settings calls⟩

/-- A stage with states of two roles, both of which were granted by
others before. -/
def shared : Stage where
  arena.authority := Authority.write {} "projects/demo"
    [⟨"roles/viewer", ["user:a"]⟩, ⟨"roles/editor", ["user:b", "user:c"]⟩]
  states := [("viewer", .declare "roles/viewer" ["user:c"]),
    ("editor", .declare "roles/editor" ["user:b"])]

def crossed : List Call :=
  [.run .create "viewer", .run .update "editor",
    .setMembers "viewer" ["user:d"], .run .delete "editor",
    .run .update "viewer", .run .read "editor"]

theorem roles_separated_crossed :
    shared.arena.Calm ∧
    (shared.arena.authority.policy "projects/demo").hasUniqueRoles = true ∧
    (shared.after {} "projects/demo" (crossed.map (·.step))).SameFor
      "projects/demo" "roles/viewer" (shared.after {} "projects/demo"
        [.run .create "viewer", .setMembers "viewer" ["user:d"],
          .run .update "viewer"]) := by
  have hcalm : shared.arena.Calm := ⟨nofun, rfl, rfl, rfl⟩
  have hunique : (shared.arena.authority.policy
    "projects/demo").hasUniqueRoles = true := by
      decide +kernel
  have hkept : crossed.filter (shared.concerns "roles/viewer") =
      [.run .create "viewer", .setMembers "viewer" ["user:d"],
        .run .update "viewer"] := by
    decide +kernel
  obtain ⟨hafter, -, -⟩ :=
    roles_separated hcalm hunique {} crossed "roles/viewer"
  rw [hkept] at hafter
  exact ⟨hcalm, hunique, hafter⟩

end AccessPolicy.Scenario
