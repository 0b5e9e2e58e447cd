import AccessPolicy.Proofs.Controller.Undisturbed
import AccessPolicy.Proofs.Scenario.Edit
import AccessPolicy.Proofs.Scenario.Move
import AccessPolicy.Proofs.Watch.Observation
import AccessPolicy.Proofs.Watch.Step

/-!
# Isolation of resources

An operation through the connector of a resource leaves what is stored for every
other resource to the other writers, who act around its fetches.  A state that
is tracked on another resource does not even get a connection: nothing is
called, logged or changed.  So what is stored for a resource comes from other
writers alone, unless an operation ran on it with a state that may belong to it.
-/

namespace AccessPolicy

theorem Writing.lifecycle_ne_read (operation : Writing) :
    operation.lifecycle ≠ .read := by
  cases operation <;> nofun

namespace Interference

/-- What some interference leaves stored for a resource depends on what
was stored for it. -/
theorem stored_apply_at (own : String) {other : String}
    {first second : Authority}
    (hstored : first.stored other = second.stored other)
    (change : Interference) :
    (apply own first change).stored other =
      (apply own second change).stored other := by
  cases change with
  | write resource edit =>
      rw [apply, apply, Authority.change, Authority.change]
      by_cases htarget : other = resource.getD own
      · rw [← htarget, Authority.stored_write_self,
          Authority.stored_write_self, hstored]
      · rw [Authority.stored_write_of_ne _ _ htarget,
          Authority.stored_write_of_ne _ _ htarget, hstored]
  | failFetch | failCommit | failConnection => exact hstored

theorem stored_applyAll_at (own : String) {other : String}
    {first second : Authority}
    (hstored : first.stored other = second.stored other)
    (changes : List Interference) :
    (applyAll own first changes).stored other =
      (applyAll own second changes).stored other := by
  induction changes generalizing first second with
  | nil => exact hstored
  | cons head tail ih => exact ih (stored_apply_at own hstored head)

end Interference

def Exchange.outside : Exchange Arena → List Interference
  | .fetch before _ _ => before.coming 1
  | .commit .. => []

namespace Arena

variable {own other : String} {settings : Settings} {state : Tracked}
    {before between after : Arena}
variable {calls : List (Exchange Arena)}

theorem stored_fetch {answer : Except RemoteError Policy}
    (hfetch : (connection own).Fetches before answer after) :
    after.authority.stored =
      (Interference.applyAll own before.authority
        (before.coming 1)).stored := by
  obtain ⟨rfl, -⟩ := fetches_cases hfetch
  exact stored_served own before

/-- A commit changes no other resource than its own. -/
theorem stored_commit_of_ne {sent : Policy} {answer : Except RemoteError Unit}
    (hcommit : (connection own).Commits before sent answer after)
    (hother : other ≠ own) :
    after.authority.stored other = before.authority.stored other := by
  obtain ⟨_, -, rfl⟩ | ⟨-, rfl⟩ := commits_cases hcommit
  · rfl
  · exact Authority.stored_write_of_ne _ _ hother

/-- Exchanges in a row leave a resource to the other writers, unless one of them
is a commit to it. -/
theorem stored_chain (hchain : (connection own).Chain before calls after)
    (hspared : other ≠ own ∨ ∀ exchange ∈ calls, exchange.isCommit = false) :
    after.authority.stored other =
      (Interference.applyAll own before.authority
        (calls.flatMap (·.outside))).stored other := by
  induction hchain with
  | nil => rfl
  | @cons before between after exchange later hmade hlater ih =>
      have hrest := ih (hspared.imp_right fun hfetches exchange hexchange =>
        hfetches exchange (List.mem_cons_of_mem _ hexchange))
      rw [hrest, List.flatMap_cons, Interference.applyAll_append]
      apply Interference.stored_applyAll_at
      cases hmade with
      | fetch hfetch => exact congrFun (stored_fetch hfetch) other
      | commit hcommit =>
          obtain hother | hfetches := hspared
          · exact stored_commit_of_ne hcommit hother
          · cases hfetches _ List.mem_cons_self

/-! ## Calls -/

/-- Some calls were made in a row, with commits among them only where
writing is allowed. -/
structure CallsWithin (own : String) (writes : Prop) (before : Arena)
    (calls : List (Exchange Arena)) (after : Arena) : Prop where
  chain : (connection own).Chain before calls after
  fetches : ¬writes → ∀ exchange ∈ calls, exchange.isCommit = false

variable {writes : Prop}

theorem CallsWithin.trans {first second : List (Exchange Arena)}
    (hfirst : CallsWithin own writes before first between)
    (hsecond : CallsWithin own writes between second after) :
    CallsWithin own writes before (first ++ second) after where
  chain := hfirst.chain.append hsecond.chain
  fetches hwrites :=
    List.forall_mem_append.2 ⟨hfirst.fetches hwrites, hsecond.fetches hwrites⟩

theorem callsWithin_fetch {answer : Except RemoteError Policy}
    (hfetch : (connection own).Fetches before answer after) :
    CallsWithin own writes before [.fetch before answer after] after :=
  ⟨.cons (.fetch hfetch) .nil, by simp [Exchange.isCommit]⟩

theorem callsWithin_read {report : Report Presence}
    (hread :
      ReadProtocol (controller own settings) state before calls report after) :
    CallsWithin own writes before calls after := by
  cases hread with
  | unconnected | roleless => exact ⟨.nil, by simp⟩
  | unfetched hopens hfetch | finished hopens hfetch =>
      obtain ⟨rfl, -⟩ := opens_own hopens
      exact callsWithin_fetch hfetch

theorem callsWithin_adopt {name : String}
    {result : Except OperationError Tracked}
    (hadopt :
      AdoptProtocol (controller own settings) name before calls result after) :
    CallsWithin own writes before calls after := by
  cases hadopt with
  | unparsed => exact ⟨.nil, by simp⟩
  | parsed _ hread => exact callsWithin_read hread

/-- A write makes no call on a state that is tracked on another resource. -/
theorem callsWithin_write {operation : Scenario.Lifecycle} {writing : Writing}
    {report : Report Scenario.Answer} (hwriting : writing.lifecycle = operation)
    (hwrite : WriteProtocol (controller own settings) writing state before calls
      report after) :
    CallsWithin own (operation ≠ .read ∧ state.BelongsTo own) before
      calls after := by
  subst hwriting
  refine ⟨(write_touched hwrite).1, fun hforbidden => ?_⟩
  cases hwrite with
  | unconnected | roleless => simp
  | unfetched hopens | refused hopens | disconnected hopens | unread hopens
  | finished hopens =>
      exact absurd ⟨writing.lifecycle_ne_read, (opens_own hopens).2⟩ hforbidden

theorem callsWithin_lifecycle (operation : Scenario.Lifecycle)
    (settings : Settings) (state : Tracked) :
    Mirrors (CallsWithin own (operation ≠ .read ∧ state.BelongsTo own))
      (operation.run (controller own settings).watched state)
      (operation.run (controller own settings) state) :=
  operation.mirrors _ state callsWithin_read callsWithin_write

theorem callsWithin_retry (operation : Scenario.Lifecycle) (settings : Settings)
    (state : Tracked) (backoff : Backoff) :
    Mirrors (CallsWithin own (operation ≠ .read ∧ state.BelongsTo own))
      (retryOnConflict backoff
        (onCopy (operation.run (controller own settings).watched ·) state)).run
      (retryOnConflict backoff
        (onCopy (operation.run (controller own settings) ·) state)).run :=
  operation.mirrors_retry _ state backoff callsWithin_read callsWithin_write
    CallsWithin.trans

/-- Behind a commit nothing more is done to the authority. -/
theorem remote_commitPolicy_then {ρ α : Type} (connection : Connection ρ)
    (sent : Policy) (output : α) (world : World ρ) :
    ((do
      commitPolicy connection sent
      pure output : Action ρ α).run world).2.remote =
  (connection.commit sent world).2.remote := by
  rw [Action.run_bind, run_commitPolicy]
  rcases connection.commit sent world with ⟨cause | ⟨⟩, later⟩
  · rfl
  · rfl

/-- A cycle with a change made of edits leaves every other resource to the other
writers, around its fetch and in the middle of its change. -/
theorem stored_cycle (own : String) (settings : Settings)
    (edits : List PolicyEdit) (world : World Arena) (hother : other ≠ own) :
    ((readModifyWrite (connection own) settings
        (PolicyEdit.applyAll own edits)).run
      world).2.remote.authority.stored other =
      (Interference.applyAll own world.remote.authority
        (world.remote.coming 1 ++
          match (world.remote.fetch own).1 with
          | .error _ => []
          | .ok policy =>
            PolicyEdit.disturbances policy edits)).stored other := by
  have hserved : (world.remote.served own).authority.stored other = _ :=
    congrFun (stored_served own world.remote) other
  have hconnection : (connection own).fetch world =
      ((world.remote.fetch own).1,
        { world with remote := (world.remote.fetch own).2 }) := rfl
  rw [run_readModifyWrite, hconnection, Interference.applyAll_append]
  obtain ⟨failure, -, hfetch⟩ | ⟨-, hfetch⟩ := fetch_cases own world.remote
  · rw [hfetch]
    exact hserved
  · have hdisturbed := Interference.stored_applyAll_at own hserved
      (PolicyEdit.disturbances ((world.remote.reached own).policy own) edits)
    simp only [hfetch, changeAndCommit]
    rw [Action.run_bind, PolicyEdit.run_applyAll]
    cases PolicyEdit.outcomeAll edits
      ((world.remote.reached own).policy own) with
    | error error => exact hdisturbed
    | ok changed =>
        simp only [Except.map, remote_commitPolicy_then]
        exact (stored_commit_of_ne ⟨_, _, rfl⟩ hother).trans hdisturbed

section

variable {id : BindingId}

/-- No connection is made for a state that is tracked on another resource. -/
theorem opening_foreign (settings : Settings) (hid : state.id = some id)
    (hforeign : id.resource ≠ own) (arena : Arena) :
    ∃ cause, (controller own settings).opening state arena =
      .error (.construction cause) := by
  simp only [Controller.opening, controller, connector, Authority.reach, hid]
  cases arena.authority.connectionFailure with
  | none =>
      simp only [if_neg hforeign]
      exact ⟨_, rfl⟩
  | some failure => exact ⟨failure, rfl⟩

/-- An operation on such a state fails, and nothing happens. -/
theorem lifecycle_foreign (operation : Scenario.Lifecycle) (settings : Settings)
    (hid : state.id = some id) (hforeign : id.resource ≠ own)
    (world : World Arena) :
    ∃ cause, (operation.run (controller own settings) state).run world =
      (⟨.error (.construction cause), state⟩, world) := by
  obtain ⟨cause, hopening⟩ := opening_foreign settings hid hforeign world.remote
  exact ⟨cause, (controller own settings).run_unopened operation hopening⟩

/-- Its failure is no conflict, so it is not run again. -/
theorem retry_foreign (operation : Scenario.Lifecycle) (settings : Settings)
    (backoff : Backoff) (hid : state.id = some id)
    (hforeign : id.resource ≠ own) (world : World Arena) :
    ∃ cause, (retryOnConflict backoff
        (onCopy (operation.run (controller own settings) ·) state)).run world =
      (.error (.construction cause), world) := by
  have hattempt : ∀ world, ∃ cause,
      (onCopy (operation.run (controller own settings) ·) state).run world =
        (.error (.construction cause), world) := by
    intro world
    obtain ⟨cause, hrun⟩ :=
      lifecycle_foreign operation settings hid hforeign world
    refine ⟨cause, ?_⟩
    rw [run_onCopy, hrun]
    rfl
  rw [retryOnConflict_of_not_retried]
  · exact hattempt world
  · intro world
    obtain ⟨cause, hrun⟩ := hattempt world
    rw [hrun]
    rfl

/-- A binding of another resource is not adopted. -/
theorem adopt_foreign (settings : Settings) {name : String}
    (hparse : BindingId.parse name = .ok id) (hforeign : id.resource ≠ own)
    (world : World Arena) :
    ∃ cause, ((controller own settings).adopt name).run world =
      (.error (.construction cause), world) := by
  have hid : (Tracked.ofId id).id = some id := rfl
  obtain ⟨cause, hopening⟩ := opening_foreign settings hid hforeign world.remote
  refine ⟨cause, ?_⟩
  rw [Controller.run_adopt, hparse]
  simp only [Controller.run_read, Controller.run_lookUp, hopening]

end

end Arena

namespace Scenario

variable {own other : String} {settings : Settings} {stage : Stage}

/-- Whether a step may write to its resource.  An operation may if it changes
policies at all, and if its state is not tracked on another resource. -/
def Step.MayWrite (own : String) (stage : Stage) : Step → Prop
  | run operation name | retry operation name _ =>
    operation ≠ .read ∧ (stage.state name).BelongsTo own
  | cycle _ | rawCommit _ => True
  | _ => False

/-- What other writers do in the course of a step. -/
def Step.outside (settings : Settings) (own : String) (stage : Stage)
    (step : Step) : List Interference :=
  match step with
  | interfere changes => changes
  | cycle edits =>
    stage.arena.coming 1 ++
      match (stage.arena.fetch own).1 with
      | .error _ => []
      | .ok policy => PolicyEdit.disturbances policy edits
  | _ => (step.calls settings own stage).flatMap (·.outside)

/-- A step leaves a resource to the other writers, unless it may write to it. -/
theorem Step.stored_play (step : Step) (settings : Settings)
    (hspared : other ≠ own ∨ ¬step.MayWrite own stage) :
    (step.play settings own stage).stage.arena.authority.stored other =
      (Interference.applyAll own stage.arena.authority
        (step.outside settings own stage)).stored other := by
  cases step with
  | define | copy | setMembers | plan | race | describe | interfere => rfl
  | run operation name =>
      obtain ⟨hchain, hfetches⟩ :=
        (Arena.callsWithin_lifecycle operation settings
          (stage.state name)).callsOf
          ⟨stage.arena, []⟩
      exact Arena.stored_chain hchain (hspared.imp_right hfetches)
  | adopt id name =>
      have hmirrors : Mirrors (Arena.CallsWithin own False) _ _ :=
        Mirrors.adopt (Arena.controller own settings) id Arena.callsWithin_adopt
      obtain ⟨hchain, hfetches⟩ := hmirrors.callsOf ⟨stage.arena, []⟩
      rw [arena_adopt]
      exact Arena.stored_chain hchain (.inr (hfetches not_false))
  | retry operation name backoff =>
      obtain ⟨hchain, hfetches⟩ :=
        (Arena.callsWithin_retry operation settings
          (stage.state name) backoff).callsOf
          ⟨stage.arena, []⟩
      rw [arena_retry]
      exact Arena.stored_chain hchain (hspared.imp_right hfetches)
  | cycle edits =>
      have hother : other ≠ own := hspared.resolve_right (not_not_intro trivial)
      exact Arena.stored_cycle own settings edits ⟨stage.arena, []⟩ hother
  | rawCommit policy =>
      have hother : other ≠ own := hspared.resolve_right (not_not_intro trivial)
      exact Arena.stored_commit_of_ne ⟨_, _, rfl⟩ hother
  | fetchPolicy =>
      have hmirrors : Mirrors (Arena.CallsWithin own False) _ _ :=
        Mirrors.fetchPolicy (Arena.connection own) settings
          Arena.callsWithin_fetch
      obtain ⟨hchain, hfetches⟩ := hmirrors.callsOf ⟨stage.arena, []⟩
      exact Arena.stored_chain hchain (.inr (hfetches not_false))
  | rawFetch =>
      simp only [play, Authority.fetch]
      cases stage.arena.authority.fetchFailure <;> rfl

/-! ## Runs over several resources -/

def Stage.afterAll (settings : Settings) (stage : Stage)
    (steps : List (String × Step)) : Stage :=
  steps.foldl (fun stage (resource, step) =>
    (step.play settings resource stage).stage) stage

/-- No step may write to a resource when it is made. -/
def Stage.NoneMayWrite (settings : Settings) (other : String) :
    Stage → List (String × Step) → Prop
  | _, [] => True
  | stage, (resource, step) :: rest =>
    (other = resource → ¬step.MayWrite resource stage) ∧
      NoneMayWrite settings other (step.play settings resource stage).stage rest

def Stage.outside (settings : Settings) : Stage → List (String × Step) →
    List (String × Interference)
  | _, [] => []
  | stage, (resource, step) :: rest =>
    (step.outside settings resource stage).map (resource, ·) ++
      outside settings (step.play settings resource stage).stage rest

/-- What other writers alone make of an authority. -/
def disturb (authority : Authority)
    (changes : List (String × Interference)) : Authority :=
  changes.foldl (fun authority (resource, change) =>
    change.apply resource authority) authority

theorem disturb_append (authority : Authority)
    (first second : List (String × Interference)) :
    disturb authority (first ++ second) =
      disturb (disturb authority first) second :=
  List.foldl_append

theorem disturb_map (resource : String) (authority : Authority)
    (changes : List Interference) :
    disturb authority (changes.map (resource, ·)) =
      Interference.applyAll resource authority changes :=
  List.foldl_map

theorem stored_disturb_at {first second : Authority}
    (hstored : first.stored other = second.stored other)
    (changes : List (String × Interference)) :
    (disturb first changes).stored other =
      (disturb second changes).stored other := by
  induction changes generalizing first second with
  | nil => exact hstored
  | cons head tail ih =>
      exact ih (Interference.stored_apply_at head.1 hstored head.2)

/-- Steps leave a resource to the other writers, if none of them may
write to it. -/
theorem Stage.stored_afterAll (steps : List (String × Step))
    (hnone : stage.NoneMayWrite settings other steps) :
    (stage.afterAll settings steps).arena.authority.stored other =
      (disturb stage.arena.authority (stage.outside settings steps)).stored
        other := by
  induction steps generalizing stage with
  | nil => rfl
  | cons head rest ih =>
      obtain ⟨resource, step⟩ := head
      have hspared : other ≠ resource ∨ ¬step.MayWrite resource stage :=
        Decidable.or_iff_not_imp_left.2 fun hsame =>
          hnone.1 (Decidable.not_not.1 hsame)
      have hstep := step.stored_play settings hspared
      have hrest := ih hnone.2
      rw [outside, disturb_append, disturb_map]
      exact hrest.trans (stored_disturb_at hstep _)

/-- Resources are isolated from each other.  Every step through the connector of
one resource leaves what is stored for the others to the other writers.  An
operation, repeated or not, on a state that is tracked on another resource ends
for want of a connection and changes nothing in the world: no request is made,
no armed failure is used up, nothing is logged and the state stays; so does an
adoption of another resource's binding.  Over a whole run, then, what is stored
for a resource comes from other writers alone if no step may write to it: a
state that is tracked elsewhere never causes a write. -/
theorem resources_isolated (settings : Settings) :
    (∀ (own other : String) (stage : Stage) (step : Step), other ≠ own →
      (step.play settings own stage).stage.arena.authority.stored other =
        (Interference.applyAll own stage.arena.authority
          (step.outside settings own stage)).stored other) ∧
    (∀ (own : String) (id : BindingId) (world : World Arena),
      id.resource ≠ own →
      let controller := Arena.controller own settings
      (∀ (operation : Lifecycle) (state : Tracked), state.id = some id →
        (∃ cause, (operation.run controller state).run world =
          (⟨.error (.construction cause), state⟩, world)) ∧
        ∀ backoff, ∃ cause,
          (retryOnConflict backoff
            (onCopy (operation.run controller ·) state)).run world =
            (.error (.construction cause), world)) ∧
      ∀ name, BindingId.parse name = .ok id →
        ∃ cause, (controller.adopt name).run world =
          (.error (.construction cause), world)) ∧
    ∀ (other : String) (stage : Stage) (steps : List (String × Step)),
      stage.NoneMayWrite settings other steps →
        (stage.afterAll settings steps).arena.authority.stored other =
          (disturb stage.arena.authority (stage.outside settings steps)).stored
            other := by
  refine ⟨?frame, ?foreign, ?run⟩
  case frame =>
    intro own other stage step hother
    exact step.stored_play settings (.inl hother)
  case foreign =>
    intro own id world hforeign controller
    refine ⟨fun operation state hid =>
      ⟨?single, fun backoff => ?repeated⟩, fun name hparse => ?_⟩
    case single =>
      exact Arena.lifecycle_foreign operation settings hid hforeign world
    case repeated =>
      exact Arena.retry_foreign operation settings backoff hid hforeign world
    exact Arena.adopt_foreign settings hparse hforeign world
  case run =>
    intro other stage steps hnone
    exact stage.stored_afterAll steps hnone

def neighbours : Stage :=
  .seeded [("projects/demo", [⟨"roles/viewer", ["user:a"]⟩]),
    ("projects/other", [])]

/-- A binding of one resource is updated amid writes to both, and then its state
is used on the other. -/
def strayed : List (String × Step) :=
  [("projects/demo", .define "viewer" (.declare "roles/viewer" ["user:b"])),
    ("projects/demo", .race
      [{ after := [.write (some "projects/other") (⟨"roles/owner", []⟩ :: ·),
        .failCommit (.transport "gone")] }]),
    ("projects/demo", .run .update "viewer"),
    ("projects/demo", .retry .update "viewer" {}),
    ("projects/other", .retry .delete "viewer" {})]

theorem resources_isolated_strayed :
    let later := neighbours.afterAll {} (strayed.take 4)
    (later.state "viewer").id = some ⟨"projects/demo", "roles/viewer"⟩ ∧
      (∃ cause, (Lifecycle.delete.run (Arena.controller "projects/other" {})
          (later.state "viewer")).run ⟨later.arena, []⟩ =
        (⟨.error (.construction cause), later.state "viewer"⟩,
          ⟨later.arena, []⟩)) ∧
      (neighbours.afterAll {} strayed).arena.authority.stored "projects/other" =
        (disturb neighbours.arena.authority
          (neighbours.outside {} strayed)).stored
          "projects/other" := by
  intro later
  have hid : (later.state "viewer").id =
      some ⟨"projects/demo", "roles/viewer"⟩ := by
    decide +kernel
  have hforeign : "projects/demo" ≠ "projects/other" := by decide
  have hnone : neighbours.NoneMayWrite {} "projects/other" strayed :=
    ⟨nofun, nofun, nofun, nofun, fun _ hwrites =>
      hforeign (hwrites.2 _ hid), trivial⟩
  obtain ⟨-, hstays, hrun⟩ := resources_isolated {}
  exact ⟨hid, ((hstays "projects/other" _ _ hforeign).1 .delete _ hid).1,
    hrun "projects/other" neighbours strayed hnone⟩

end Scenario

end AccessPolicy
