import AccessPolicy.Proofs.Controller.Separation
import AccessPolicy.Proofs.Scenario.Move
import AccessPolicy.Proofs.Watch.Observation
import AccessPolicy.Proofs.Watch.Step

/-!
# Unique roles in the course of a scenario

An operation commits what it makes of the policy that it fetched, and what it
makes of a policy with unique roles has unique roles.  So once the stored policy
has unique roles, only another writer can take this from it.  Which writes of
others fall into a step is told by its exchanges: those around its fetches, at
the points where they are made.
-/

namespace AccessPolicy

def Authority.UniqueRoles (authority : Authority) (own : String) : Prop :=
  (authority.policy own).hasUniqueRoles = true

instance (authority : Authority) (own : String) :
    Decidable (authority.UniqueRoles own) :=
  inferInstanceAs (Decidable (_ = true))

theorem Authority.uniqueRoles_iff {authority : Authority} {own : String} :
    authority.UniqueRoles own ↔
      (rolesOf (authority.stored own).bindings).Nodup :=
  Policy.hasUniqueRoles_iff

theorem Authority.uniqueRoles_write (authority : Authority) (own : String)
    {bindings : List Binding} (hnodup : (rolesOf bindings).Nodup) :
    (authority.write own bindings).UniqueRoles own := by
  rw [uniqueRoles_iff, stored_write_self]
  exact hnodup

/-- Whatever others do to an authority, one thing after another, the policy of a
resource keeps unique roles if it has them. -/
def Interference.KeepUnique (own : String) :
    Authority → List Interference → Prop
  | _, [] => True
  | authority, change :: rest =>
    (authority.UniqueRoles own → (apply own authority change).UniqueRoles own) ∧
      KeepUnique own (apply own authority change) rest

/-- The others around a fetch keep roles unique.  Nobody comes between a
commit and its answer. -/
def Exchange.OthersKeepUnique (own : String) : Exchange Arena → Prop
  | .fetch before _ _ =>
    Interference.KeepUnique own before.authority
      (before.races.headD {}).before ∧
      Interference.KeepUnique own (before.reached own).fetched
        (before.races.headD {}).after
  | .commit .. => True

instance Interference.decidableKeepUnique (own : String) :
    ∀ authority changes, Decidable (KeepUnique own authority changes)
  | _, [] => isTrue trivial
  | authority, change :: rest =>
    have := decidableKeepUnique own (apply own authority change) rest
    inferInstanceAs (Decidable (_ ∧ _))

instance (own : String) : DecidablePred (Exchange.OthersKeepUnique own)
  | .fetch .. => inferInstanceAs (Decidable (_ ∧ _))
  | .commit .. => isTrue trivial

theorem Interference.uniqueRoles_applyAll {own : String} {authority : Authority}
    {changes : List Interference} (hkeep : KeepUnique own authority changes)
    (hunique : authority.UniqueRoles own) :
    (applyAll own authority changes).UniqueRoles own := by
  induction changes generalizing authority with
  | nil => exact hunique
  | cons change rest ih => exact ih hkeep.2 (hkeep.1 hunique)

theorem Writing.nodup_rolesOf_edit (operation : Writing)
    (declaration : Declaration) {bindings : List Binding}
    (hnodup : (rolesOf bindings).Nodup) :
    (rolesOf (operation.edit declaration bindings)).Nodup := by
  have hedit : operation.edit declaration bindings =
      operation.lifecycle.edit declaration bindings := by
    cases operation <;> rfl
  rw [hedit]
  exact Policy.nodup_rolesOf_edit operation.lifecycle declaration hnodup

namespace Arena

variable {own : String} {settings : Settings} {state : Tracked}
    {before between after : Arena}
variable {calls : List (Exchange Arena)}

/-- A fetch brings a policy with unique roles, and leaves one. -/
theorem uniqueRoles_fetch {answer : Except RemoteError Policy}
    (hfetch : (connection own).Fetches before answer after)
    (hkeep : (Exchange.fetch before answer after).OthersKeepUnique own)
    (hunique : before.authority.UniqueRoles own) :
    after.authority.UniqueRoles own ∧
      ∀ policy, answer = .ok policy → (rolesOf policy.bindings).Nodup := by
  obtain ⟨hbefore, hafter⟩ := hkeep
  have hreached : (before.reached own).UniqueRoles own :=
    Interference.uniqueRoles_applyAll hbefore hunique
  obtain ⟨rfl, hanswer⟩ := fetches_cases hfetch
  refine ⟨Interference.uniqueRoles_applyAll hafter hreached, ?_⟩
  rintro policy rfl
  obtain ⟨cause, herror⟩ | hoffered := hanswer
  · cases herror
  · obtain rfl := Except.ok.inj hoffered
    exact Authority.uniqueRoles_iff.1 hreached

/-- A commit of a policy with unique roles leaves one, whether it is
accepted or not. -/
theorem uniqueRoles_commit {sent : Policy} {answer : Except RemoteError Unit}
    (hcommit : (connection own).Commits before sent answer after)
    (hsent : (rolesOf sent.bindings).Nodup)
    (hunique : before.authority.UniqueRoles own) :
    after.authority.UniqueRoles own := by
  obtain ⟨_, -, rfl⟩ | ⟨-, rfl⟩ := commits_cases hcommit
  · exact hunique
  · exact before.authority.committed.uniqueRoles_write own hsent

/-- What an operation sends back has unique roles if what it fetched has. -/
theorem uniqueRoles_sends {operation : Writing} {policy sent : Policy}
    {answer : Except RemoteError Unit}
    (hsends : operation.Sends state
      (connection own) before policy between sent answer after)
    (hkeep : (Exchange.fetch before (.ok policy) between).OthersKeepUnique own)
    (hunique : before.authority.UniqueRoles own) :
    after.authority.UniqueRoles own := by
  obtain ⟨hbetween, hfetched⟩ := uniqueRoles_fetch hsends.fetch hkeep hunique
  have hsent : sent =
      ⟨policy.etag,
        operation.edit ⟨state.role, state.members⟩ policy.bindings⟩ := by
    have hchanged := hsends.changed
    rw [operation.changed_eq_ok] at hchanged
    exact (Except.ok.inj hchanged).symm
  apply uniqueRoles_commit hsends.commit _ hbetween
  rw [hsent]
  exact operation.nodup_rolesOf_edit _ (hfetched policy rfl)

/-- In the course of some calls roles stay unique if the others see to it. -/
def KeepsUnique (own : String) (before : Arena) (calls : List (Exchange Arena))
    (after : Arena) : Prop :=
  (∀ exchange ∈ calls, exchange.OthersKeepUnique own) →
    before.authority.UniqueRoles own →
    after.authority.UniqueRoles own

theorem KeepsUnique.trans {first second : List (Exchange Arena)}
    (hfirst : KeepsUnique own before first between)
    (hsecond : KeepsUnique own between second after) :
    KeepsUnique own before (first ++ second) after := by
  intro hkeep hunique
  apply hsecond fun exchange hexchange =>
    hkeep exchange (List.mem_append_right _ hexchange)
  exact hfirst (fun exchange hexchange =>
    hkeep exchange (List.mem_append_left _ hexchange)) hunique

theorem keepsUnique_read {report : Report Presence}
    (hread :
      ReadProtocol (controller own settings) state before calls report after) :
    KeepsUnique own before calls after := by
  intro hkeep hunique
  cases hread with
  | unconnected | roleless => exact hunique
  | unfetched hopens hfetch | finished hopens hfetch =>
      obtain ⟨rfl, -⟩ := opens_own hopens
      exact (uniqueRoles_fetch hfetch (hkeep _ List.mem_cons_self) hunique).1

theorem keepsUnique_fetch {answer : Except RemoteError Policy}
    (hfetch : (connection own).Fetches before answer after) :
    KeepsUnique own before [.fetch before answer after] after := by
  intro hkeep hunique
  exact (uniqueRoles_fetch hfetch (hkeep _ List.mem_cons_self) hunique).1

theorem keepsUnique_adopt {name : String}
    {result : Except OperationError Tracked}
    (hadopt :
      AdoptProtocol (controller own settings) name before calls result after) :
    KeepsUnique own before calls after := by
  cases hadopt with
  | unparsed => exact fun _ hunique => hunique
  | parsed _ hread => exact keepsUnique_read hread

theorem keepsUnique_write {operation : Writing}
    {report : Report Scenario.Answer}
    (hwrite : WriteProtocol (controller own settings) operation state before
      calls report after) :
    KeepsUnique own before calls after := by
  intro hkeep hunique
  cases hwrite with
  | unconnected | roleless => exact hunique
  | unfetched hopens hfetch =>
      obtain ⟨rfl, -⟩ := opens_own hopens
      exact (uniqueRoles_fetch hfetch (hkeep _ List.mem_cons_self) hunique).1
  | refused hopens hsends | disconnected hopens hsends =>
      obtain ⟨rfl, -⟩ := opens_own hopens
      exact uniqueRoles_sends hsends (hkeep _ List.mem_cons_self) hunique
  | unread hopens hsends hcloses hfetch
  | finished hopens hsends hcloses hfetch =>
      obtain ⟨rfl, -⟩ := opens_own hopens
      obtain ⟨rfl, -⟩ := opens_own hcloses
      have hcommitted :=
        uniqueRoles_sends hsends (hkeep _ List.mem_cons_self) hunique
      exact (uniqueRoles_fetch hfetch (hkeep _ (by simp)) hcommitted).1

end Arena

/-! ## Steps -/

namespace Scenario

variable {own : String} {settings : Settings} {stage : Stage}

/-- Other writers keep the roles of a resource unique in the course of a step.
A commit that is not an operation's own, but made by a change of one's own or
sent to the authority itself, counts as theirs. -/
def Step.OthersKeepUnique (settings : Settings) (own : String) (stage : Stage)
    (step : Step) : Prop :=
  match step with
  | interfere changes =>
    Interference.KeepUnique own stage.arena.authority changes
  | cycle _ | rawCommit _ =>
    stage.arena.authority.UniqueRoles own →
      (step.play settings own stage).stage.arena.authority.UniqueRoles own
  | _ =>
    ∀ exchange ∈ step.calls settings own stage, exchange.OthersKeepUnique own

def Stage.OthersKeepUnique (settings : Settings) (own : String) :
    Stage → List Step → Prop
  | _, [] => True
  | stage, step :: rest =>
    step.OthersKeepUnique settings own stage ∧
      OthersKeepUnique settings own (step.play settings own stage).stage rest

instance (settings : Settings) (own : String) (stage : Stage) :
    DecidablePred (Step.OthersKeepUnique settings own stage)
  | .interfere _ => Interference.decidableKeepUnique own _ _
  | .cycle _ | .rawCommit _ => inferInstanceAs (Decidable (_ → _))
  | .define .. | .copy .. | .setMembers .. | .run .. | .adopt .. | .plan .. |
      .retry .. | .race _
  | .fetchPolicy | .rawFetch | .describe => List.decidableBAll _ _

instance Stage.decidableOthersKeepUnique (settings : Settings) (own : String) :
    ∀ stage steps, Decidable (OthersKeepUnique settings own stage steps)
  | _, [] => isTrue trivial
  | stage, step :: rest =>
    have := decidableOthersKeepUnique settings own
      (step.play settings own stage).stage rest
    inferInstanceAs (Decidable (_ ∧ _))

/-- No operation gives a role a second entry. -/
theorem Step.uniqueRoles_play (step : Step)
    (hkeep : step.OthersKeepUnique settings own stage)
    (hunique : stage.arena.authority.UniqueRoles own) :
    (step.play settings own stage).stage.arena.authority.UniqueRoles own := by
  cases step with
  | define | copy | setMembers | plan | race | describe => exact hunique
  | run operation name =>
      have hmirrors := operation.mirrors (Arena.controller own settings)
        (stage.state name)
        Arena.keepsUnique_read fun _ => Arena.keepsUnique_write
      exact hmirrors.callsOf ⟨stage.arena, []⟩ hkeep hunique
  | adopt id name =>
      rw [arena_adopt]
      exact (Mirrors.adopt _ id Arena.keepsUnique_adopt).callsOf
        ⟨stage.arena, []⟩ hkeep hunique
  | retry operation name backoff =>
      have hmirrors := operation.mirrors_retry (Arena.controller own settings)
        (stage.state name) backoff Arena.keepsUnique_read
          (fun _ => Arena.keepsUnique_write)
        Arena.KeepsUnique.trans
      rw [arena_retry]
      exact hmirrors.callsOf ⟨stage.arena, []⟩ hkeep hunique
  | interfere changes => exact Interference.uniqueRoles_applyAll hkeep hunique
  | cycle | rawCommit => exact hkeep hunique
  | fetchPolicy =>
      have hmirrors : Mirrors (Arena.KeepsUnique own) _ _ :=
        Mirrors.fetchPolicy (Arena.connection own) settings
          Arena.keepsUnique_fetch
      exact hmirrors.callsOf ⟨stage.arena, []⟩ hkeep hunique
  | rawFetch =>
      simp only [play, Authority.fetch]
      cases stage.arena.authority.fetchFailure <;> exact hunique

theorem Stage.uniqueRoles_play (steps : List Step)
    (hkeep : stage.OthersKeepUnique settings own steps)
    (hunique : stage.arena.authority.UniqueRoles own) :
    ∀ outcome ∈ play settings stage (steps.map (own, ·)),
      outcome.stage.arena.authority.UniqueRoles own := by
  induction steps generalizing stage with
  | nil => simp [play]
  | cons step rest ih =>
      have hstep := step.uniqueRoles_play hkeep.1 hunique
      exact List.forall_mem_cons.2 ⟨hstep, ih hkeep.2 hstep⟩

/-- Which policies have unique roles.  A creation gives every policy unique
roles, and no entry of the result repeats a member.  An update and a deletion
see to their own role: behind them it has one entry and none, and the roles are
unique exactly if the other entries were for distinct roles.  So once the stored
policy of a resource has unique roles, it has them after every step, with any
races, failures and conflicts, as long as the other writers keep them unique. -/
theorem roles_stay_unique :
    (∀ (policy : Policy) (declaration : Declaration),
      (∃ granted, Policy.grant declaration policy = .ok ((), granted) ∧
        granted.hasUniqueRoles = true ∧
          ∀ entry ∈ granted.bindings, entry.members.Nodup) ∧
      (∃ assigned, Policy.assign declaration policy = .ok ((), assigned) ∧
        assigned.roleCount declaration.role = 1 ∧
        (assigned.hasUniqueRoles = true ↔
          policy.DistinctBesides declaration.role)) ∧
      ∃ entries revoked,
        Policy.revoke declaration.role policy = .ok (entries, revoked) ∧
        revoked.roleCount declaration.role = 0 ∧
        (revoked.hasUniqueRoles = true ↔
          policy.DistinctBesides declaration.role)) ∧
    ∀ (settings : Settings) (own : String) (stage : Stage) (steps : List Step),
      stage.arena.authority.UniqueRoles own →
        stage.OthersKeepUnique settings own steps →
        ∀ outcome ∈ play settings stage (steps.map (own, ·)),
          outcome.stage.arena.authority.UniqueRoles own := by
  refine ⟨fun policy declaration => ⟨?granting, ?assigning, ?revoking⟩, ?steps⟩
  case granting => exact Policy.grant_unique declaration policy
  case assigning => exact Policy.assign_unique declaration policy
  case revoking => exact Policy.revoke_unique declaration.role policy
  case steps =>
    intro settings own stage steps hunique hkeep
    exact stage.uniqueRoles_play steps hkeep hunique

def viewed : Stage :=
  .seeded [("projects/demo", [⟨"roles/viewer", ["user:b"]⟩])]

/-- A creation loses against another writer and is made again, an update is cut
off, and a deletion goes through. -/
def contest : List Step :=
  [.define "viewer" (.declare "roles/viewer" ["user:a"]),
    .race [{ after := [.write none (⟨"roles/owner", ["user:o"]⟩ :: ·)] }],
    .retry .create "viewer" {},
    .race [{ before := [.failCommit (.permissionDenied "quota")] }],
    .run .update "viewer",
    .run .delete "viewer"]

theorem roles_stay_unique_contest :
    viewed.OthersKeepUnique {} "projects/demo" contest ∧
      ∀ outcome ∈ play {} viewed (contest.map ("projects/demo", ·)),
        outcome.stage.arena.authority.UniqueRoles "projects/demo" := by
  have hkeep : viewed.OthersKeepUnique {} "projects/demo" contest := by
    decide +kernel
  exact ⟨hkeep, roles_stay_unique.2 {} "projects/demo" viewed contest
    (by decide +kernel) hkeep⟩

end Scenario

end AccessPolicy
