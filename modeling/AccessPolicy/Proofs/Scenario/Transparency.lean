import AccessPolicy.Proofs.Codec
import AccessPolicy.Proofs.Logging.Operation
import AccessPolicy.Proofs.Scenario.Edit
import AccessPolicy.Proofs.Scenario.Move

/-!
# Scenarios with and without full logging

A scenario that is played with policies logged in full goes as it does without,
step by step.  The logs differ in the contents of policies alone, and with full
logging these are just the policies that were fetched, each one behind the
report of its fetch.
-/

namespace AccessPolicy

namespace Arena

theorem discreet_connection (own : String) : (connection own).Discreet where
  fetch := .of_silent fun _ _ => rfl
  commit := by
    intro policy arena
    cases hcommit : (arena.authority.commit own policy).1 with
    | ok committed =>
        let authority := (arena.authority.commit own policy).2
        refine ⟨.ok committed, { arena with authority },
          [.stored own (authority.policy own).etag], .singleton rfl, ?_⟩
        intro log
        simp only [connection, hcommit]
        rfl
    | error cause =>
        refine ⟨.error cause,
          { arena with authority := (arena.authority.commit own policy).2 },
          [], .nil, ?_⟩
        intro log
        simp only [connection, hcommit]

theorem discreet_controller (own : String) (settings : Settings) :
    (controller own settings).Discreet := by
  intro state arena target hconnect
  obtain ⟨-, -, rfl⟩ := connect_eq_ok_iff.1 hconnect
  exact discreet_connection own

end Arena

theorem PolicyEdit.discreet_applyAll (own : String) (edits : List PolicyEdit)
    (policy : Policy) : Discreet (applyAll own edits policy).run := by
  apply Discreet.of_silent
  intro arena log
  rw [run_applyAll, run_applyAll]
  rfl

namespace Scenario

variable {α : Type}

/-- An outcome that differs from another one in that no policy is shown
in the log. -/
structure Outcome.Hushes (told hushed : Outcome) : Prop where
  result : hushed.result = told.result
  stage : hushed.stage = told.stage
  log : hushed.log = told.log.filter fun event => !event.isContents

theorem Stage.perform_transparent {watched : StateM (World (Watched Arena)) α}
    {run : Bool → StateM (World Arena) α}
    (htransparent : Transparent watched run) (stage : Stage) :
    ∃ value arena events,
      stage.perform (run true) = (value, { stage with arena }, events) ∧
      stage.perform (run false) =
        (value, { stage with arena }, events.filter fun event =>
          !event.isContents) ∧
      Told (fetched (callsOf watched ⟨stage.arena, []⟩)) events := by
  obtain ⟨value, arena, events, hrun, hwatched⟩ := htransparent stage.arena
  obtain ⟨calls, htold, hended⟩ := hwatched [] []
  refine ⟨value, arena, events, ?_, ?_, ?_⟩
  · rw [Stage.perform, hrun true]
    rfl
  · rw [Stage.perform, hrun false]
    rfl
  · rw [callsOf, World.watched, hended]
    exact htold

/-- A step logs its fetches as it should with full logging, and does the
same without it. -/
theorem Step.transparent (step : Step) (settings : Settings) (own : String)
    (stage : Stage) :
    (step.play (settings.telling true) own stage).Hushes
        (step.play (settings.telling false) own stage) ∧
      Told (fetched (step.calls (settings.telling true) own stage))
        (step.play (settings.telling true) own stage).log := by
  have hcontroller := Arena.discreet_controller own settings
  have hconnection := Arena.discreet_connection own
  cases step with
  | define | copy | setMembers | plan | race | interfere | rawFetch
  | describe =>
      exact ⟨⟨rfl, rfl, rfl⟩, .nothing⟩
  | run operation name =>
      have htransparent : Transparent
          (operation.run (Arena.controller own (settings.telling true)).watched
            (stage.state name))
          fun full =>
            operation.run (Arena.controller own (settings.telling full))
              (stage.state name) :=
        .lifecycle hcontroller operation (stage.state name)
      obtain ⟨report, arena, events, htelling, hhushed, htold⟩ :=
        stage.perform_transparent htransparent
      simp only [Step.play, htelling, hhushed]
      exact ⟨⟨rfl, rfl, rfl⟩, htold⟩
  | adopt id name =>
      have htransparent : Transparent
          ((Arena.controller own (settings.telling true)).watched.adopt id).run
          fun full =>
            ((Arena.controller own (settings.telling full)).adopt id).run :=
        .adopt hcontroller id
      obtain ⟨result, arena, events, htelling, hhushed, htold⟩ :=
        stage.perform_transparent htransparent
      simp only [Step.play, htelling, hhushed]
      cases result with
      | ok state => exact ⟨⟨rfl, rfl, rfl⟩, htold⟩
      | error error => exact ⟨⟨rfl, rfl, rfl⟩, htold⟩
  | retry operation name backoff =>
      have hattempt : Transparent
          (onCopy (operation.run
            (Arena.controller own (settings.telling true)).watched ·)
            (stage.state name)).run
          fun full => (onCopy
            (operation.run (Arena.controller own (settings.telling full)) ·)
            (stage.state name)).run :=
        .attempt hcontroller operation (stage.state name)
      obtain ⟨result, arena, events, htelling, hhushed, htold⟩ :=
        stage.perform_transparent (hattempt.retryOnConflict backoff)
      simp only [Step.play, htelling, hhushed]
      cases result with
      | ok ended => exact ⟨⟨rfl, rfl, rfl⟩, htold⟩
      | error error => exact ⟨⟨rfl, rfl, rfl⟩, htold⟩
  | cycle edits =>
      have hchange := PolicyEdit.discreet_applyAll own edits
      obtain ⟨result, arena, events, htelling, hhushed, htold⟩ :=
        stage.perform_transparent
          (Transparent.readModifyWrite hconnection settings hchange)
      simp only [Step.play, Stage.answer, htelling, hhushed]
      exact ⟨⟨rfl, rfl, rfl⟩, htold⟩
  | fetchPolicy =>
      obtain ⟨result, arena, events, htelling, hhushed, htold⟩ :=
        stage.perform_transparent (Transparent.fetchPolicy hconnection settings)
      simp only [Step.play, Stage.answer, htelling, hhushed]
      exact ⟨⟨rfl, rfl, rfl⟩, htold⟩
  | rawCommit policy =>
      obtain ⟨result, arena, events, htelling, hhushed, htold⟩ :=
        stage.perform_transparent (Transparent.commit hconnection policy)
      simp only [Step.play, htelling]
      rw [htelling] at hhushed
      refine ⟨⟨rfl, rfl, ?_⟩, htold⟩
      exact congrArg (·.2.2) hhushed

def Stage.fetchedBy (settings : Settings) :
    Stage → List (String × Step) → List (List Policy)
  | _, [] => []
  | stage, (resource, step) :: rest =>
    fetched (step.calls settings resource stage) ::
      fetchedBy settings (step.play settings resource stage).stage rest

theorem Stage.play_transparent (settings : Settings) (stage : Stage)
    (steps : List (String × Step)) :
    let told := play (settings.telling true) stage steps
    List.Forall₂ Outcome.Hushes told
      (play (settings.telling false) stage steps) ∧
      List.Forall₂ (fun policies outcome => Told policies outcome.log)
        (stage.fetchedBy (settings.telling true) steps) told := by
  induction steps generalizing stage with
  | nil => exact ⟨.nil, .nil⟩
  | cons head rest ih =>
      obtain ⟨resource, step⟩ := head
      obtain ⟨hhushes, htold⟩ := step.transparent settings resource stage
      obtain ⟨hrest, htoldRest⟩ :=
        ih (step.play (settings.telling true) resource stage).stage
      rw [play, play, hhushes.stage]
      exact ⟨.cons hhushes hrest, .cons htold htoldRest⟩

/-- Full logging changes nothing but the log.  Every scenario has the same
results, states, stored policies and call counts with it and without, and the
same log once the contents of policies are removed; with it, each fetch is
reported and, immediately behind that, shown once with the policy that it
brought.  For operations on any authority that takes no notice of the log the
same holds, also if they are run one after another or again after conflicts.
The text in which a policy is shown is read back as the policy. -/
theorem contents_logging_transparent :
    (∀ (settings : Settings) (stage : Stage) (steps : List (String × Step)),
      let told := play (settings.telling true) stage steps
      List.Forall₂ Outcome.Hushes told
        (play (settings.telling false) stage steps) ∧
        List.Forall₂ (fun policies outcome => Told policies outcome.log)
          (stage.fetchedBy (settings.telling true) steps) told) ∧
    (∀ {ρ : Type} (controller : Controller ρ), controller.Discreet →
      controller.Transparent) ∧
    (∀ {ρ : Type} (connection : Connection ρ), connection.Discreet →
      connection.Transparent) ∧
    (∀ {ρ α : Type} {watched : Action (Watched ρ) α} {run : Bool → Action ρ α},
      (Transparent watched.run fun full => (run full).run) →
      ∀ backoff, Transparent (retryOnConflict backoff watched).run
        fun full => (retryOnConflict backoff (run full)).run) ∧
    (∀ {ρ α β : Type} {watched : Action (Watched ρ) α} {run : Bool → Action ρ α}
        {next : α → Action (Watched ρ) β} {plainNext : Bool → α → Action ρ β},
      (Transparent watched.run fun full => (run full).run) →
      (∀ value, Transparent (next value).run fun full =>
        (plainNext full value).run) →
      Transparent (watched >>= next).run fun full =>
        (run full >>= plainNext full).run) ∧
    ∀ (resource : String) (policy : Policy),
      let event := Event.contents resource policy
      event.level = .trace ∧ event.message = "IAM policy contents" ∧
        ∃ text, event.fields.lookup "policy" = some (.text text) ∧
          decode? .json text = some policy := by
  refine ⟨?scenarios, ?controllers, ?connections, ?retried, ?sequenced, ?shown⟩
  case scenarios =>
    exact fun settings stage steps => stage.play_transparent settings steps
  case controllers => exact fun controller hdiscreet => .of_discreet hdiscreet
  case connections => exact fun connection hdiscreet => .of_discreet hdiscreet
  case retried =>
    exact fun htransparent backoff => htransparent.retryOnConflict backoff
  case sequenced => exact fun hfirst hnext => hfirst.bind hnext
  case shown =>
    intro resource policy event
    exact ⟨rfl, rfl, encode policy, rfl, decode?_encode policy⟩

def watchful : Stage :=
  .seeded [("projects/demo", [⟨"roles/viewer", ["user:b"]⟩])]

/-- A creation loses against another writer, is run again and cut off; then a
binding is adopted, and a cycle is run whose change is refused. -/
def eventful : List (String × Step) :=
  [("projects/demo", .define "viewer" (.declare "roles/viewer" ["user:a"])),
    ("projects/demo",
      .race [{ after := [.write none (⟨"roles/owner", ["user:o"]⟩ :: ·)] },
        { before := [.failFetch (.transport "gone")] }]),
    ("projects/demo", .retry .create "viewer" {}),
    ("projects/demo", .adopt "projects/demo/roles/owner" "owner"),
    ("projects/demo", .cycle [.editBindings .clear, .refuse "empty"])]

theorem contents_logging_transparent_eventful :
    let told := play { logPolicyContents := true } watchful eventful
    let connection := Arena.connection "projects/demo"
    let settings := fun full => ({} : Settings).telling full
    let adoption := fun full =>
      ((Arena.controller "projects/demo").telling full).adopt
        "projects/demo/roles/owner"
    let watchedAdoption :=
      ((Arena.controller "projects/demo").telling true).watched.adopt
        "projects/demo/roles/owner"
    (watchful.fetchedBy { logPolicyContents := true } eventful).map
      List.length =
        [0, 0, 1, 1, 1] ∧
      List.Forall₂ Outcome.Hushes told (play {} watchful eventful) ∧
      List.Forall₂ (fun policies outcome => Told policies outcome.log)
        (watchful.fetchedBy { logPolicyContents := true } eventful) told ∧
      Transparent
        (fetchPolicy connection.watched (settings true) >>= fun _ =>
          retryOnConflict {} watchedAdoption).run
        fun full => (fetchPolicy connection (settings full) >>= fun _ =>
          retryOnConflict {} (adoption full)).run := by
  obtain ⟨hscenarios, hcontrollers, hconnections, hretried, hsequenced, -⟩ :=
    contents_logging_transparent
  have hcontroller :=
    hcontrollers _ (Arena.discreet_controller "projects/demo" {})
  have hconnection := hconnections _ (Arena.discreet_connection "projects/demo")
  obtain ⟨hhushes, htold⟩ := hscenarios {} watchful eventful
  refine ⟨by decide +kernel, hhushes, htold, ?_⟩
  apply hsequenced (hconnection.fetchPolicy {})
  intro policy
  exact hretried (hcontroller.adopt "projects/demo/roles/owner") {}

end Scenario

end AccessPolicy
