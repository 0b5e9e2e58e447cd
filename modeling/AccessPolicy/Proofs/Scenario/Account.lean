import AccessPolicy.Proofs.Logging.Account
import AccessPolicy.Proofs.Scenario.Isolation

/-!
# Scenarios and their logs

The log of a scenario, but for the notes that operations take, is what its calls
report, in their order.  So commits are reported as often as they were accepted,
and the version of every policy is the one that it had at the beginning,
advanced by the commits that the authority reported for its resource and by what
other writers wrote there.
-/

namespace AccessPolicy

/-- A plain run logs what its watched run leaves. -/
theorem log_of_mirrors {ρ α : Type} {Calls : ρ → List (Exchange ρ) → ρ → Prop}
    {Fits : List (Exchange ρ) → List Event → Prop}
    {watched : StateM (World (Watched ρ)) α} {plain : StateM (World ρ) α}
    (hmirrors : Mirrors Calls watched plain)
    (hleaves : Leaves (fun _ calls events => Fits calls events) watched)
    (world : World ρ) :
    Calls world.remote (callsOf watched world) (plain.run world).2.remote ∧
      ∃ events, Fits (callsOf watched world) events ∧
        (plain.run world).2.log = world.log ++ events := by
  obtain ⟨events, hfits, hlog⟩ := hleaves.callsOf world
  obtain ⟨calls, -, hrun⟩ := hmirrors world.watched
  refine ⟨hmirrors.callsOf world, events, hfits, ?_⟩
  rw [← hlog]
  exact (congrArg (fun ended => ended.2.log) hrun).symm

namespace Exchange

def isFetched {ρ : Type} : Exchange ρ → Bool
  | .fetch _ (.ok _) _ => true
  | _ => false

def isAccepted {ρ : Type} : Exchange ρ → Bool
  | .commit _ _ (.ok _) _ => true
  | _ => false

/-- Whether a call was a commit that was refused because another writer
came first. -/
def isOvertaken {ρ : Type} : Exchange ρ → Bool
  | .commit _ _ (.error cause) _ => cause.isConflict
  | _ => false

end Exchange

/-- Each call is reported by as many messages of a kind as befits it. -/
theorem Exchange.countP_message (own : String) (call : Exchange Arena) :
    (call.reports own).countP (·.message = "Retrieved IAM policy") =
        (if call.isFetched then 1 else 0) ∧
      (call.reports own).countP (·.message = "Committed IAM policy") =
        (if call.isAccepted then 1 else 0) ∧
      (call.reports own).countP (·.message = "Stored policy") =
        (if call.isAccepted then 1 else 0) ∧
      (call.reports own).countP
          (·.message = "IAM policy changed concurrently; commit rejected") =
        (if call.isOvertaken then 1 else 0) := by
  rcases call with ⟨before, cause | policy, after⟩ |
      ⟨before, sent, cause | ⟨⟩, after⟩
  case commit.error =>
    cases hconflict : cause.isConflict <;>
      simp [reports, isFetched, isAccepted, isOvertaken,
        Event.message, hconflict]
  all_goals simp [reports, isFetched, isAccepted, isOvertaken, Event.message]

/-- No note that an operation takes reads like a report. -/
theorem Event.reportsCall_of_message {event : Event} {text : String}
    (htext : text ∈
      ["Retrieved IAM policy", "Committed IAM policy", "Stored policy",
        "IAM policy changed concurrently; commit rejected"])
    (hmessage : decide (event.message = text) = true) :
    event.reportsCall = true := by
  obtain rfl := of_decide_eq_true hmessage
  cases event with
  | retrieved | contents | committed | rejected | stored => rfl
  | notFound | nothingToDelete | retrying => simp [message] at htext

def Event.storesAt (resource : String) : Event → Bool
  | stored target _ => target = resource
  | _ => false

/-- What a reader sees of an event. -/
def Event.line (event : Event) : Level × String × List (String × EventValue) :=
  (event.level, event.message, event.fields)

def reportsOf (calls : List (String × Exchange Arena)) : List Event :=
  calls.flatMap fun made => made.2.reports made.1

theorem reportsOf_append (calls more : List (String × Exchange Arena)) :
    reportsOf (calls ++ more) = reportsOf calls ++ reportsOf more :=
  List.flatMap_append

theorem reportsOf_map (resource : String) (calls : List (Exchange Arena)) :
    reportsOf (calls.map (resource, ·)) = calls.flatMap (·.reports resource) :=
  List.flatMap_map _ _ _

/-- Events of a kind that is reported once for each call of a kind. -/
theorem countP_reportsOf {kind : Event → Bool}
    {called : String × Exchange Arena → Bool}
    (hkind : ∀ made : String × Exchange Arena,
      (made.2.reports made.1).countP kind = if called made then 1 else 0)
    (calls : List (String × Exchange Arena)) :
    (reportsOf calls).countP kind = calls.countP called := by
  induction calls with
  | nil => rfl
  | cons head tail ih =>
      rw [reportsOf, List.flatMap_cons, List.countP_append, hkind,
        List.countP_cons, Nat.add_comm]
      exact congrArg (· + _) ih

/-- Only reports are counted among all events. -/
theorem countP_of_reports {kind : Event → Bool}
    (hkind : ∀ event, kind event = true → event.reportsCall = true)
    {events : List Event} {calls : List (String × Exchange Arena)}
    (hevents : events.filter (·.reportsCall) = reportsOf calls) :
    events.countP kind = (reportsOf calls).countP kind := by
  rw [← hevents, List.countP_filter]
  apply List.countP_congr
  intro event _
  constructor
  · intro hevent
    simp [hevent, hkind event hevent]
  · intro hevent
    simp only [Bool.and_eq_true] at hevent
    exact hevent.1

namespace Interference

/-- Whether an interference around a fetch from one resource writes to
another one. -/
def writesTo (source target : String) : Interference → Bool
  | write resource _ => resource.getD source = target
  | _ => false

theorem version_applyAll (source target : String) (authority : Authority)
    (changes : List Interference) :
    ((applyAll source authority changes).stored target).version =
      (authority.stored target).version +
        UInt64.ofNat (changes.countP (·.writesTo source target)) := by
  induction changes generalizing authority with
  | nil => exact (UInt64.add_zero _).symm
  | cons change rest ih =>
      have hstep : ((apply source authority change).stored target).version =
          (authority.stored target).version +
            UInt64.ofNat (if change.writesTo source target then 1 else 0) := by
        cases change with
        | write resource edit =>
            by_cases htarget : resource.getD source = target
            · simp [apply, Authority.change, writesTo, htarget, Stored.write]
            · simp [apply, Authority.change, writesTo, htarget,
                Authority.stored_write_of_ne _ _ (Ne.symm htarget)]
        | failFetch | failCommit | failConnection =>
            exact (UInt64.add_zero _).symm
      rw [applyAll_cons, ih, hstep, List.countP_cons, UInt64.add_assoc,
        ← UInt64.ofNat_add, Nat.add_comm]

end Interference

namespace Arena

variable {own target : String} {before after : Arena}
    {calls : List (Exchange Arena)}

/-- A call advances the version of a policy by the commit that was reported of
it, or by what others wrote around it. -/
theorem version_made {exchange : Exchange Arena}
    (hmade : (connection own).Made before exchange after) :
    (after.authority.stored target).version =
      (before.authority.stored target).version +
        UInt64.ofNat ((exchange.reports own).countP (·.storesAt target) +
          exchange.outside.countP (·.writesTo own target)) := by
  cases hmade with
  | @fetch _ answer hfetch =>
      have hreports : ((Exchange.fetch before answer after).reports own).countP
          (·.storesAt target) = 0 := by
        cases answer <;> rfl
      rw [stored_fetch hfetch, Interference.version_applyAll, hreports,
        Nat.zero_add]
      rfl
  | @commit _ sent answer hcommit =>
      obtain ⟨cause, rfl, rfl⟩ | ⟨rfl, rfl⟩ := commits_cases hcommit
      · cases hconflict : cause.isConflict <;>
          simp [Exchange.reports, Exchange.outside, Event.storesAt, hconflict,
            Authority.committed]
      · by_cases htarget : own = target
        · simp [htarget, Exchange.reports, Exchange.outside, Event.storesAt,
            Stored.write, Authority.committed]
        · simp [htarget, Exchange.reports, Exchange.outside, Event.storesAt,
            Authority.stored_write_of_ne _ _ (Ne.symm htarget),
            Authority.committed]

/-- Calls in a row advance the version of a policy by the commits that were
reported and by what others wrote around the fetches. -/
theorem version_chain (hchain : (connection own).Chain before calls after) :
    (after.authority.stored target).version =
      (before.authority.stored target).version +
        UInt64.ofNat
          ((calls.flatMap (·.reports own)).countP (·.storesAt target) +
            (calls.flatMap (·.outside)).countP (·.writesTo own target)) := by
  induction hchain with
  | nil => exact (UInt64.add_zero _).symm
  | cons hmade _ ih =>
      rw [ih, version_made hmade, UInt64.add_assoc, ← UInt64.ofNat_add,
        List.flatMap_cons, List.flatMap_cons, List.countP_append,
        List.countP_append]
      congr 2
      omega

end Arena

/-! ## Steps -/

namespace Scenario

variable {own : String}

/-- Whether a step, if it writes to policies at all, does so through a
controller or in another writer's name. -/
def Step.viaController : Step → Bool
  | cycle _ | rawCommit _ => false
  | _ => true

/-- A step reports its calls, and advances the versions of policies by the
commits that it reports and by what others write in the meantime. -/
structure Step.Accounted (settings : Settings) (own : String) (stage : Stage)
    (step : Step) : Prop where
  reports : Arena.Reports own (step.calls settings own stage)
    (step.play settings own stage).log
  version : ∀ target,
    ((step.play settings own stage).stage.arena.authority.stored
      target).version =
      (stage.arena.authority.stored target).version +
        UInt64.ofNat
          (((step.calls settings own stage).flatMap (·.reports own)).countP
            (·.storesAt target) +
          (step.outside settings own stage).countP (·.writesTo own target))

/-- A step that runs an operation is accounted for if the operation
reports its calls. -/
theorem Step.accounted_of_run {α : Type} {settings : Settings} {stage : Stage}
    {step : Step} {writes : Prop} {watched : StateM (World (Watched Arena)) α}
    {plain : StateM (World Arena) α}
    (hmirrors : Mirrors (Arena.CallsWithin own writes) watched plain)
    (hleaves : Leaves
      (fun _ calls events => Arena.Reports own calls events) watched)
    (hcalls : step.calls settings own stage = callsOf watched ⟨stage.arena, []⟩)
    (hworld : (step.play settings own stage).world =
      (plain.run ⟨stage.arena, []⟩).2)
    (houtside : step.outside settings own stage =
      (step.calls settings own stage).flatMap (·.outside)) :
    step.Accounted settings own stage := by
  obtain ⟨⟨hchain, -⟩, events, hreports, hevents⟩ :=
    log_of_mirrors hmirrors hleaves ⟨stage.arena, []⟩
  have hlog : (step.play settings own stage).log = _ :=
    congrArg World.log hworld
  have harena : (step.play settings own stage).stage.arena = _ :=
    congrArg World.remote hworld
  rw [← hcalls] at hreports hchain
  refine ⟨?reports, fun target => ?version⟩
  case reports =>
    rw [hlog, hevents]
    exact hreports
  case version =>
    rw [harena, houtside]
    exact Arena.version_chain hchain

theorem Step.accounted (step : Step) (hvia : step.viaController = true)
    (settings : Settings) (own : String) (stage : Stage) :
    step.Accounted (settings.telling false) own stage := by
  cases step with
  | cycle | rawCommit => cases hvia
  | define | copy | setMembers | plan | race | describe =>
      exact ⟨rfl, fun _ => (UInt64.add_zero _).symm⟩
  | interfere changes =>
      refine ⟨rfl, fun target => ?_⟩
      have hversion :=
        Interference.version_applyAll own target stage.arena.authority changes
      rw [← Nat.zero_add (changes.countP _)] at hversion
      exact hversion
  | rawFetch =>
      refine ⟨rfl, fun target => ?_⟩
      simp only [play, Authority.fetch]
      cases stage.arena.authority.fetchFailure <;>
        exact (UInt64.add_zero _).symm
  | run operation name =>
      exact accounted_of_run
        (Arena.callsWithin_lifecycle operation _ (stage.state name))
        (Arena.leaves_lifecycle settings (stage.state name) operation)
          rfl rfl rfl
  | adopt id name =>
      have hmirrors : Mirrors (Arena.CallsWithin own False) _ _ :=
        Mirrors.adopt (Arena.controller own (settings.telling false)) id
          Arena.callsWithin_adopt
      have hleaves := (Arena.leaves_adopt settings id).imp
        fun _ _ _ (haccounts : Arena.Accounts _ own _ _) => haccounts.reports
      exact accounted_of_run hmirrors hleaves rfl
        (world_adopt _ own stage id name) rfl
  | retry operation name backoff =>
      have hattempt :
          Leaves (fun _ calls events => Arena.Reports own calls events)
            (onCopy (operation.run
              (Arena.controller own (settings.telling false)).watched ·)
              (stage.state name)).run :=
        .onCopy (Arena.leaves_lifecycle settings (stage.state name) operation)
      exact accounted_of_run
        (Arena.callsWithin_retry operation (settings.telling false)
          (stage.state name) backoff)
        (hattempt.retryOnConflict Arena.Reports.retrying backoff) rfl
        (world_retry _ own stage operation name backoff) rfl
  | fetchPolicy =>
      have hmirrors : Mirrors (Arena.CallsWithin own False) _ _ :=
        Mirrors.fetchPolicy (Arena.connection own)
          (settings.telling false) Arena.callsWithin_fetch
      have hleaves := (Arena.leaves_fetchPolicy own settings).imp
        fun _ _ _ hfetch => hfetch.reports
      exact accounted_of_run hmirrors hleaves rfl rfl rfl

/-! ## Runs -/

def Stage.callsBy (settings : Settings) :
    Stage → List (String × Step) → List (String × Exchange Arena)
  | _, [] => []
  | stage, (resource, step) :: rest =>
    (step.calls settings resource stage).map (resource, ·) ++
      callsBy settings (step.play settings resource stage).stage rest

def Stage.logOf (settings : Settings) (stage : Stage)
    (steps : List (String × Step)) : List Event :=
  (play settings stage steps).flatMap (·.log)

theorem Stage.reports_logOf (settings : Settings) (stage : Stage)
    (steps : List (String × Step))
    (hvia : ∀ made ∈ steps, made.2.viaController = true) :
    (stage.logOf (settings.telling false) steps).filter (·.reportsCall) =
      reportsOf (stage.callsBy (settings.telling false) steps) := by
  induction steps generalizing stage with
  | nil => rfl
  | cons head rest ih =>
      obtain ⟨resource, step⟩ := head
      obtain ⟨hstep, hrest⟩ := List.forall_mem_cons.1 hvia
      have hreports := (step.accounted hstep settings resource stage).reports
      have hlater :=
        ih (step.play (settings.telling false) resource stage).stage hrest
      rw [callsBy, reportsOf_append, reportsOf_map, ← hlater, ← hreports,
        ← List.filter_append]
      rfl

theorem Stage.version_afterAll (settings : Settings) (stage : Stage)
    (steps : List (String × Step))
    (hvia : ∀ made ∈ steps, made.2.viaController = true) (target : String) :
    ((stage.afterAll (settings.telling false) steps).arena.authority.stored
      target).version =
      (stage.arena.authority.stored target).version +
        UInt64.ofNat
          ((reportsOf (stage.callsBy (settings.telling false) steps)).countP
            (·.storesAt target) +
          (stage.outside (settings.telling false) steps).countP
            fun made => made.2.writesTo made.1 target) := by
  induction steps generalizing stage with
  | nil => exact (UInt64.add_zero _).symm
  | cons head rest ih =>
      obtain ⟨resource, step⟩ := head
      obtain ⟨hstep, hrest⟩ := List.forall_mem_cons.1 hvia
      have hversion :=
        (step.accounted hstep settings resource stage).version target
      have hlater :=
        ih (step.play (settings.telling false) resource stage).stage hrest
      have hafter :
          stage.afterAll (settings.telling false) ((resource, step) :: rest) =
            (step.play (settings.telling false) resource stage).stage.afterAll
              (settings.telling false) rest := rfl
      rw [hafter, hlater, hversion, UInt64.add_assoc, ← UInt64.ofNat_add,
        callsBy, outside, reportsOf_append, reportsOf_map, List.countP_append,
        List.countP_append, List.countP_map]
      congr 2
      exact Nat.add_add_add_comm _ _ _ _

/-- A report occurs in the log of some steps as often as the calls occur
that it is made of. -/
theorem Stage.countP_message (settings : Settings) (stage : Stage)
    (steps : List (String × Step))
    (hvia : ∀ made ∈ steps, made.2.viaController = true) {text : String}
    {called : Exchange Arena → Bool}
    (htext : text ∈
      ["Retrieved IAM policy", "Committed IAM policy", "Stored policy",
        "IAM policy changed concurrently; commit rejected"])
    (hcalled : ∀ (own : String) (call : Exchange Arena),
      (call.reports own).countP (·.message = text) =
        if called call then 1 else 0) :
    (stage.logOf (settings.telling false) steps).countP (·.message = text) =
      (stage.callsBy (settings.telling false) steps).countP fun made =>
        called made.2 := by
  rw [countP_of_reports (fun event => Event.reportsCall_of_message htext)
    (stage.reports_logOf settings steps hvia)]
  exact countP_reportsOf (fun made => hcalled made.1 made.2) _

/-- The log is an account of what was done, whatever failed and whoever else
wrote.   An operation, with policies not logged in full, logs an account of the
calls that it made: what `readLog`, `adoptLog` and `Writing.log` say of them,
and nothing else.  Over a run of operations, adoptions and repeated operations,
amid other writers, the log is, but for the notes that the operations take, what
the calls report in their order.  So fetches, commits and conflicts are reported
as often as there were any, a commit is reported by the operation as often as by
the authority, and the version of every policy is advanced by the commits that
the authority reported for its resource and by what other writers wrote
there. -/
theorem log_accounts_for_effects (settings : Settings) :
    (∀ (own : String) (state : Tracked) (world : World Arena),
      let controller := Arena.controller own (settings.telling false)
      (∀ operation : Writing,
        let plain := (operation.lifecycle.run controller state).run world
        let calls :=
          callsOf (operation.lifecycle.run controller.watched state) world
        (Arena.connection own).Chain world.remote calls plain.2.remote ∧
          plain.2.log = world.log ++ operation.log own state.role calls) ∧
      (let plain := (controller.read state).run world
        let calls := callsOf (controller.watched.read state) world
        (Arena.connection own).Chain world.remote calls plain.2.remote ∧
          plain.2.log = world.log ++ readLog own state.role calls) ∧
      ∀ name,
        let plain := (controller.adopt name).run world
        let calls := callsOf (controller.watched.adopt name).run world
        (Arena.connection own).Chain world.remote calls plain.2.remote ∧
          plain.2.log = world.log ++ adoptLog own name calls) ∧
    (∀ (stage : Stage) (steps : List (String × Step)),
      (∀ made ∈ steps, made.2.viaController = true) →
      let log := stage.logOf (settings.telling false) steps
      let calls := stage.callsBy (settings.telling false) steps
      log.filter (·.reportsCall) =
        calls.flatMap (fun made => made.2.reports made.1) ∧
      log.countP (·.message = "Retrieved IAM policy") =
        calls.countP (·.2.isFetched) ∧
      log.countP (·.message = "Committed IAM policy") =
        calls.countP (·.2.isAccepted) ∧
      log.countP (·.message = "Stored policy") = calls.countP (·.2.isAccepted) ∧
      log.countP (·.message =
        "IAM policy changed concurrently; commit rejected") =
        calls.countP (·.2.isOvertaken) ∧
      ∀ target,
        ((stage.afterAll (settings.telling false) steps).arena.authority.stored
          target).version =
          (stage.arena.authority.stored target).version +
            UInt64.ofNat (log.countP (·.storesAt target) +
              (stage.outside (settings.telling false) steps).countP
                fun made => made.2.writesTo made.1 target)) ∧
    ∀ (resource role : String) (etag : Etag) (bindings : Nat)
        (cause : RemoteError),
      (Event.retrieved resource etag bindings).line =
        (.debug, "Retrieved IAM policy",
          [("resource", .text resource), ("etag", .text etag.token),
            ("bindings", .number bindings)]) ∧
      (Event.stored resource etag).line = (.trace, "Stored policy",
        [("resource", .text resource), ("etag", .text etag.token)]) ∧
      (Event.committed resource etag bindings).line =
        (.info, "Committed IAM policy",
          [("resource", .text resource), ("etag", .text etag.token),
            ("bindings", .number bindings)]) ∧
      (Event.rejected resource etag cause).line =
        (.warn, "IAM policy changed concurrently; commit rejected",
          [("resource", .text resource), ("etag", .text etag.token),
            ("error", .text cause.message)]) ∧
      (Event.nothingToDelete resource role).line =
        (.debug, "Policy bindings did not include the role; nothing to delete",
          [("resource", .text resource), ("role", .text role)]) ∧
      (Event.notFound resource role).line =
        (.debug, "Binding not found in policy, removing from tracked state",
          [("resource", .text resource), ("role", .text role)]) := by
  refine ⟨?calls, ?runs, fun _ _ _ _ _ => ⟨rfl, rfl, rfl, rfl, rfl, rfl⟩⟩
  case calls =>
    intro own state world controller
    refine ⟨fun operation => ?writing, ?reading, fun name => ?adopting⟩
    case writing =>
      obtain ⟨⟨hchain, -⟩, events, haccounts, hlog⟩ := log_of_mirrors
        (Arena.callsWithin_lifecycle operation.lifecycle
          (settings.telling false) state)
        (Arena.leaves_writing settings state operation) world
      rw [haccounts.log] at hlog
      exact ⟨hchain, hlog⟩
    case reading =>
      have hmirrors :
          Mirrors (Arena.CallsWithin own False) (controller.watched.read state)
            (controller.read state) := by
        intro world
        obtain ⟨calls, hread, hrun⟩ := run_read_watched controller state world
        exact ⟨calls, Arena.callsWithin_read hread, hrun⟩
      obtain ⟨⟨hchain, -⟩, events, haccounts, hlog⟩ :=
        log_of_mirrors hmirrors (Arena.leaves_read settings state) world
      rw [haccounts.log] at hlog
      exact ⟨hchain, hlog⟩
    case adopting =>
      have hmirrors : Mirrors (Arena.CallsWithin own False)
          (controller.watched.adopt name).run
          (controller.adopt name).run :=
            .adopt controller name Arena.callsWithin_adopt
      obtain ⟨⟨hchain, -⟩, events, haccounts, hlog⟩ :=
        log_of_mirrors hmirrors (Arena.leaves_adopt settings name) world
      rw [haccounts.log] at hlog
      exact ⟨hchain, hlog⟩
  case runs =>
    intro stage steps hvia log calls
    refine ⟨stage.reports_logOf settings steps hvia, ?retrieved, ?committed,
      ?stored, ?rejected, fun target => ?version⟩
    case retrieved =>
      exact stage.countP_message settings steps hvia (by simp)
        fun own call => (call.countP_message own).1
    case committed =>
      exact stage.countP_message settings steps hvia (by simp)
        fun own call => (call.countP_message own).2.1
    case stored =>
      exact stage.countP_message settings steps hvia (by simp)
        fun own call => (call.countP_message own).2.2.1
    case rejected =>
      exact stage.countP_message settings steps hvia (by simp)
        fun own call => (call.countP_message own).2.2.2
    case version =>
      have hstores : ∀ event : Event, event.storesAt target = true →
          event.reportsCall = true := by
        intro event hevent
        cases event <;> first | rfl | cases hevent
      rw [countP_of_reports hstores (stage.reports_logOf settings steps hvia)]
      exact stage.version_afterAll settings steps hvia target

/-- Two bindings are declared.  The creation of one is overtaken by another
writer and run again, and the deletion of the other finds nothing to delete,
before somebody empties another policy. -/
def overtaken : List (String × Step) :=
  [("projects/demo", .define "viewer" (.declare "roles/viewer" ["user:a"])),
    ("projects/demo", .define "editor" (.declare "roles/editor" ["user:b"])),
    ("projects/demo",
      .race [{ after := [.write none (⟨"roles/owner", ["user:o"]⟩ :: ·)] },
        {}, { before := [.failFetch (.transport "gone")] }]),
    ("projects/demo", .retry .create "viewer" {}),
    ("projects/demo", .run .delete "editor"),
    ("projects/demo", .interfere [.write (some "projects/other") fun _ => []])]

theorem log_accounts_for_effects_overtaken :
    let settings := ({} : Settings).telling false
    let log := Stage.logOf settings {} overtaken
    let ended := Stage.afterAll settings {} overtaken
    (∀ made ∈ overtaken, made.2.viaController = true) ∧
      log.countP (·.message = "Retrieved IAM policy") = 4 ∧
      log.countP (·.message = "Committed IAM policy") = 2 ∧
      log.countP (·.message =
        "IAM policy changed concurrently; commit rejected") = 1 ∧
      (ended.arena.authority.stored "projects/demo").version = 3 := by
  have hvia : ∀ made ∈ overtaken, made.2.viaController = true := by decide
  obtain ⟨-, hruns, -⟩ := log_accounts_for_effects {}
  obtain ⟨-, hretrieved, hcommitted, -, hrejected, hversion⟩ :=
    hruns {} overtaken hvia
  refine ⟨hvia, hretrieved.trans ?_, hcommitted.trans ?_, hrejected.trans ?_,
    (hversion "projects/demo").trans ?_⟩
  · decide +kernel
  · decide +kernel
  · decide +kernel
  · decide +kernel

end Scenario

end AccessPolicy
