import AccessPolicy.Proofs.Logging.Leaves
import AccessPolicy.Proofs.Logging.Transparent
import AccessPolicy.Proofs.Policy.UniqueRoles

/-!
# The log as an account of calls

Without the contents of policies, the log of an operation is an account of its
calls.  A fetch that succeeded is reported with the etag and the number of
entries that it brought; an accepted commit by the authority, with the new etag,
and then by the operation; a commit that came too late as such.  Calls that
failed otherwise are not reported.  Two notes are taken besides: by a deletion
that found nothing to delete, and by a read that did not find its role.
-/

namespace AccessPolicy

/-- Whether an event reports a call, rather than what an operation makes of
it. -/
def Event.reportsCall : Event → Bool
  | notFound .. | nothingToDelete .. | retrying .. => false
  | _ => true

def Exchange.reports (own : String) : Exchange Arena → List Event
  | .fetch _ (.ok policy) _ =>
    [.retrieved (Authority.describe own) policy.etag policy.bindings.length]
  | .fetch _ (.error _) _ => []
  | .commit _ sent (.ok ()) after =>
    [.stored own (after.authority.policy own).etag,
      .committed (Authority.describe own) sent.etag sent.bindings.length]
  | .commit _ sent (.error cause) _ =>
    if cause.isConflict then
      [.rejected (Authority.describe own) sent.etag cause]
    else []

/-- What a read logs of its calls: the fetch, and that the role was
missing if it was. -/
def readLog (own role : String) : List (Exchange Arena) → List Event
  | [.fetch _ (.ok policy) _] =>
    .retrieved (Authority.describe own) policy.etag policy.bindings.length ::
      if role ∈ rolesOf policy.bindings then []
      else [.notFound (Authority.describe own) role]
  | _ => []

def adoptLog (own name : String) : List (Exchange Arena) → List Event :=
  match BindingId.parse name with
  | .ok id => readLog own id.role
  | .error _ => fun _ => []

/-- What an operation that changes a policy logs of its calls.  Behind an
accepted commit, a deletion says if there was nothing to delete, and then comes
what the closing read logs. -/
def Writing.log (operation : Writing) (own role : String) :
    List (Exchange Arena) → List Event
  | .fetch _ (.ok policy) _ :: .commit _ sent (.ok ()) after :: closing =>
    .retrieved (Authority.describe own) policy.etag policy.bindings.length ::
      .stored own (after.authority.policy own).etag ::
      .committed (Authority.describe own) policy.etag sent.bindings.length ::
      ((if operation = .delete ∧ role ∉ rolesOf policy.bindings then
          [.nothingToDelete (Authority.describe own) role] else []) ++
        readLog own role closing)
  | .fetch _ (.ok policy) _ :: .commit _ _ (.error cause) _ :: _ =>
    .retrieved (Authority.describe own) policy.etag policy.bindings.length ::
      if cause.isConflict then
        [.rejected (Authority.describe own) policy.etag cause]
      else []
  | _ => []

namespace Arena

variable {own role : String} {settings : Settings} {α : Type}

/-- But for the notes of operations, some events are the reports of some
calls, in their order. -/
def Reports (own : String) (calls : List (Exchange Arena))
    (events : List Event) : Prop :=
  events.filter (·.reportsCall) = calls.flatMap (·.reports own)

theorem Reports.append {calls more : List (Exchange Arena)}
    {events rest : List Event} (hfirst : Reports own calls events)
    (hsecond : Reports own more rest) :
    Reports own (calls ++ more) (events ++ rest) := by
  rw [Reports, List.filter_append, hfirst, hsecond, List.flatMap_append]

/-- A note reports no call. -/
theorem Reports.note {calls : List (Exchange Arena)} {event : Event}
    {events : List Event} (hevents : Reports own calls events)
    (hevent : event.reportsCall = false) :
    Reports own calls (event :: events) := by
  rw [Reports, List.filter_cons_of_neg (by simp [hevent])]
  exact hevents

theorem Reports.retrying {calls more : List (Exchange Arena)}
    {events rest : List Event} (attempt attempts : UInt32) (delay : UInt64)
    (error : OperationError) (hfirst : Reports own calls events)
    (hsecond : Reports own more rest) :
    Reports own (calls ++ more)
      (events ++ .retrying attempt attempts delay error :: rest) :=
  hfirst.append (hsecond.note rfl)

inductive FetchLeft (own : String) :
    Except OperationError Policy → List (Exchange Arena) → List Event → Prop
  | failed (before : Arena) (cause : RemoteError) (after : Arena) :
      FetchLeft own (.error (.fetch (Authority.describe own) cause))
        [.fetch before (.error cause) after] []
  | fetched (before : Arena) (policy : Policy) (after : Arena) :
      FetchLeft own (.ok policy) [.fetch before (.ok policy) after]
        [.retrieved (Authority.describe own) policy.etag policy.bindings.length]

inductive CommitLeft (own : String) (sent : Policy) :
    Except OperationError Unit → List (Exchange Arena) → List Event → Prop
  | refused (before : Arena) (cause : RemoteError) (after : Arena) :
      CommitLeft own sent (.error (.commit (Authority.describe own) cause))
        [.commit before sent (.error cause) after]
        (if cause.isConflict then
          [.rejected (Authority.describe own) sent.etag cause] else [])
  | accepted (before after : Arena) :
      CommitLeft own sent (.ok ()) [.commit before sent (.ok ()) after]
        [.stored own (after.authority.policy own).etag,
          .committed (Authority.describe own) sent.etag sent.bindings.length]

theorem leaves_fetchPolicy (own : String) (settings : Settings) :
    Leaves (FetchLeft own)
      (fetchPolicy (connection own).watched (settings.telling false)).run := by
  intro world
  let before := world.remote.memory
  let after := (before.fetch own).2
  have hanswer : (connection own).fetch world.bare =
      ((before.fetch own).1, ⟨after, world.log⟩) := rfl
  rw [StateT.run, run_fetchPolicy, watched_fetch, hanswer]
  cases (before.fetch own).1 with
  | error cause =>
      refine ⟨[.fetch before (.error cause) after], [], after,
        .failed before cause after, ?_⟩
      rw [List.append_nil]
  | ok policy => exact ⟨_, _, after, .fetched before policy after, rfl⟩

theorem leaves_commitPolicy (own : String) (sent : Policy) :
    Leaves (CommitLeft own sent)
      (commitPolicy (connection own).watched sent).run := by
  intro world
  let before := world.remote.memory
  let after : Arena :=
    { before with authority := (before.authority.commit own sent).2 }
  rw [StateT.run, run_commitPolicy, watched_commit]
  cases hcommit : (before.authority.commit own sent).1 with
  | error cause =>
      have hanswer : (connection own).commit sent world.bare =
          (.error cause, ⟨after, world.log⟩) := by
        simp only [connection, World.bare, before, after, hcommit,
          List.append_nil]
      rw [hanswer]
      exact ⟨_, _, after, .refused before cause after, rfl⟩
  | ok accepted =>
      have hanswer : (connection own).commit sent world.bare =
          (.ok (), ⟨after,
            world.log ++ [.stored own (after.authority.policy own).etag]⟩) := by
        simp only [connection, World.bare, before, after, hcommit]
      rw [hanswer]
      refine ⟨_, _, after, .accepted before after, ?_⟩
      simp only [commitEvents, World.log_extend, List.append_assoc]
      rfl

theorem FetchLeft.reports {result : Except OperationError Policy}
    {calls : List (Exchange Arena)} {events : List Event}
    (hfetch : FetchLeft own result calls events) :
    Reports own calls events := by
  cases hfetch with
  | failed | fetched => rfl

/-- What a cycle yields and leaves behind. -/
inductive CycleLeft (own : String) (change : Mutation α) :
    Except OperationError α → List (Exchange Arena) → List Event → Prop
  | unfetched (error : OperationError) (before : Arena) (cause : RemoteError)
      (after : Arena) :
      CycleLeft own change (.error error)
        [.fetch before (.error cause) after] []
  | unchanged {error : OperationError} {policy : Policy} (before after : Arena)
      (hchange : change policy = .error error) :
      CycleLeft own change (.error error) [.fetch before (.ok policy) after]
        [.retrieved (Authority.describe own) policy.etag policy.bindings.length]
  | refused (error : OperationError) (policy sent : Policy)
      (cause : RemoteError)
      (before between sending after : Arena) (hetag : sent.etag = policy.etag) :
      CycleLeft own change (.error error)
        [.fetch before (.ok policy) between,
          .commit sending sent (.error cause) after]
        (.retrieved (Authority.describe own) policy.etag
          policy.bindings.length ::
          if cause.isConflict then
            [.rejected (Authority.describe own) policy.etag cause]
          else [])
  | accepted {output : α} {policy changed : Policy}
      (before between sending after : Arena)
      (hchange : change policy = .ok (output, changed)) :
      CycleLeft own change (.ok output)
        [.fetch before (.ok policy) between,
          .commit sending { changed with etag := policy.etag } (.ok ()) after]
        [.retrieved (Authority.describe own) policy.etag policy.bindings.length,
          .stored own (after.authority.policy own).etag,
          .committed (Authority.describe own) policy.etag
            changed.bindings.length]

/-- A cycle leaves what its fetch and its commit leave. -/
theorem leaves_cycle (own : String) (settings : Settings)
    (change : Mutation α) :
    Leaves (CycleLeft own change)
      (readModifyWrite (connection own).watched (settings.telling false)
        fun policy => liftM (change policy)).run := by
  apply Leaves.action_bind (leaves_fetchPolicy own settings)
  case herror =>
    intro error calls events hfetch
    cases hfetch with
    | failed before cause after => exact .unfetched _ before cause after
  case hnext =>
    intro policy calls events hfetch
    cases hfetch with
    | fetched before _ between =>
        apply Leaves.lift_bind
        case herror =>
          exact fun error hchange => .unchanged before between hchange
        case hnext =>
          rintro ⟨output, changed⟩ hchange
          apply Leaves.action_bind (leaves_commitPolicy own _)
          case herror =>
            intro error calls events hcommit
            cases hcommit with
            | refused sending cause after =>
                exact .refused _ policy _ cause before between sending after rfl
          case hnext =>
            intro _ calls events hcommit
            cases hcommit with
            | accepted sending after =>
                exact .pure (.accepted before between sending after hchange)

theorem CycleLeft.reports {change : Mutation α}
    {result : Except OperationError α} {calls : List (Exchange Arena)}
    {events : List Event} (hcycle : CycleLeft own change result calls events) :
    Reports own calls events := by
  cases hcycle with
  | unfetched | unchanged | accepted => rfl
  | refused error policy sent cause before between sending after hetag =>
      cases hconflict : cause.isConflict <;>
        simp [Reports, Exchange.reports, Event.reportsCall, hconflict, hetag]

/-! ## Operations -/

/-- The events are the log of the calls, which reports every call. -/
structure Accounts (log : List (Exchange Arena) → List Event) (own : String)
    (calls : List (Exchange Arena)) (events : List Event) : Prop where
  log : events = log calls
  reports : Reports own calls events

/-- Opening a binding leaves nothing behind, and yields a connection to the own
resource if it does not fail. -/
theorem leaves_open_then (own : String) (settings : Settings) (state : Tracked)
    {next : Connection (Watched Arena) × Declaration → Action (Watched Arena) α}
    {Post : Except OperationError α → List (Exchange Arena) → List Event → Prop}
    (herror : ∀ error, Post (.error error) [] [])
    (hnext : Leaves Post
      (next ((connection own).watched, ⟨state.role, state.members⟩)).run) :
    Leaves Post ((controller own settings).watched.open state >>=
      next).run := by
  intro world
  rw [StateT.run, Action.run_bind, Controller.run_open_eq,
    Controller.opening_watched]
  obtain ⟨error, hopening, -⟩ | ⟨-, hopening⟩ :=
    opening_cases own settings state world.remote.memory
  · rw [hopening]
    exact Leaves.pure (herror error) world
  · rw [hopening]
    exact hnext world

section

variable (settings : Settings) (state : Tracked)

theorem leaves_lookUp :
    Leaves (fun _ calls events =>
      Accounts (readLog own state.role) own calls events)
      ((controller own (settings.telling false)).watched.lookUp state).run := by
  apply leaves_open_then
  case herror => exact fun error => ⟨rfl, rfl⟩
  case hnext =>
    apply Leaves.action_bind (leaves_fetchPolicy own settings)
    case herror =>
      intro error calls events hfetch
      cases hfetch with
      | failed => exact ⟨rfl, rfl⟩
    case hnext =>
      intro policy calls events hfetch
      cases hfetch with
      | fetched before _ after =>
          cases hfound : policy.binding? state.role with
          | none =>
              have hrole : state.role ∉ rolesOf policy.bindings :=
                Policy.binding?_eq_none_iff.1 hfound
              simp only
              refine .emit_then (.pure ⟨?_, rfl⟩)
              exact (congrArg (_ :: ·) (if_neg hrole)).symm
          | some entry =>
              have hrole : state.role ∈ rolesOf policy.bindings :=
                mem_rolesOf.2 ⟨entry, Policy.binding?_eq_some hfound⟩
              simp only
              refine .pure ⟨?_, rfl⟩
              exact (congrArg (_ :: ·) (if_pos hrole)).symm

theorem leaves_read :
    Leaves (fun _ calls events =>
      Accounts (readLog own state.role) own calls events)
      ((controller own (settings.telling false)).watched.read state) := by
  apply Leaves.bind (leaves_lookUp settings state)
  rintro (error | ⟨_ | found⟩) calls events haccounts
  case error => exact .pure_after haccounts
  case ok.none => exact .pure_after haccounts
  case ok.some => exact .pure_after haccounts

/-- What an action leaves that is followed by a read of the role if it
succeeds. -/
def Leads (operation : Writing) (own role : String)
    (result : Except OperationError α) (calls : List (Exchange Arena))
    (events : List Event) : Prop :=
  match result with
  | .error _ => Accounts (operation.log own role) own calls events
  | .ok _ => ∀ more rest, Accounts (readLog own role) own more rest →
      Accounts (operation.log own role) own (calls ++ more) (events ++ rest)

/-- A cycle that failed, though its change did not, leaves what an operation
logs that ends with it. -/
theorem CycleLeft.accounts_failed {operation : Writing} {change : Mutation α}
    {edit : List Binding → List Binding} (hedit : Rewrites change edit)
    {error : OperationError} {calls : List (Exchange Arena)}
    {events : List Event}
    (hcycle : CycleLeft own change (.error error) calls events) :
    Accounts (operation.log own role) own calls events := by
  have hreports := hcycle.reports
  cases hcycle with
  | unfetched | refused => exact ⟨rfl, hreports⟩
  | @unchanged _ policy _ _ hchange =>
      obtain ⟨output, hok⟩ := hedit policy
      rw [hok] at hchange
      cases hchange

/-- A cycle that succeeded goes on with the note of a deletion that had nothing
to delete, and with a read. -/
theorem CycleLeft.accounts_accepted {change : Mutation α} {output : α}
    {calls : List (Exchange Arena)} {events : List Event}
    (hcycle : CycleLeft own change (.ok output) calls events)
    (operation : Writing) (role : String) :
    ∃ policy changed, change policy = .ok (output, changed) ∧
      ∀ more rest, Accounts (readLog own role) own more rest →
        Accounts (operation.log own role) own (calls ++ more)
          (events ++
            ((if operation = .delete ∧ role ∉ rolesOf policy.bindings then
            [.nothingToDelete (Authority.describe own) role]
              else []) ++ rest)) := by
  have hreports := hcycle.reports
  cases hcycle with
  | @accepted _ policy changed before between sending after hchange =>
      refine ⟨policy, changed, hchange, fun more rest hread =>
        ⟨?_, hreports.append ?_⟩⟩
      · rw [hread.log]
        rfl
      · by_cases hnote : operation = .delete ∧ role ∉ rolesOf policy.bindings
        · rw [if_pos hnote]
          exact hread.reports.note rfl
        · rw [if_neg hnote]
          exact hread.reports

theorem leaves_write {operation : Writing} (hother : operation ≠ .delete)
    {change : Declaration → Mutation α} {edit : List Binding → List Binding}
    (hedit : Rewrites (change ⟨state.role, state.members⟩) edit) :
    Leaves (Leads operation own state.role)
      ((controller own (settings.telling false)).watched.write state
        change).run := by
  apply leaves_open_then
  case herror => exact fun error => ⟨rfl, rfl⟩
  case hnext =>
    apply Leaves.action_bind
      (leaves_cycle own settings (change ⟨state.role, state.members⟩))
    case herror =>
      intro error calls events hcycle
      exact hcycle.accounts_failed hedit
    case hnext =>
      intro output calls events hcycle
      obtain ⟨policy, changed, -, hcontinues⟩ :=
        hcycle.accounts_accepted operation state.role
      have hnote :
          ¬(operation = .delete ∧ state.role ∉ rolesOf policy.bindings) :=
        fun hdelete => hother hdelete.1
      refine .pure_after fun more rest hread => ?_
      have haccounts := hcontinues more rest hread
      rwa [if_neg hnote, List.nil_append] at haccounts

theorem leaves_drop :
    Leaves (Leads .delete own state.role)
      ((controller own (settings.telling false)).watched.drop state).run := by
  apply leaves_open_then
  case herror => exact fun error => ⟨rfl, rfl⟩
  case hnext =>
    have hedit : Rewrites (Policy.revoke state.role)
        (Policy.revokedBindings state.role) :=
      fun policy => ⟨_, Policy.revoke_eq_ok state.role policy⟩
    apply Leaves.action_bind
      (leaves_cycle own settings (Policy.revoke state.role))
    case herror =>
      intro error calls events hcycle
      exact hcycle.accounts_failed hedit
    case hnext =>
      intro entries calls events hcycle
      obtain ⟨policy, changed, hchange, hcontinues⟩ :=
        hcycle.accounts_accepted .delete state.role
      rw [Policy.revoke_eq_ok] at hchange
      have hentries : policy.roleCount state.role = entries :=
        congrArg Prod.fst (Except.ok.inj hchange)
      have hmissing : entries = 0 ↔ state.role ∉ rolesOf policy.bindings := by
        rw [← hentries]
        exact Policy.roleCount_eq_zero_iff
      by_cases hnone : entries = 0
      · simp only [hnone, if_true]
        refine .emit_then (.pure fun more rest hread => ?_)
        have haccounts := hcontinues more rest hread
        rw [if_pos ⟨rfl, hmissing.1 hnone⟩] at haccounts
        rw [List.append_nil, List.append_assoc]
        exact haccounts
      · have hnote : ¬(Writing.delete = .delete ∧
          state.role ∉ rolesOf policy.bindings) :=
          fun hdelete => hnone (hmissing.2 hdelete.2)
        simp only [hnone, if_false]
        refine .pure_after fun more rest hread => ?_
        have haccounts := hcontinues more rest hread
        rwa [if_neg hnote, List.nil_append] at haccounts

theorem leaves_writeThenRead {operation : Writing}
    (hother : operation ≠ .delete) {change : Declaration → Mutation Unit}
    {edit : List Binding → List Binding}
    (hedit : Rewrites (change ⟨state.role, state.members⟩) edit) :
    Leaves (fun _ calls events =>
      Accounts (operation.log own state.role) own calls events)
      ((controller own (settings.telling false)).watched.writeThenRead state
        change) := by
  apply Leaves.bind (leaves_write settings state hother hedit)
  rintro (error | ⟨id, ⟨⟩⟩) calls events hleads
  case error => exact .pure_after hleads
  case ok =>
    apply (leaves_read settings (state.setId id)).imp
    intro _ more rest hread
    exact hleads more rest hread

theorem leaves_delete :
    Leaves (fun _ calls events =>
      Accounts (Writing.delete.log own state.role) own calls events)
      ((controller own (settings.telling false)).watched.delete state) := by
  apply Leaves.bind (leaves_drop settings state)
  rintro (error | removal) calls events hleads
  case error => exact .pure_after hleads
  case ok =>
    apply Leaves.bind (leaves_read settings state)
    intro closing more rest hread
    apply Leaves.pure
    rw [List.append_nil, List.append_nil]
    exact hleads more rest hread

/-- Every operation that changes a policy logs an account of its calls. -/
theorem leaves_writing (operation : Writing) :
    Leaves (fun _ calls events =>
      Accounts (operation.log own state.role) own calls events)
      (operation.lifecycle.run
        (controller own (settings.telling false)).watched state) := by
  cases operation with
  | create =>
      have hedit : Rewrites (Policy.grant ⟨state.role, state.members⟩)
          (Writing.create.edit ⟨state.role, state.members⟩) :=
        fun policy => ⟨(), Policy.grant_eq_ok _ policy⟩
      exact .map (leaves_writeThenRead settings state (by decide) hedit)
  | update =>
      have hedit : Rewrites (Policy.assign ⟨state.role, state.members⟩)
          (Writing.update.edit ⟨state.role, state.members⟩) :=
        fun policy => ⟨(), Policy.assign_eq_ok _ policy⟩
      exact .map (leaves_writeThenRead settings state (by decide) hedit)
  | delete => exact .map (leaves_delete settings state)

/-- An adoption logs an account of its calls, of which there are none if its
name has no role. -/
theorem leaves_adopt (name : String) :
    Leaves (fun _ calls events => Accounts (adoptLog own name) own calls events)
      ((controller own (settings.telling false)).watched.adopt name).run := by
  apply Leaves.lift_bind
  case herror =>
    intro error hparse
    exact ⟨by rw [adoptLog, hparse], rfl⟩
  case hnext =>
    intro id hparse
    have hlog : adoptLog own name = readLog own id.role := by
      rw [adoptLog, hparse]
    rw [hlog]
    have hread : Leaves (fun _ calls events =>
      Accounts (readLog own id.role) own calls events)
        (liftM
          ((controller own (settings.telling false)).watched.read (.ofId id)) :
          Action (Watched Arena) (Report Presence)).run :=
      .lift_run (leaves_read settings (.ofId id))
    apply Leaves.action_bind hread
    case herror => exact fun error calls events haccounts => haccounts
    case hnext =>
      intro report calls events haccounts
      -- What the read found decides how the adoption ends, but nothing
      -- more is logged.
      apply Leaves.lift_bind
      case herror =>
        intro error _
        rwa [List.append_nil, List.append_nil]
      case hnext =>
        intro presence _
        cases presence with
        | present => exact .pure_after haccounts
        | absent => exact .pure_after haccounts

/-- Every operation reports its calls. -/
theorem leaves_lifecycle (operation : Scenario.Lifecycle) :
    Leaves (fun _ calls events => Reports own calls events)
      (operation.run
        (controller own (settings.telling false)).watched state) := by
  obtain rfl | ⟨writing, rfl⟩ := Writing.lifecycle_cases operation
  · exact .map ((leaves_read settings state).imp fun _ _ _ haccounts =>
      haccounts.reports)
  · exact (leaves_writing settings state writing).imp fun _ _ _ haccounts =>
      haccounts.reports

end

end Arena

end AccessPolicy
