import AccessPolicy.Proofs.Arena.Calm
import AccessPolicy.Proofs.Controller.Ending
import AccessPolicy.Proofs.Watch.Exchange

/-!
# The protocol of remote calls

Every operation makes its remote calls in a fixed order and stops at the first
one that fails.  The tables below list the ways in which this can go: the calls,
what the operation reports behind them, and the memory that they leave.  A write
fetches, commits what it makes of the fetched policy, and fetches again.  A read
and an adoption fetch once.  Nothing is called unless there is a connection and
a role, and a missing connection is told before a missing role.
-/

namespace AccessPolicy

variable {ρ : Type}

def Exchange.isCommit : Exchange ρ → Bool
  | .fetch .. => false
  | .commit .. => true

/-- What an operation that changes a policy makes of a fetched one, or
why it refuses to. -/
def Writing.changed (operation : Writing) (declaration : Declaration)
    (policy : Policy) : Except OperationError Policy :=
  match operation with
  | create => (Policy.grant declaration policy).map (·.2)
  | update => (Policy.assign declaration policy).map (·.2)
  | delete => (Policy.revoke declaration.role policy).map (·.2)

theorem Writing.changed_eq_ok (operation : Writing) (declaration : Declaration)
    (policy : Policy) :
    operation.changed declaration policy =
      .ok ⟨policy.etag, operation.edit declaration policy.bindings⟩ := by
  cases operation with
  | create => rw [changed, Policy.grant_eq_ok]; rfl
  | update => rw [changed, Policy.assign_eq_ok]; rfl
  | delete => rw [changed, Policy.revoke_eq_ok]; rfl

theorem Writing.role_recorded (operation : Writing) (own : String)
    (state : Tracked) : (operation.recorded own state).role = state.role := by
  cases operation with
  | create | update | delete => rfl

structure Controller.Opens (controller : Controller ρ) (state : Tracked)
    (memory : ρ) (connection : Connection ρ) : Prop where
  connect : controller.connect state memory = .ok connection
  role : state.role ≠ ""

/-- The first two calls of a write, of which the fetch succeeded.  What the
operation makes of the fetched policy is committed, under the fetched etag. -/
structure Writing.Sends (operation : Writing) (state : Tracked)
    (connection : Connection ρ) (before : ρ) (policy : Policy) (between : ρ)
    (sent : Policy) (answer : Except RemoteError Unit) (after : ρ) : Prop where
  fetch : connection.Fetches before (.ok policy) between
  changed : operation.changed ⟨state.role, state.members⟩ policy = .ok sent
  etag : sent.etag = policy.etag
  commit : connection.Commits between sent answer after

/-- The remote calls of a read, its report behind them, and the memory
that they leave. -/
inductive ReadProtocol (controller : Controller ρ) (state : Tracked)
    (before : ρ) : List (Exchange ρ) → Report Presence → ρ → Prop
  | unconnected {cause : RemoteError}
      (hconnect : controller.connect state before = .error cause) :
      ReadProtocol controller state before []
        ⟨.error (.construction cause), state⟩ before
  | roleless {connection : Connection ρ}
      (hconnect : controller.connect state before = .ok connection)
      (hrole : state.role = "") :
      ReadProtocol controller state before []
        ⟨.error (.invalidBinding .emptyRole), state⟩ before
  | unfetched {connection : Connection ρ} {cause : RemoteError} {after : ρ}
      (hopens : controller.Opens state before connection)
      (hfetch : connection.Fetches before (.error cause) after) :
      ReadProtocol controller state before [.fetch before (.error cause) after]
        ⟨.error (.fetch connection.description cause), state⟩ after
  | finished {connection : Connection ρ} {shown : Policy} {after : ρ}
      (hopens : controller.Opens state before connection)
      (hfetch : connection.Fetches before (.ok shown) after) :
      ReadProtocol controller state before [.fetch before (.ok shown) after]
        (Controller.absorbed state (shown.found state.role)) after

/-- The remote calls of an operation that changes a policy, its report behind
them, and the memory that they leave. -/
inductive WriteProtocol (controller : Controller ρ) (operation : Writing)
    (state : Tracked) (before : ρ) :
    List (Exchange ρ) → Report Scenario.Answer → ρ → Prop
  | unconnected {cause : RemoteError}
      (hconnect : controller.connect state before = .error cause) :
      WriteProtocol controller operation state before []
        ⟨.error (.construction cause), state⟩ before
  | roleless {connection : Connection ρ}
      (hconnect : controller.connect state before = .ok connection)
      (hrole : state.role = "") :
      WriteProtocol controller operation state before []
        ⟨.error (.invalidBinding .emptyRole), state⟩ before
  | unfetched {connection : Connection ρ} {cause : RemoteError} {after : ρ}
      (hopens : controller.Opens state before connection)
      (hfetch : connection.Fetches before (.error cause) after) :
      WriteProtocol controller operation state before
        [.fetch before (.error cause) after]
        ⟨.error (.fetch connection.description cause), state⟩ after
  | refused {connection : Connection ρ} {policy sent : Policy}
      {cause : RemoteError} {between after : ρ}
      (hopens : controller.Opens state before connection)
      (hsends : operation.Sends state connection before policy between sent
        (.error cause) after) :
      WriteProtocol controller operation state before
        [.fetch before (.ok policy) between,
          .commit between sent (.error cause) after]
        ⟨.error (.commit connection.description cause), state⟩ after
  | disconnected {connection : Connection ρ} {policy sent : Policy}
      {cause : RemoteError} {between committed : ρ}
      (hopens : controller.Opens state before connection)
      (hsends : operation.Sends state connection before policy between sent
        (.ok ()) committed)
      (hconnect : controller.connect
        (operation.recorded connection.resource state) committed =
        .error cause) :
      WriteProtocol controller operation state before
        [.fetch before (.ok policy) between,
          .commit between sent (.ok ()) committed]
        ⟨.error (.construction cause),
          operation.recorded connection.resource state⟩ committed
  | unread {connection closing : Connection ρ} {policy sent : Policy}
      {cause : RemoteError} {between committed after : ρ}
      (hopens : controller.Opens state before connection)
      (hsends : operation.Sends state connection before policy between sent
        (.ok ()) committed)
      (hcloses : controller.Opens
        (operation.recorded connection.resource state) committed closing)
      (hfetch : closing.Fetches committed (.error cause) after) :
      WriteProtocol controller operation state before
        [.fetch before (.ok policy) between,
          .commit between sent (.ok ()) committed,
          .fetch committed (.error cause) after]
        ⟨.error (.fetch closing.description cause),
          operation.recorded connection.resource state⟩ after
  | finished {connection closing : Connection ρ} {policy sent shown : Policy}
      {between committed after : ρ}
      (hopens : controller.Opens state before connection)
      (hsends : operation.Sends state connection before policy between sent
        (.ok ()) committed)
      (hcloses : controller.Opens
        (operation.recorded connection.resource state) committed closing)
      (hfetch : closing.Fetches committed (.ok shown) after)
      (form : Presence → Scenario.Answer) :
      WriteProtocol controller operation state before
        [.fetch before (.ok policy) between,
          .commit between sent (.ok ()) committed,
          .fetch committed (.ok shown) after]
        ((Controller.absorbed (operation.recorded connection.resource state)
          (shown.found state.role)).map form)
        after

/-- What an adoption makes of its read: a role that is not granted
cannot be adopted. -/
def Controller.adopted (id : BindingId) :
    Report Presence → Except OperationError Tracked
  | ⟨.error error, _⟩ => .error error
  | ⟨.ok .present, tracked⟩ => .ok tracked
  | ⟨.ok .absent, _⟩ =>
    .error (.invalidBinding (.notGranted id.role id.resource))

/-- The remote calls of an adoption are those of a read, once its name
has been parsed. -/
inductive AdoptProtocol (controller : Controller ρ) (name : String)
    (before : ρ) : List (Exchange ρ) → Except OperationError Tracked → ρ → Prop
  | unparsed (hparse :
      BindingId.parse name = .error (.invalidBinding (.unsplittable name))) :
      AdoptProtocol controller name before []
        (.error (.invalidBinding (.unsplittable name))) before
  | parsed {id : BindingId} {calls : List (Exchange ρ)}
      {report : Report Presence} {after : ρ}
      (hparse : BindingId.parse name = .ok id)
      (hread : ReadProtocol controller (.ofId id) before calls report after) :
      AdoptProtocol controller name before calls
        (Controller.adopted id report) after

variable {controller : Controller ρ} {operation : Writing} {state : Tracked}
    {before after : ρ}
variable {calls : List (Exchange ρ)}

theorem ReadProtocol.order {report : Report Presence}
    (hread : ReadProtocol controller state before calls report after) :
    calls.map (·.isCommit) <+: [false] := by
  cases hread with
  | unconnected | roleless => exact List.nil_prefix
  | unfetched | finished => exact List.prefix_refl _

theorem AdoptProtocol.order {name : String}
    {result : Except OperationError Tracked}
    (hadopt : AdoptProtocol controller name before calls result after) :
    calls.map (·.isCommit) <+: [false] := by
  cases hadopt with
  | unparsed => exact List.nil_prefix
  | parsed _ hread => exact hread.order

theorem WriteProtocol.order {report : Report Scenario.Answer}
    (hwrite :
      WriteProtocol controller operation state before calls report after) :
    calls.map (·.isCommit) <+: [false, true, false] := by
  cases hwrite with
  | unconnected | roleless => exact List.nil_prefix
  | unfetched => exact ⟨[true, false], rfl⟩
  | refused | disconnected => exact ⟨[false], rfl⟩
  | unread | finished => exact List.prefix_refl _

/-- The calls of a write whose commit was accepted are followed by those of its
closing read.  The role is there, since the write was begun with it. -/
theorem ReadProtocol.closes {connection : Connection ρ} {policy sent : Policy}
    {between committed : ρ} {closing : Report Presence}
    (hread : ReadProtocol controller
      (operation.recorded connection.resource state) committed calls
      closing after)
    (hopens : controller.Opens state before connection)
    (hsends : operation.Sends state connection before policy between sent
      (.ok ()) committed)
    (form : Presence → Scenario.Answer) :
    WriteProtocol controller operation state before
      (.fetch before (.ok policy) between ::
        .commit between sent (.ok ()) committed :: calls)
      (closing.map form) after := by
  cases hread with
  | unconnected hconnect => exact .disconnected hopens hsends hconnect
  | roleless _ hrole =>
      rw [operation.role_recorded] at hrole
      exact absurd hrole hopens.role
  | unfetched hcloses hfetch => exact .unread hopens hsends hcloses hfetch
  | finished hcloses hfetch =>
      rw [operation.role_recorded]
      exact .finished hopens hsends hcloses hfetch form

/-- The calls of a write are those of a cycle and, if its commit was accepted,
those of the closing read. -/
theorem CycleExchanges.write_cases {α : Type} {connection : Connection ρ}
    {change : Mutation α} {result : Except OperationError α}
    (hcycle : CycleExchanges connection change before calls result after)
    (hopens : controller.Opens state before connection)
    (hedit :
      Arena.Rewrites change (operation.edit ⟨state.role, state.members⟩)) :
    (∃ error, result = .error error ∧
      WriteProtocol controller operation state before calls
        ⟨.error error, state⟩ after) ∨
    (∃ output, result = .ok output ∧
      ∀ {more closing final} (form : Presence → Scenario.Answer),
        ReadProtocol controller
          (operation.recorded connection.resource state)
          after more closing final →
        WriteProtocol controller operation state before (calls ++ more)
          (closing.map form) final) := by
  have hchanged := operation.changed_eq_ok ⟨state.role, state.members⟩
  cases hcycle with
  | unfetched hfetch => exact .inl ⟨_, rfl, .unfetched hopens hfetch⟩
  | @unchanged policy error after hfetch hchange =>
      obtain ⟨output, hok⟩ := hedit policy
      rw [hok] at hchange
      cases hchange
  | @refused policy changed output cause between after hfetch hchange hcommit =>
      obtain ⟨output, hok⟩ := hedit policy
      rw [hok] at hchange
      cases hchange
      exact .inl
        ⟨_, rfl, .refused hopens ⟨hfetch, hchanged policy, rfl, hcommit⟩⟩
  | @accepted policy changed output between after hfetch hchange hcommit =>
      obtain ⟨output, hok⟩ := hedit policy
      rw [hok] at hchange
      cases hchange
      refine .inr ⟨_, rfl, ?_⟩
      intro more closing final form hread
      exact hread.closes hopens ⟨hfetch, hchanged policy, rfl, hcommit⟩ form

end AccessPolicy
