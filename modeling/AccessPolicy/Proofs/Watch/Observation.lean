import AccessPolicy.Proofs.Watch.Succession

/-!
# What an operation leaves in a state

An operation leaves the role of its state alone.  Its last fetch decides about
the rest: if it found an entry for the role, the state takes over the members
of this entry and the etag of the policy it stands in, and otherwise members
and etag stay.  The identity is kept, cleared, or that of the role on the
resource of the operation.
-/

namespace AccessPolicy

/-- What may become of the identity of a state: it is kept, cleared, or that of
its role on the own resource. -/
def Tracked.Admits (state : Tracked) (own : String)
    (id : Option BindingId) : Prop :=
  ∀ known, id = some known → state.id = some known ∨ known = ⟨own, state.role⟩

theorem Tracked.admits_id (state : Tracked) (own : String) :
    state.Admits own state.id :=
  fun _ => .inl

theorem Tracked.admits_none (state : Tracked) (own : String) :
    state.Admits own none := by
  intro known hknown
  cases hknown

/-- A state as an operation may leave it, given what its last fetch found. -/
inductive Touched (own : String) (state : Tracked) :
    Option (Binding × Etag) → Tracked → Prop
  | unseen {id : Option BindingId} (hid : state.Admits own id) :
      Touched own state none { state with id }
  | seen {id : Option BindingId} {entry : Binding} {etag : Etag}
      (hid : state.Admits own id) :
      Touched own state (some (entry, etag))
        ⟨id, state.role, entry.memberSet, some etag⟩

namespace Touched

variable {own : String} {state : Tracked}

theorem refl (own : String) (state : Tracked) : Touched own state none state :=
  .unseen (state.admits_id own)

theorem role {found : Option (Binding × Etag)} {later : Tracked}
    (htouched : Touched own state found later) : later.role = state.role := by
  cases htouched with
  | unseen | seen => rfl

/-- A read that starts with a new identity takes over what it finds. -/
theorem absorbed {id : Option BindingId} (policy : Policy)
    (hid : state.Admits own id) :
    Touched own state (policy.found state.role)
      (Controller.absorbed { state with id }
        (policy.found state.role)).state := by
  cases hfound : policy.binding? state.role with
  | none =>
      rw [Policy.found, hfound]
      exact .unseen (state.admits_none own)
  | some entry =>
      rw [Policy.found_of_binding? hfound]
      have hrole : entry.role = state.role := (Policy.binding?_eq_some hfound).2
      simp only [Controller.absorbed, Tracked.observe, hrole]
      exact .seen hid

/-- The state with which a write closes is the old one, or has the
identity of its role. -/
theorem recorded (operation : Writing) (own : String) (state : Tracked) :
    ∃ id, operation.recorded own state = { state with id } ∧
      state.Admits own id := by
  cases operation with
  | create | update =>
      exact ⟨_, rfl, fun known hknown => .inr (Option.some.inj hknown).symm⟩
  | delete => exact ⟨state.id, rfl, state.admits_id own⟩

end Touched

namespace Arena

variable {own : String} {settings : Settings} {state : Tracked}
    {before after : Arena}
variable {calls : List (Exchange Arena)}

/-- A binding is opened on its own resource, and only if it is not
tracked elsewhere. -/
theorem opens_own {target : Connection Arena}
    (hopens : (controller own settings).Opens state before target) :
    target = connection own ∧ state.BelongsTo own := by
  obtain ⟨-, hbelongs, htarget⟩ := connect_eq_ok_iff.1 hopens.connect
  exact ⟨htarget, hbelongs⟩

/-- The calls of a read are made in a row, and the last one decides what
becomes of the state. -/
theorem read_touched {report : Report Presence}
    (hread :
      ReadProtocol (controller own settings) state before calls report after) :
    (connection own).Chain before calls after ∧
      Touched own state (shown state.role calls) report.state := by
  cases hread with
  | unconnected | roleless => exact ⟨.nil, .refl own state⟩
  | unfetched hopens hfetch =>
      obtain ⟨rfl, -⟩ := opens_own hopens
      exact ⟨.cons (.fetch hfetch) .nil, .refl own state⟩
  | finished hopens hfetch =>
      obtain ⟨rfl, -⟩ := opens_own hopens
      exact ⟨.cons (.fetch hfetch) .nil, .absorbed _ (state.admits_id own)⟩

theorem write_touched {operation : Writing} {report : Report Scenario.Answer}
    (hwrite : WriteProtocol (controller own settings) operation state before
      calls report after) :
    (connection own).Chain before calls after ∧
      Touched own state (shown state.role calls) report.state := by
  cases hwrite with
  | unconnected | roleless => exact ⟨.nil, .refl own state⟩
  | unfetched hopens hfetch =>
      obtain ⟨rfl, -⟩ := opens_own hopens
      exact ⟨.cons (.fetch hfetch) .nil, .refl own state⟩
  | refused hopens hsends =>
      obtain ⟨rfl, -⟩ := opens_own hopens
      exact ⟨.cons (.fetch hsends.fetch) (.cons (.commit hsends.commit) .nil),
        .refl own state⟩
  | disconnected hopens hsends =>
      obtain ⟨rfl, -⟩ := opens_own hopens
      obtain ⟨id, hrecorded, hid⟩ := Touched.recorded operation own state
      refine ⟨.cons (.fetch hsends.fetch)
        (.cons (.commit hsends.commit) .nil), ?_⟩
      simp only [connection, hrecorded]
      exact .unseen hid
  | unread hopens hsends hcloses hfetch =>
      obtain ⟨rfl, -⟩ := opens_own hopens
      obtain ⟨rfl, -⟩ := opens_own hcloses
      obtain ⟨id, hrecorded, hid⟩ := Touched.recorded operation own state
      refine ⟨.cons (.fetch hsends.fetch) (.cons (.commit hsends.commit)
        (.cons (.fetch hfetch) .nil)), ?_⟩
      simp only [connection, hrecorded]
      exact .unseen hid
  | finished hopens hsends hcloses hfetch form =>
      obtain ⟨rfl, -⟩ := opens_own hopens
      obtain ⟨rfl, -⟩ := opens_own hcloses
      obtain ⟨id, hrecorded, hid⟩ := Touched.recorded operation own state
      refine ⟨.cons (.fetch hsends.fetch) (.cons (.commit hsends.commit)
        (.cons (.fetch hfetch) .nil)), ?_⟩
      simp only [connection, hrecorded]
      exact .absorbed _ hid

/-- A state that was adopted has the identity of a role on the own resource, and
shows what the fetch of the adoption found. -/
theorem adopt_touched {name : String} {result : Except OperationError Tracked}
    (hadopt :
      AdoptProtocol (controller own settings) name before calls result after) :
    (connection own).Chain before calls after ∧
      ∀ tracked, result = .ok tracked →
        ∃ role found, shown role calls = some found ∧
          Touched own (.ofId ⟨own, role⟩) (some found) tracked := by
  cases hadopt with
  | unparsed => exact ⟨.nil, nofun⟩
  | @parsed id calls report after hparse hread =>
      obtain ⟨hchain, htouched⟩ := read_touched hread
      refine ⟨hchain, ?_⟩
      intro tracked htracked
      cases hread with
      | unconnected | roleless | unfetched => cases htracked
      | @finished _ policy _ hopens hfetch =>
          obtain ⟨-, hbelongs⟩ := opens_own hopens
          obtain ⟨resource, role⟩ := id
          obtain rfl : resource = own := hbelongs ⟨resource, role⟩ rfl
          change Touched resource (.ofId ⟨resource, role⟩) (policy.found role)
            (Controller.absorbed (.ofId ⟨resource, role⟩)
              (policy.found role)).state at htouched
          change Controller.adopted _
            (Controller.absorbed (.ofId ⟨resource, role⟩) (policy.found role)) =
              _ at htracked
          cases hfound : policy.found role with
          | none =>
              rw [hfound] at htracked
              cases htracked
          | some found =>
              rw [hfound] at htracked htouched
              cases htracked
              exact ⟨role, found, hfound, htouched⟩

end Arena

namespace Scenario

/-- The calls of an operation are made in a row, and the last one decides what
becomes of the state. -/
theorem Lifecycle.touched (operation : Lifecycle) (own : String)
    (settings : Settings) (state : Tracked) (world : World Arena) :
    let calls := callsOf
      (operation.run (Arena.controller own settings).watched state) world
    let plain := (operation.run (Arena.controller own settings) state).run world
    (Arena.connection own).Chain world.remote calls plain.2.remote ∧
      Touched own state (shown state.role calls) plain.1.state := by
  obtain rfl | ⟨writing, rfl⟩ := Writing.lifecycle_cases operation
  · obtain ⟨calls, hread, hrun⟩ :=
      run_read_watched (Arena.controller own settings) state world.watched
    have hcalls : callsOf
        (Lifecycle.read.run (Arena.controller own settings).watched state)
        world = calls := callsOf_eq (Report.run_map Answer.presence hrun)
    rw [hcalls]
    exact Arena.read_touched hread
  · obtain ⟨calls, hwrite, hrun⟩ :=
      run_writing_watched (Arena.controller own settings) writing state
        world.watched
    rw [callsOf_eq hrun]
    exact Arena.write_touched hwrite

theorem adopt_touched (own : String) (settings : Settings) (name : String)
    (world : World Arena) :
    let calls :=
      callsOf ((Arena.controller own settings).watched.adopt name).run world
    let plain := ((Arena.controller own settings).adopt name).run world
    (Arena.connection own).Chain world.remote calls plain.2.remote ∧
      ∀ tracked, plain.1 = .ok tracked →
        ∃ role found, shown role calls = some found ∧
          Touched own (.ofId ⟨own, role⟩) (some found) tracked := by
  obtain ⟨calls, hadopt, hrun⟩ :=
    run_adopt_watched (Arena.controller own settings) name world.watched
  have hcalls : callsOf ((Arena.controller own settings).watched.adopt name).run
      world = calls :=
    callsOf_eq hrun
  rw [hcalls]
  exact Arena.adopt_touched hadopt

end Scenario

end AccessPolicy
