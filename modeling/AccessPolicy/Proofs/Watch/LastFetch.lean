import AccessPolicy.Proofs.Policy.UniqueRoles
import AccessPolicy.Proofs.Watch.Observation

/-!
# Reports reflect the last fetch

Somebody else may add, change or drop a role between the commit of an operation
and its closing fetch.  What a successful operation leaves in its state is what
this last fetch brought, whatever was written before it, and so is the presence
that it reports.  Only a deletion reports what its first fetch brought: whether
there was anything to delete.
-/

namespace AccessPolicy

open Scenario (Lifecycle Answer)

/-- What a state shows once a policy was read into it.  If the policy has an
entry for the role, the state has this identity, the members of the first such
entry, and the etag of the policy.  Otherwise it has no identity, and the rest
of it is as before. -/
structure Tracked.Shows (policy : Policy) (id : Option BindingId)
    (state later : Tracked) : Prop where
  granted : ∀ before entry after, policy.bindings = before ++ entry :: after →
    state.role ∉ rolesOf before → entry.role = state.role →
      later = ⟨id, state.role, .ofList entry.members, some policy.etag⟩
  missing : state.role ∉ rolesOf policy.bindings →
    later = { state with id := none }

namespace Scenario.Lifecycle

/-- The identity of a state whose role was found by an operation.  Creating
and updating track the role on the own resource; reading and deleting leave
the identity alone. -/
def identity (own : String) (state : Tracked) : Lifecycle → Option BindingId
  | create | update => some ⟨own, state.role⟩
  | read | delete => state.id

/-- What an operation reports of a role, given the first and the last
policy that it fetched. -/
def verdict (role : String) (first last : Policy) : Lifecycle → Answer
  | create | read | update =>
    .presence (if role ∈ rolesOf last.bindings then .present else .absent)
  | delete =>
    .removal (if role ∈ rolesOf first.bindings then .removed
      else .alreadyAbsent)

end Scenario.Lifecycle

section

variable {ρ : Type}

/-- Some calls begin with a fetch that brought the first policy, and end with a
fetch that brought the last one.  Both can be the same call. -/
structure Bracketed (first last : Policy)
    (calls : List (Exchange ρ)) : Prop where
  head : ∃ before after, calls.head? = some (.fetch before (.ok first) after)
  getLast : ∃ before after,
    calls.getLast? = some (.fetch before (.ok last) after)

/-- An operation reports what the first and the last fetch among its calls
brought, and leaves in the state what the last one brought. -/
def Reflects (operation : Lifecycle) (own : String) (state : Tracked)
    (calls : List (Exchange ρ)) (report : Report Answer) : Prop :=
  ∃ first last, Bracketed first last calls ∧
    report.result = .ok (operation.verdict state.role first last) ∧
    state.Shows last (operation.identity own state) report.state

end

/-- Whatever identity a state had, once a policy is read into it it
shows this policy. -/
theorem Controller.absorbed_shows (policy : Policy) (id : Option BindingId)
    (state : Tracked) :
    state.Shows policy id
      (absorbed { state with id } (policy.found state.role)).state where
  granted before entry after hsplit hbefore hrole := by
    have hentry : policy.binding? state.role = some entry :=
      Policy.binding?_eq_some_iff.2 ⟨before, after, hsplit, hbefore, hrole⟩
    rw [Policy.found_of_binding? hentry]
    simp only [absorbed, Tracked.observe, hrole]
    rfl
  missing hmissing := by
    rw [Policy.found, Policy.binding?_eq_none_iff.2 hmissing]
    rfl

/-- A state that may take an identity has it exactly if the policy has an
entry for its role. -/
theorem Tracked.Shows.isSome_id {policy : Policy} {id : BindingId}
    {state later : Tracked} (hshows : state.Shows policy (some id) later) :
    later.id.isSome = decide (state.role ∈ rolesOf policy.bindings) := by
  by_cases hrole : state.role ∈ rolesOf policy.bindings
  · obtain ⟨entry, hentry⟩ := Policy.exists_binding? hrole
    obtain ⟨before, after, hsplit, hbefore, hsame⟩ :=
      Policy.binding?_eq_some_iff.1 hentry
    rw [hshows.granted before entry after hsplit hbefore hsame,
      decide_eq_true hrole]
    rfl
  · rw [hshows.missing hrole, decide_eq_false hrole]
    rfl

/-- A read reports whether the policy has an entry for the role. -/
theorem Controller.result_absorbed (policy : Policy) (state : Tracked) :
    (absorbed state (policy.found state.role)).result =
      .ok (if state.role ∈ rolesOf policy.bindings then .present
        else .absent) := by
  by_cases hrole : state.role ∈ rolesOf policy.bindings
  · obtain ⟨entry, hentry⟩ := Policy.exists_binding? hrole
    rw [if_pos hrole, Policy.found_of_binding? hentry]
    rfl
  · rw [if_neg hrole, Policy.found, Policy.binding?_eq_none_iff.2 hrole]
    rfl

/-- After a read that started with an identity, the identity tells what
was reported. -/
theorem Controller.result_read {ρ : Type} (controller : Controller ρ)
    {state : Tracked} {id : BindingId} (hid : state.id = some id)
    (world : World ρ) {presence : Presence}
    (hresult : ((controller.read state).run world).1.result = .ok presence) :
    presence =
      if ((controller.read state).run world).1.state.id.isSome then .present
      else .absent := by
  rw [run_read] at hresult ⊢
  rcases hlookUp : (controller.lookUp state).run world
      with ⟨error | found, later⟩
  · simp only [hlookUp] at hresult
    cases hresult
  · simp only [hlookUp] at hresult ⊢
    cases found with
    | none =>
        cases hresult
        rfl
    | some found =>
        cases hresult
        simp [absorbed, Tracked.observe, hid]

/-- A report that was rephrased tells a success only if the report itself
does. -/
theorem Report.result_map_eq_ok {α β : Type} {f : α → β} {report : Report α}
    {output : β} (hresult : (report.map f).result = .ok output) :
    ∃ value, report.result = .ok value ∧ f value = output := by
  obtain ⟨error | value, state⟩ := report
  · cases hresult
  · exact ⟨value, rfl, Except.ok.inj hresult⟩

namespace Arena

variable {own : String} {settings : Settings} {state : Tracked}
    {world : World Arena}

/-- A creation or an update that succeeds reports whether the policy that its
state shows has an entry for the role. -/
theorem result_writeThenRead {change : Declaration → Mutation Unit}
    {last : Policy} {id : BindingId} {presence : Presence}
    (hshows : state.Shows last (some id)
      (((controller own settings).writeThenRead state change).run
        world).1.state)
    (hok : (((controller own settings).writeThenRead state change).run
      world).1.result = .ok presence) :
    presence =
      if state.role ∈ rolesOf last.bindings then .present else .absent := by
  have hid := hshows.isSome_id
  rw [Controller.run_writeThenRead] at hok hid
  rcases hwrite : ((controller own settings).write state change).run world with
    ⟨error | ⟨written, ⟨⟩⟩, later⟩
  · simp only [hwrite] at hok
    cases hok
  · -- The closing read starts with an identity, so by keeping it or not the
    -- state tells what it found.
    simp only [hwrite] at hok hid
    rw [(controller own settings).result_read rfl later hok, hid]
    simp only [decide_eq_true_eq]

/-- A deletion reports whether the policy that it fetched first had an
entry for the role. -/
theorem result_delete {removal : Removal}
    (hresult : (((controller own settings).delete state).run world).1.result =
      .ok removal) :
    removal =
      if state.role ∈ rolesOf (world.remote.offered own).bindings
      then .removed else .alreadyAbsent := by
  rw [Controller.run_delete, Controller.run_drop] at hresult
  obtain ⟨error, hopening, -, -⟩ | ⟨-, hopening⟩ :=
    opening_cases own settings state world.remote
  · rw [hopening] at hresult
    cases hresult
  · rw [hopening] at hresult
    rcases hcycle : (readModifyWrite (connection own)
      (controller own settings).settings
      fun policy =>
        liftM (Policy.revoke state.role policy)).run world with ⟨result, later⟩
    simp only [hcycle] at hresult
    cases cycle_end hcycle with
    | fetchFailed | changeFailed | refused => cases hresult
    | accepted _ hchange =>
        rw [Policy.revoke_eq_ok] at hchange
        cases hchange
        simp only [Controller.fst_removal] at hresult
        generalize ((controller own settings).read state).run _ =
            ended at hresult
        obtain ⟨⟨error | presence, tracked⟩, final⟩ := ended
        · cases hresult
        · obtain rfl := Except.ok.inj hresult
          by_cases hrole :
              state.role ∈ rolesOf (world.remote.offered own).bindings
          · rw [if_pos hrole, if_neg fun hnone =>
              Policy.roleCount_eq_zero_iff.1 hnone hrole]
          · rw [if_neg hrole, if_pos (Policy.roleCount_eq_zero_iff.2 hrole)]

variable {before after : Arena} {calls : List (Exchange Arena)}

theorem reflects_read {report : Report Presence} {presence : Presence}
    (hread :
      ReadProtocol (controller own settings) state before calls report after)
    (hok : report.result = .ok presence) :
    Reflects .read own state calls (report.map .presence) := by
  cases hread with
  | unconnected | roleless | unfetched => cases hok
  | @finished _ policy _ hopens hfetch =>
      refine ⟨policy, policy, ⟨⟨_, _, rfl⟩, ⟨_, _, rfl⟩⟩, ?_, ?_⟩
      · rw [Report.map, Controller.result_absorbed]
        rfl
      · exact Controller.absorbed_shows policy state.id state

/-- The calls of a write that succeeded begin with a fetch of what was on offer
and end with the fetch that its state shows. -/
theorem bracketed_writing {operation : Writing} {report : Report Answer}
    {answer : Answer}
    (hwrite : WriteProtocol (controller own settings) operation state before
      calls report after)
    (hok : report.result = .ok answer) :
    ∃ last, Bracketed (before.offered own) last calls ∧
      state.Shows last (operation.lifecycle.identity own state)
        report.state := by
  cases hwrite with
  | unconnected | roleless | unfetched | refused | disconnected
  | unread => cases hok
  | @finished _ _ policy sent shown between committed _ hopens hsends hcloses
      hfetch form =>
        obtain ⟨rfl, -⟩ := opens_own hopens
        -- What the first fetch brought is determined by the memory before it,
        -- and so it is the policy that the plain run changed.
        obtain ⟨-, ⟨cause, hfailed⟩ | hoffered⟩ := fetches_cases hsends.fetch
        · cases hfailed
        · obtain rfl := Except.ok.inj hoffered
          refine ⟨shown, ⟨⟨_, _, rfl⟩, ⟨_, _, rfl⟩⟩, ?_⟩
          cases operation with
          | create | update | delete =>
              exact Controller.absorbed_shows shown _ state

theorem reflects_writing {operation : Writing} {answer : Answer}
    (hwrite :
      WriteProtocol (controller own settings) operation state world.remote calls
        ((operation.lifecycle.run (controller own settings) state).run
          world).1 after)
    (hok : ((operation.lifecycle.run (controller own settings) state).run
      world).1.result = .ok answer) :
    Reflects operation.lifecycle own state calls
      ((operation.lifecycle.run (controller own settings) state).run
        world).1 := by
  obtain ⟨last, hbracketed, hshows⟩ := bracketed_writing hwrite hok
  refine ⟨_, last, hbracketed, hok.trans ?_, hshows⟩
  cases operation with
  | create | update =>
      obtain ⟨presence, hpresence, rfl⟩ := Report.result_map_eq_ok hok
      rw [result_writeThenRead hshows hpresence]
      rfl
  | delete =>
      obtain ⟨removal, hremoval, rfl⟩ := Report.result_map_eq_ok hok
      rw [result_delete hremoval]
      rfl

/-! ## Reports and stores -/

/-- However a read ends, it leaves the store to the others. -/
theorem othersOnly_read (own : String) (settings : Settings) (state : Tracked)
    (world : World Arena) :
    ∃ fetches, OthersOnly own fetches 0 world
      (((controller own settings).read state).run world).2 := by
  have hend := read_end own settings state world
  generalize ((controller own settings).read state).run world = ended at hend ⊢
  obtain ⟨report, later⟩ := ended
  cases hend with
  | unopened => exact ⟨0, .refl own _⟩
  | fetchFailed hothers | finished hothers => exact ⟨1, hothers⟩

theorem othersOnly_adopt (own : String) (settings : Settings) (name : String)
    (world : World Arena) :
    ∃ fetches, OthersOnly own fetches 0 world
      (((controller own settings).adopt name).run world).2 := by
  cases hparse : BindingId.parse name with
  | error error =>
      rw [Controller.run_adopt, hparse]
      exact ⟨0, .refl own world⟩
  | ok id =>
      rw [Controller.run_adopt_of_parse _ hparse]
      exact othersOnly_read own settings (.ofId id) world

/-- Whatever others do around its fetches, an operation that succeeds reports
and leaves in its state what its last fetch brought; a deletion reports what its
first fetch brought.  Whether they succeed or not, reading and adopting leave
the store to the others. -/
theorem reports_reflect_last_fetch (own : String) (settings : Settings)
    (state : Tracked) (world : World Arena) :
    (∀ operation : Lifecycle,
      let plain := (operation.run (controller own settings) state).run world
      let watched := operation.run (controller own settings).watched state
      (watched.run world.watched).1 = plain.1 ∧
        (connection own).Chain world.remote
          (callsOf watched world) plain.2.remote ∧
        ∀ answer, plain.1.result = .ok answer →
          Reflects operation own state (callsOf watched world) plain.1) ∧
    (∃ fetches, OthersOnly own fetches 0 world
      (((controller own settings).read state).run world).2) ∧
    ∀ name, ∃ fetches, OthersOnly own fetches 0 world
      (((controller own settings).adopt name).run world).2 := by
  refine ⟨?reports, othersOnly_read own settings state world,
    fun name => othersOnly_adopt own settings name world⟩
  intro operation plain watched
  have hchain := (operation.touched own settings state world).1
  obtain rfl | ⟨writing, rfl⟩ := Writing.lifecycle_cases operation
  · obtain ⟨calls, hread, hrun⟩ :=
      run_read_watched (controller own settings) state world.watched
    have hwatched := Report.run_map Answer.presence hrun
    have hcalls : callsOf watched world = calls := callsOf_eq hwatched
    refine ⟨congrArg Prod.fst hwatched, hchain, ?_⟩
    intro answer hok
    obtain ⟨presence, hpresence, -⟩ := Report.result_map_eq_ok hok
    rw [hcalls]
    exact reflects_read hread hpresence
  · obtain ⟨calls, hwrite, hrun⟩ :=
      run_writing_watched (controller own settings) writing state world.watched
    have hcalls : callsOf watched world = calls := callsOf_eq hrun
    refine ⟨congrArg Prod.fst hrun, hchain, ?_⟩
    intro answer hok
    rw [hcalls]
    exact reflects_writing hwrite hok

/-- A world in which the role is granted to somebody else just before
the second fetch. -/
def handedOver : World Arena where
  remote.races :=
    [{}, { before := [.write none fun _ => [⟨"roles/viewer", ["user:z"]⟩]] }]

theorem reports_reflect_last_fetch_handedOver :
    let state := Tracked.declare "roles/viewer" ["user:a"]
    let run :=
      (Lifecycle.create.run (controller "projects/demo") state).run handedOver
    let watched :=
      Lifecycle.create.run (controller "projects/demo").watched state
    run.1.state.members = .ofList ["user:z"] ∧
      ∃ answer, run.1.result = .ok answer ∧
        Reflects .create "projects/demo" state
          (callsOf watched handedOver) run.1 := by
  intro state run watched
  refine ⟨by decide +kernel, ?_⟩
  have hok : run.1.result.isOk = true := by decide +kernel
  obtain ⟨hreports, -, -⟩ :=
    reports_reflect_last_fetch "projects/demo" {} state handedOver
  obtain ⟨-, -, hreflects⟩ := hreports .create
  cases hresult : run.1.result with
  | error error =>
      rw [hresult] at hok
      cases hok
  | ok answer => exact ⟨answer, rfl, hreflects answer hresult⟩

/-- There is nothing to delete, but by the closing fetch somebody has granted
the role.  So it is shown, under the identity that it had. -/
example :
    let id : BindingId := ⟨"projects/demo", "roles/viewer"⟩
    let run := ((controller "projects/demo").delete (.ofId id)).run handedOver
    run.1.result = .ok .alreadyAbsent ∧ run.1.state.id = some id ∧
      run.1.state.members = .ofList ["user:z"] := by
  decide +kernel

end Arena

end AccessPolicy
