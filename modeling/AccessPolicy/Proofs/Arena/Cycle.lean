import AccessPolicy.Proofs.Arena.Account

/-!
# Cycles amid other writers

A cycle on an arena ends in one of four ways: its fetch failed, its change
failed, its commit was refused, or its commit was accepted.  Each end determines
the world it leaves, and with it the account of the cycle.
-/

namespace AccessPolicy.Arena

variable {α : Type}

/-- The policy that the coming fetch brings if it does not fail. -/
def offered (own : String) (arena : Arena) : Policy :=
  (arena.reached own).policy own

def unfetched (own : String) (world : World Arena) : World Arena :=
  { world with remote := world.remote.served own }

def retrieved (own : String) (settings : Settings) (world : World Arena) :
    World Arena where
  remote := world.remote.served own
  log := world.log ++
    fetchEvents (connection own) settings (world.remote.offered own)

/-- The world once a commit was answered and the answer logged. -/
def reported (own : String) (sent : Policy) (answer : Except RemoteError Unit)
    (world : World Arena) : World Arena :=
  { world with log := world.log ++ commitEvents (connection own) sent answer }

/-- The two ways in which a logged fetch ends. -/
theorem run_fetchPolicy_cases (own : String) (settings : Settings)
    (world : World Arena) :
    (∃ cause, (world.remote.reached own).fetchFailure = some cause ∧
      (fetchPolicy (connection own) settings).run world =
        (.error (.fetch (Authority.describe own) cause), unfetched own world)) ∨
    ((world.remote.reached own).fetchFailure = none ∧
      (fetchPolicy (connection own) settings).run world =
        (.ok (world.remote.offered own), retrieved own settings world)) := by
  have hconnection : (connection own).fetch world =
      ((world.remote.fetch own).1,
        { world with remote := (world.remote.fetch own).2 }) := rfl
  rw [run_fetchPolicy, hconnection]
  obtain ⟨cause, harmed, hfetch⟩ | ⟨hunarmed, hfetch⟩ :=
    fetch_cases own world.remote
  · rw [hfetch]
    exact .inl ⟨cause, harmed, rfl⟩
  · rw [hfetch]
    exact .inr ⟨hunarmed, rfl⟩

/-- The three ways in which the second half of a cycle ends. -/
theorem run_changeAndCommit_cases (own : String) (change : Mutation α)
    (fetched : Policy) (world : World Arena) :
    let run := (changeAndCommit (connection own)
      (fun policy => liftM (change policy)) fetched).run
    (∃ error, change fetched = .error error ∧
      run world = (.error error, world)) ∨
    (∃ output changed cause, change fetched = .ok (output, changed) ∧
      run world = (.error (.commit (Authority.describe own) cause),
        reported own { changed with etag := fetched.etag } (.error cause)
          (refused world))) ∨
    (∃ output changed, change fetched = .ok (output, changed) ∧
      fetched.etag = (world.remote.authority.stored own).etag ∧
      run world = (.ok output,
        reported own { changed with etag := fetched.etag } (.ok ())
          (accepted own changed.bindings world))) := by
  intro run
  have hrun : run world = _ :=
    run_changeAndCommit (connection own) change fetched world
  rw [hrun]
  cases hchange : change fetched with
  | error error => exact .inl ⟨error, rfl, rfl⟩
  | ok changedBy =>
      obtain ⟨output, changed⟩ := changedBy
      obtain ⟨cause, hcommit⟩ | ⟨hetag, hcommit⟩ :=
        commit_cases own { changed with etag := fetched.etag } world
      · simp only [hcommit]
        exact .inr (.inl ⟨output, changed, cause, rfl, rfl⟩)
      · simp only [hcommit]
        exact .inr (.inr ⟨output, changed, rfl, hetag, rfl⟩)

/-- The ends of a cycle. -/
inductive CycleEnd (own : String) (settings : Settings) (change : Mutation α)
    (world : World Arena) : Except OperationError α → World Arena → Prop
  | fetchFailed {cause : RemoteError}
      (harmed : (world.remote.reached own).fetchFailure = some cause) :
      CycleEnd own settings change world
        (.error (.fetch (Authority.describe own) cause)) (unfetched own world)
  | changeFailed {error : OperationError}
      (hunarmed : (world.remote.reached own).fetchFailure = none)
      (hchange : change (world.remote.offered own) = .error error) :
      CycleEnd own settings change world (.error error)
        (retrieved own settings world)
  | refused {output : α} {changed sent : Policy} {cause : RemoteError}
      (hunarmed : (world.remote.reached own).fetchFailure = none)
      (hchange : change (world.remote.offered own) = .ok (output, changed))
      (hsent : sent =
        { changed with etag := (world.remote.offered own).etag }) :
      CycleEnd own settings change world
        (.error (.commit (Authority.describe own) cause))
        (reported own sent (.error cause)
          (Arena.refused (retrieved own settings world)))
  | accepted {output : α} {changed sent : Policy}
      (hunarmed : (world.remote.reached own).fetchFailure = none)
      (hchange : change (world.remote.offered own) = .ok (output, changed))
      (hsent : sent = { changed with etag := (world.remote.offered own).etag })
      (hetag : sent.etag =
        ((world.remote.served own).authority.stored own).etag) :
      CycleEnd own settings change world (.ok output)
        (reported own sent (.ok ())
          (Arena.accepted own sent.bindings (retrieved own settings world)))

/-- Every cycle has one of these ends. -/
theorem cycle_end {own : String} {settings : Settings} {change : Mutation α}
    {world later : World Arena} {result : Except OperationError α}
    (hrun : (readModifyWrite (connection own) settings fun policy =>
      liftM (change policy)).run world = (result, later)) :
    CycleEnd own settings change world result later := by
  rw [readModifyWrite, Action.run_bind] at hrun
  obtain ⟨cause, harmed, hfetch⟩ | ⟨hunarmed, hfetch⟩ :=
    run_fetchPolicy_cases own settings world
  · rw [hfetch] at hrun
    cases hrun
    exact .fetchFailed harmed
  · rw [hfetch] at hrun
    simp only at hrun
    obtain ⟨error, hchange, hsecond⟩ |
        ⟨output, changed, cause, hchange, hsecond⟩ |
        ⟨output, changed, hchange, hetag, hsecond⟩ :=
      run_changeAndCommit_cases own change (world.remote.offered own)
        (retrieved own settings world)
    · rw [hsecond] at hrun
      cases hrun
      exact .changeFailed hunarmed hchange
    · rw [hsecond] at hrun
      cases hrun
      exact .refused hunarmed hchange rfl
    · rw [hsecond] at hrun
      cases hrun
      exact .accepted hunarmed hchange rfl hetag

theorem acceptances_append (world : World Arena) {events : List Event}
    (hevents : events.countP (·.isStored) = 0) :
    acceptances { world with log := world.log ++ events } =
      acceptances world := by
  rw [acceptances, List.countP_append, hevents]
  rfl

/-- Saying something is no request. -/
theorem othersOnly_log (own : String) (world : World Arena)
    {events : List Event} (hevents : events.countP (·.isStored) = 0) :
    OthersOnly own 0 0 world { world with log := world.log ++ events } where
  queue := rfl
  served := rfl
  answered := rfl
  acceptances := acceptances_append world hevents
  stored := rfl

theorem countP_fetchEvents (own : String) (settings : Settings)
    (policy : Policy) :
    (fetchEvents (connection own) settings policy).countP (·.isStored) = 0 := by
  rw [fetchEvents]
  split <;> rfl

theorem countP_commitEvents (own : String) (policy : Policy)
    (answer : Except RemoteError Unit) :
    (commitEvents (connection own) policy answer).countP (·.isStored) = 0 := by
  rw [commitEvents.eq_def]
  split
  · rfl
  · split <;> rfl

theorem othersOnly_reported (own : String) (sent : Policy)
    (answer : Except RemoteError Unit) (world : World Arena) :
    OthersOnly own 0 0 world (reported own sent answer world) :=
  othersOnly_log own world (countP_commitEvents own sent answer)

/-- A fetch leaves the store to the others. -/
theorem othersOnly_unfetched (own : String) (world : World Arena) :
    OthersOnly own 1 0 world (unfetched own world) where
  queue := List.drop_one.symm
  served := (requests_served own world.remote).1
  answered := (requests_served own world.remote).2
  acceptances := rfl
  stored := stored_served own world.remote

theorem othersOnly_retrieved (own : String) (settings : Settings)
    (world : World Arena) :
    OthersOnly own 1 0 world (retrieved own settings world) :=
  (othersOnly_unfetched own world).trans
    (othersOnly_log own (unfetched own world)
      (countP_fetchEvents own settings _))

theorem othersOnly_refused (own : String) (world : World Arena) :
    OthersOnly own 0 1 world (refused world) where
  queue := rfl
  served := rfl
  answered := rfl
  acceptances := rfl
  stored := rfl

/-- The fetched policy was shown before the others acted after the fetch, so
their writes have made it older. -/
theorem shown_offered (own : String) (arena : Arena) :
    ((arena.served own).authority.stored own).Shown (arena.offered own)
      ((arena.races.headD {}).after.countP (·.touches own)) := by
  have hshown :
      (((arena.reached own).fetched).stored own).Shown (arena.offered own) 0 :=
    Stored.shown_policy _
  have hafter := Interference.shown_applyAll hshown (arena.races.headD {}).after
  rwa [Nat.zero_add] at hafter

/-- A commit under the fetched etag inserts one change among what the others
did: they may have acted after the fetch, but not on this resource unless its
counter came full circle. -/
theorem oneWrite_accepted {own : String} {settings : Settings}
    {world : World Arena} {edit : List Binding → List Binding}
    (hetag : (world.remote.offered own).etag =
      ((world.remote.served own).authority.stored own).etag) :
    OneWrite own edit 1 1 world
      (accepted own (edit (world.remote.offered own).bindings)
        (retrieved own settings world)) where
  queue := List.drop_one.symm
  served := (requests_served own world.remote).1
  answered := congrArg (· + 1) (requests_served own world.remote).2
  acceptances := by
    have hretrieved := (othersOnly_retrieved own settings world).acceptances
    rw [acceptances, accepted, List.countP_append]
    exact congrArg (· + 1) hretrieved
  stored := by
    -- The bindings were read before what the others did after the fetch, and
    -- written behind it.
    refine ⟨(world.remote.races.headD {}).before,
      (world.remote.races.headD {}).after, [], ?_, ?_, ?_⟩
    · rw [coming_one, List.append_nil]
    · have hcircle := (shown_offered own world.remote).etag_eq_iff.1 hetag
      obtain hzero | hpos := Nat.eq_zero_or_pos
        ((world.remote.races.headD {}).after.countP (·.touches own))
      · exact .inl hzero
      · exact .inr (Nat.le_of_dvd hpos hcircle)
    · rw [← coming_one]
      exact Authority.stored_write_congr (stored_served own world.remote) own _

/-- A change of a policy that never fails, and that edits the bindings
and nothing else. -/
def Rewrites (change : Mutation α)
    (edit : List Binding → List Binding) : Prop :=
  ∀ policy, ∃ output,
    change policy =
      .ok (output, { policy with bindings := edit policy.bindings })

/-- The account of a write: either others alone wrote, or one change was
accepted.  A conflict comes from the commit. -/
inductive WriteEnd (own : String) (edit : List Binding → List Binding)
    (world : World Arena) : Except OperationError α → World Arena → Prop
  | failed {error : OperationError} {fetches commits : Nat}
      {later : World Arena}
      (hothers : OthersOnly own fetches commits world later)
      (hconflict : error.isConflict = true → fetches = 1 ∧ commits = 1) :
      WriteEnd own edit world (.error error) later
  | accepted {output : α} {later : World Arena}
      (hwrite : OneWrite own edit 1 1 world later) :
      WriteEnd own edit world (.ok output) later

/-- The account of a cycle whose change never fails. -/
theorem CycleEnd.account {own : String} {settings : Settings}
    {change : Mutation α} {edit : List Binding → List Binding}
    {world later : World Arena} {result : Except OperationError α}
    (hend : CycleEnd own settings change world result later)
    (hedit : Rewrites change edit) : WriteEnd own edit world result later := by
  obtain ⟨output, hok⟩ := hedit (world.remote.offered own)
  cases hend with
  | fetchFailed =>
      apply WriteEnd.failed (othersOnly_unfetched own world)
      intro hconflict
      cases hconflict
  | changeFailed _ hchange =>
      rw [hok] at hchange
      cases hchange
  | refused =>
      have hcommit := (othersOnly_retrieved own settings world).trans
        (othersOnly_refused own _)
      apply WriteEnd.failed (hcommit.trans (othersOnly_reported own _ _ _))
      intro _
      exact ⟨rfl, rfl⟩
  | accepted _ hchange hsent hetag =>
      rw [hok] at hchange
      cases hchange
      subst hsent
      have hwrite : OneWrite own edit 1 1 world
          (Arena.accepted own (edit (world.remote.offered own).bindings)
            (retrieved own settings world)) := oneWrite_accepted hetag
      exact .accepted (hwrite.then_others (othersOnly_reported own _ _ _))

end AccessPolicy.Arena
