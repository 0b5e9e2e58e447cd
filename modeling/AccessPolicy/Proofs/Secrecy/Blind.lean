import AccessPolicy.Proofs.Controller.Run
import AccessPolicy.Proofs.Secrecy.Alike
import AccessPolicy.Retry

/-!
# Runs to which members make no difference

A run is blind to members if worlds that are alike make it yield related values,
log the same and leave worlds that are alike.  The rules for this follow the
shape of a program, and the operations are blind by these rules as long as
policies are not logged in full: they log and report etags, roles and numbers of
entries, and they branch on nothing else.
-/

namespace AccessPolicy

variable {α β : Type} {R : α → α → Prop} {S : β → β → Prop}

/-- On worlds that are alike, two runs yield related values and leave
worlds that are alike. -/
def Blind (R : α → α → Prop) (first second : StateM (World Arena) α) : Prop :=
  ∀ world other : World Arena, world.Alike other →
    R (first.run world).1 (second.run other).1 ∧
      (first.run world).2.Alike (second.run other).2

/-- To be blind to members is to be coupled by the relation of worlds
that are alike. -/
theorem Blind.coupled {first second : StateM (World Arena) α}
    (hblind : Blind R first second) : Coupled World.Alike R first second :=
  hblind

theorem Blind.pure {value other : α} (hvalues : R value other) :
    Blind R (pure value) (pure other) :=
  Coupled.pure hvalues

theorem Blind.bind {first second : StateM (World Arena) α}
    {next nextOther : α → StateM (World Arena) β}
    (hfirst : Blind R first second)
    (hnext : ∀ value other, R value other →
      Blind S (next value) (nextOther other)) :
    Blind S (first >>= next) (second >>= nextOther) :=
  Coupled.bind hfirst hnext

theorem Blind.map {first second : StateM (World Arena) (Report α)}
    (hblind : Blind Report.Alike first second) (form : α → β) :
    Blind Report.Alike ((·.map form) <$> first) ((·.map form) <$> second) :=
  hblind.coupled.map fun _ _ hreports =>
    ⟨congrArg (Except.map form) hreports.result, hreports.state⟩

def Action.Blind (R : α → α → Prop) (first second : Action Arena α) : Prop :=
  AccessPolicy.Blind (Agree R) first.run second.run

namespace Action.Blind

theorem of_runs {first second : Action Arena α}
    (hruns : ∀ world other : World Arena, world.Alike other →
      Agree R (first.run world).1 (second.run other).1 ∧
        (first.run world).2.Alike (second.run other).2) :
    Action.Blind R first second :=
  hruns

theorem pure {value other : α} (hvalues : R value other) :
    Action.Blind R (pure value) (pure other) :=
  Action.Coupled.pure hvalues

theorem throw (error : OperationError) :
    Action.Blind R (throw error : Action Arena α) (throw error) :=
  Action.Coupled.throw error

theorem bind {first second : Action Arena α}
    {next nextOther : α → Action Arena β} (hfirst : Action.Blind R first second)
    (hnext : ∀ value other, R value other →
      Action.Blind S (next value) (nextOther other)) :
    Action.Blind S (first >>= next) (second >>= nextOther) :=
  Action.Coupled.bind hfirst hnext

theorem lift {result other : Except OperationError α}
    (hresults : Agree R result other) :
    Action.Blind R (liftM result) (liftM other) :=
  Action.Coupled.lift hresults

/-- A run that cannot fail is an action. -/
theorem run {first second : StateM (World Arena) α}
    (hblind : AccessPolicy.Blind R first second) :
    Action.Blind R (liftM first) (liftM second) :=
  Action.Coupled.run hblind

theorem emit (event : Event) :
    Action.Blind Eq (emit event : Action Arena Unit) (emit event) := by
  intro world other hworlds
  exact ⟨.ok rfl, hworlds.remote, congrArg (· ++ [event]) hworlds.log⟩

theorem emit_then (event : Event) {next nextOther : Action Arena α}
    (hnext : Action.Blind R next nextOther) :
    Action.Blind R (AccessPolicy.emit event >>= fun _ => next)
      (AccessPolicy.emit event >>= fun _ => nextOther) :=
  Action.Coupled.emit_then (emit event) hnext

end Action.Blind

namespace Arena

variable {own : String} {settings : Settings} {policy other : Policy}

theorem fetch_blind (own : String) :
    Blind (Agree Policy.Alike) (connection own).fetch
      (connection own).fetch := by
  intro world other hworlds
  obtain ⟨hresults, harenas⟩ := hworlds.remote.fetch own
  exact ⟨hresults, harenas, hworlds.log⟩

theorem commit_blind (own : String) (halike : policy.Alike other) :
    Blind Eq ((connection own).commit policy)
      ((connection own).commit other) := by
  intro world otherWorld hworlds
  obtain ⟨hresults, hauthorities⟩ := hworlds.remote.authority.commit own halike
  refine ⟨hresults, ⟨hauthorities, hworlds.remote.races⟩, ?_⟩
  have hetag := (hauthorities.policy own).etag
  simp only [connection, StateT.run, hworlds.log, hresults, hetag]

theorem fetchPolicy_blind (own : String)
    (hsecret : settings.logPolicyContents = false) :
    Action.Blind Policy.Alike (fetchPolicy (connection own) settings)
      (fetchPolicy (connection own) settings) := by
  rw [fetchPolicy, hsecret]
  apply Action.Blind.bind (.run (fetch_blind own))
  intro result other hresults
  cases hresults with
  | error cause => exact .throw _
  | ok halike =>
      simp only [halike.etag, length_eq_of_rolesOf halike.roles,
        Bool.false_eq_true, if_false]
      exact .emit_then _ (.pure halike)

theorem commitPolicy_blind (own : String) (halike : policy.Alike other) :
    Action.Blind Eq (commitPolicy (connection own) policy)
      (commitPolicy (connection own) other) := by
  rw [commitPolicy, commitPolicy, halike.etag,
    length_eq_of_rolesOf halike.roles]
  apply Action.Blind.bind (.run (commit_blind own halike))
  intro result other hresults
  subst hresults
  cases result with
  | ok committed => exact .emit _
  | error cause =>
      cases hconflict : cause.isConflict with
      | false =>
          simp only [hconflict, Bool.false_eq_true, if_false]
          exact .throw _
      | true =>
          simp only [hconflict, if_true]
          exact .emit_then _ (.throw _)

theorem changeAndCommit_blind (own : String) {change otherChange : Mutation α}
    (hchanges : ChangesAlike change otherChange)
    (hfetched : policy.Alike other) :
    Action.Blind Eq
      (changeAndCommit (connection own)
        (fun fetched => liftM (change fetched)) policy)
      (changeAndCommit (connection own)
        (fun fetched => liftM (otherChange fetched)) other) := by
  apply Action.Blind.bind (.lift (hchanges hfetched))
  intro changed otherChanged hchanged
  obtain ⟨houtput, hpolicies⟩ := hchanged
  have hsent : Policy.Alike { changed.2 with etag := policy.etag }
      { otherChanged.2 with etag := other.etag } :=
    ⟨hfetched.etag, hpolicies.roles⟩
  apply Action.Blind.bind (commitPolicy_blind own hsent)
  intro _ _ _
  exact .pure houtput

theorem readModifyWrite_blind (own : String)
    (hsecret : settings.logPolicyContents = false)
    {change otherChange : Mutation α}
    (hchanges : ChangesAlike change otherChange) :
    Action.Blind Eq
      (readModifyWrite (connection own) settings fun policy =>
        liftM (change policy))
      (readModifyWrite (connection own) settings fun policy =>
        liftM (otherChange policy)) := by
  apply Action.Blind.bind (fetchPolicy_blind own hsecret)
  intro fetched otherFetched hfetched
  exact changeAndCommit_blind own hchanges hfetched

/-! ## Operations -/

variable {state otherState : Tracked}

def OpenedAlike (own : String)
    (first second : Connection Arena × Declaration) : Prop :=
  first.1 = connection own ∧ second.1 = connection own ∧
    first.2.role = second.2.role

theorem open_blind (own : String) (settings : Settings)
    (hstates : state.Alike otherState) :
    Action.Blind (OpenedAlike own) ((controller own settings).open state)
      ((controller own settings).open otherState) := by
  apply Action.Blind.of_runs
  intro world other hworlds
  have hreach := hworlds.remote.authority.reach own hstates
  rw [Controller.run_open_eq, Controller.run_open_eq]
  refine ⟨?_, hworlds⟩
  simp only [Controller.opening, controller, connector, hreach]
  cases other.remote.authority.reach own otherState with
  | error cause => exact .error _
  | ok reached =>
      have hdeclared := hstates.declaration
      generalize state.declaration = declared at hdeclared ⊢
      generalize otherState.declaration = otherDeclared at hdeclared ⊢
      cases hdeclared with
      | ok hroles => exact .ok ⟨rfl, rfl, hroles⟩
      | error error => exact .error error

def FoundAlike (first second : Binding × Etag) : Prop :=
  first.1.role = second.1.role ∧ first.2 = second.2

theorem lookUp_blind (own : String)
    (hsecret : settings.logPolicyContents = false)
    (hstates : state.Alike otherState) :
    Action.Blind (Option.Rel FoundAlike)
      ((controller own settings).lookUp state)
      ((controller own settings).lookUp otherState) := by
  apply Action.Blind.bind (open_blind own settings hstates)
  rintro ⟨_, declaration⟩ ⟨_, otherDeclaration⟩ ⟨rfl, rfl, hrole⟩
  apply Action.Blind.bind (fetchPolicy_blind own hsecret)
  intro policy other hpolicies
  have hfound := hpolicies.binding? declaration.role
  simp only at hrole
  simp only [← hrole]
  generalize policy.binding? declaration.role = found at hfound ⊢
  generalize other.binding? declaration.role = otherFound at hfound ⊢
  cases hfound with
  | none =>
      exact .emit_then _ (.pure .none)
  | some hentry => exact .pure (.some ⟨hentry, hpolicies.etag⟩)

theorem write_blind (own : String)
    (hsecret : settings.logPolicyContents = false)
    (hstates : state.Alike otherState) {change : Declaration → Mutation α}
    (hchange : ∀ {first second : Declaration}, first.role = second.role →
      ChangesAlike (change first) (change second)) :
    Action.Blind Eq ((controller own settings).write state change)
      ((controller own settings).write otherState change) := by
  apply Action.Blind.bind (open_blind own settings hstates)
  rintro ⟨_, declaration⟩ ⟨_, otherDeclaration⟩ ⟨rfl, rfl, hrole⟩
  apply Action.Blind.bind (readModifyWrite_blind own hsecret (hchange hrole))
  rintro output _ rfl
  simp only at hrole
  rw [hrole]
  exact .pure rfl

theorem drop_blind (own : String) (hsecret : settings.logPolicyContents = false)
    (hstates : state.Alike otherState) :
    Action.Blind Eq ((controller own settings).drop state)
      ((controller own settings).drop otherState) := by
  apply Action.Blind.bind (open_blind own settings hstates)
  rintro ⟨_, declaration⟩ ⟨_, otherDeclaration⟩ ⟨rfl, rfl, hrole⟩
  simp only at hrole
  simp only [hrole]
  apply Action.Blind.bind (readModifyWrite_blind own hsecret (revoke_alike _))
  rintro entries _ rfl
  by_cases hentries : entries = 0
  · simp only [hentries, if_true]
    exact .emit_then _ (.pure rfl)
  · simp only [hentries, if_false]
    exact .pure rfl

theorem read_blind (own : String) (hsecret : settings.logPolicyContents = false)
    (hstates : state.Alike otherState) :
    Blind Report.Alike ((controller own settings).read state)
      ((controller own settings).read otherState) := by
  apply Blind.bind (lookUp_blind own hsecret hstates)
  intro result other hresults
  cases hresults with
  | error error => exact .pure ⟨rfl, hstates⟩
  | ok hfound =>
      cases hfound with
      | none => exact .pure ⟨rfl, rfl, hstates.role, hstates.etag⟩
      | @some found otherFound hfound =>
          obtain ⟨binding, etag⟩ := found
          obtain ⟨otherBinding, otherEtag⟩ := otherFound
          exact .pure ⟨rfl, hstates.id, hfound.1, congrArg some hfound.2⟩

theorem writeThenRead_blind (own : String)
    (hsecret : settings.logPolicyContents = false)
    (hstates : state.Alike otherState) {change : Declaration → Mutation Unit}
    (hchange : ∀ {first second : Declaration}, first.role = second.role →
      ChangesAlike (change first) (change second)) :
    Blind Report.Alike ((controller own settings).writeThenRead state change)
      ((controller own settings).writeThenRead otherState change) := by
  apply Blind.bind (write_blind own hsecret hstates hchange)
  intro result other hresults
  cases hresults with
  | error error => exact .pure ⟨rfl, hstates⟩
  | ok heq =>
      subst heq
      exact read_blind own hsecret ⟨rfl, hstates.role, hstates.etag⟩

theorem delete_blind (own : String)
    (hsecret : settings.logPolicyContents = false)
    (hstates : state.Alike otherState) :
    Blind Report.Alike ((controller own settings).delete state)
      ((controller own settings).delete otherState) := by
  apply Blind.bind (drop_blind own hsecret hstates)
  intro result other hresults
  cases hresults with
  | error error => exact .pure ⟨rfl, hstates⟩
  | @ok removal _ heq =>
      subst heq
      apply Blind.bind (read_blind own hsecret hstates)
      intro closing otherClosing hclosing
      exact .pure ⟨congrArg (Except.map fun _ => removal) hclosing.result,
        hclosing.state⟩

theorem adopt_blind (own : String)
    (hsecret : settings.logPolicyContents = false) (name : String) :
    Action.Blind Tracked.Alike ((controller own settings).adopt name)
      ((controller own settings).adopt name) := by
  apply Action.Blind.bind (.lift (.of_eq (fun _ => rfl) _))
  rintro id _ rfl
  apply Action.Blind.bind (.run (read_blind own hsecret (.refl _)))
  intro report other hreports
  rw [hreports.result]
  apply Action.Blind.bind (.lift (.of_eq (fun _ => rfl) _))
  rintro presence _ rfl
  cases presence with
  | present => exact .pure hreports.state
  | absent => exact .throw _

/-- Running again is blind to members if the operation is. -/
theorem retryOnConflict_blind (backoff : Backoff)
    {first second : Action Arena α} (hblind : Action.Blind R first second) :
    Action.Blind R (retryOnConflict backoff first)
      (retryOnConflict backoff second) :=
  Action.Coupled.retryOnConflict backoff
    (fun _ _ _ _ => Action.Blind.emit _) hblind

/-- An operation that is run on copies yields copies that are alike. -/
theorem onCopy_blind (operation : Tracked → StateM (World Arena) (Report α))
    (hblind : Blind Report.Alike (operation state) (operation otherState)) :
    Action.Blind (fun ended other => ended.1 = other.1 ∧ ended.2.Alike other.2)
      (onCopy operation state) (onCopy operation otherState) :=
  Action.Coupled.onCopy (hblind.coupled.imp fun _ _ hreports =>
    ⟨hreports.result, hreports.state⟩)

end Arena

end AccessPolicy
