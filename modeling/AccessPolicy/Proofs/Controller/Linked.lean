import AccessPolicy.Proofs.Controller.Run
import AccessPolicy.Proofs.Coupled
import AccessPolicy.Scenario.Step

/-!
# Operations on linked authorities

Two authorities are linked by a relation of worlds if, from related worlds,
the same requests to them are answered alike and leave related worlds.  They
need not remember the same kind of thing.  The operations on linked
authorities are then coupled: they end with the same results and states, and
leave related worlds.
-/

namespace AccessPolicy

variable {ρ σ α β : Type} {W : World ρ → World σ → Prop}

/-- Reports that are rephrased on both sides stay equal. -/
theorem Coupled.report {first : StateM (World ρ) (Report α)}
    {second : StateM (World σ) (Report α)}
    (hcoupled : Coupled W Eq first second) (form : α → β) :
    Coupled W Eq ((·.map form) <$> first) ((·.map form) <$> second) :=
  hcoupled.map fun _ _ => congrArg (Report.map form)

def Event.reportsFetch : Event → Bool
  | retrieved .. | contents .. => true
  | _ => false

/-- Whatever is logged, but for the fetches, is logged in both of two
related worlds. -/
def LogsAlike (W : World ρ → World σ → Prop) : Prop :=
  ∀ event : Event, event.reportsFetch = false →
    Action.Coupled W Eq (emit event : Action ρ Unit)
      (emit event : Action σ Unit)

/-- Connections to the same resource.  A fetch and what it logs make one step,
since how a fetch is logged may differ. -/
structure Connection.Linked (W : World ρ → World σ → Prop)
    (settings otherSettings : Settings) (first : Connection ρ)
    (second : Connection σ) : Prop where
  resource : first.resource = second.resource
  description : first.description = second.description
  fetch : Action.Coupled W Eq (fetchPolicy first settings)
    (fetchPolicy second otherSettings)
  commit : ∀ policy, Coupled W Eq (first.commit policy) (second.commit policy)

/-- Controllers that, in related worlds, connect to the same resources
or both fail to. -/
structure Controller.Linked (W : World ρ → World σ → Prop)
    (first : Controller ρ) (second : Controller σ) : Prop where
  connect : ∀ state {world other}, W world other →
    Agree (Connection.Linked W first.settings second.settings)
      (first.connect state world.remote) (second.connect state other.remote)

namespace Connection.Linked

variable {settings otherSettings : Settings} {first : Connection ρ}
    {second : Connection σ}
variable (hlinked : Linked W settings otherSettings first second)
    (hlogs : LogsAlike W)
include hlinked hlogs

theorem commitPolicy (policy : Policy) :
    Action.Coupled W Eq (commitPolicy first policy)
      (commitPolicy second policy) := by
  rw [AccessPolicy.commitPolicy, AccessPolicy.commitPolicy, hlinked.description]
  apply Action.Coupled.bind (.run (hlinked.commit policy))
  rintro answer _ rfl
  cases answer with
  | ok committed => exact hlogs _ rfl
  | error cause =>
      cases hconflict : cause.isConflict with
      | false =>
          simp only [hconflict, Bool.false_eq_true, if_false]
          exact .throw _
      | true =>
          simp only [hconflict, if_true]
          exact .emit_then (hlogs _ rfl) (.throw _)

theorem readModifyWrite {change : Policy → Action ρ (α × Policy)}
    {otherChange : Policy → Action σ (α × Policy)}
    (hchange : ∀ policy,
      Action.Coupled W Eq (change policy) (otherChange policy)) :
    Action.Coupled W Eq (readModifyWrite first settings change)
      (readModifyWrite second otherSettings otherChange) := by
  apply Action.Coupled.bind hlinked.fetch
  rintro fetched _ rfl
  apply Action.Coupled.bind (hchange fetched)
  rintro ⟨output, changed⟩ _ rfl
  apply Action.Coupled.bind (hlinked.commitPolicy hlogs _)
  rintro _ _ _
  exact .pure rfl

/-- A cycle whose change makes no requests. -/
theorem mutate (change : Mutation α) :
    Action.Coupled W Eq
      (AccessPolicy.readModifyWrite first settings fun policy =>
        liftM (change policy))
      (AccessPolicy.readModifyWrite second otherSettings fun policy =>
        liftM (change policy)) :=
  hlinked.readModifyWrite hlogs fun policy => .same (change policy)

end Connection.Linked

namespace Controller.Linked

variable {first : Controller ρ} {second : Controller σ}
variable (hlinked : Linked W first second)
include hlinked

/-- Opened bindings are connected to the same resource, with the same
declaration. -/
theorem «open» (state : Tracked) :
    Action.Coupled W (fun opened other =>
        Connection.Linked W first.settings second.settings opened.1 other.1 ∧
          opened.2 = other.2)
      (first.open state) (second.open state) := by
  apply Action.Coupled.of_runs
  intro world other hworlds
  rw [run_open_eq, run_open_eq]
  refine ⟨?_, hworlds⟩
  have hconnect := hlinked.connect state hworlds
  simp only [opening]
  generalize first.connect state world.remote = connected at hconnect ⊢
  generalize second.connect state other.remote = otherConnected at hconnect ⊢
  cases hconnect with
  | error cause => exact .error _
  | ok hconnections =>
      cases state.declaration with
      | error error => exact .error error
      | ok declaration => exact .ok ⟨hconnections, rfl⟩

variable (hlogs : LogsAlike W)
include hlogs

theorem lookUp (state : Tracked) :
    Action.Coupled W Eq (first.lookUp state) (second.lookUp state) := by
  apply Action.Coupled.bind (hlinked.open state)
  rintro ⟨connection, declaration⟩ ⟨otherConnection, _⟩ ⟨hconnections, rfl⟩
  apply Action.Coupled.bind hconnections.fetch
  rintro policy _ rfl
  have hdescription : connection.description = otherConnection.description :=
    hconnections.description
  simp only [hdescription]
  cases policy.binding? declaration.role with
  | none => exact .emit_then (hlogs _ rfl) (.pure rfl)
  | some binding => exact .pure rfl

theorem write (state : Tracked) (change : Declaration → Mutation α) :
    Action.Coupled W Eq (first.write state change)
      (second.write state change) := by
  apply Action.Coupled.bind (hlinked.open state)
  rintro ⟨connection, declaration⟩ ⟨otherConnection, _⟩ ⟨hconnections, rfl⟩
  apply Action.Coupled.bind (hconnections.mutate hlogs (change declaration))
  rintro output _ rfl
  have hresource : connection.resource = otherConnection.resource :=
    hconnections.resource
  simp only [hresource]
  exact .pure rfl

theorem drop (state : Tracked) :
    Action.Coupled W Eq (first.drop state) (second.drop state) := by
  apply Action.Coupled.bind (hlinked.open state)
  rintro ⟨connection, declaration⟩ ⟨otherConnection, _⟩ ⟨hconnections, rfl⟩
  apply Action.Coupled.bind
    (hconnections.mutate hlogs (Policy.revoke declaration.role))
  rintro entries _ rfl
  have hdescription : connection.description = otherConnection.description :=
    hconnections.description
  simp only [hdescription]
  by_cases hentries : entries = 0
  · simp only [hentries, if_true]
    exact .emit_then (hlogs _ rfl) (.pure rfl)
  · simp only [hentries, if_false]
    exact .pure rfl

theorem read (state : Tracked) :
    Coupled W Eq (first.read state) (second.read state) := by
  apply Coupled.bind (hlinked.lookUp hlogs state)
  intro result other hresults
  cases hresults with
  | error error => exact .pure rfl
  | @ok found _ heq =>
      subst heq
      rcases found with _ | ⟨binding, etag⟩
      · exact .pure rfl
      · exact .pure rfl

theorem writeThenRead (state : Tracked) (change : Declaration → Mutation Unit) :
    Coupled W Eq (first.writeThenRead state change)
      (second.writeThenRead state change) := by
  apply Coupled.bind (hlinked.write hlogs state change)
  intro result other hresults
  cases hresults with
  | error error => exact .pure rfl
  | @ok written _ heq =>
      subst heq
      exact hlinked.read hlogs (state.setId written.1)

theorem delete (state : Tracked) :
    Coupled W Eq (first.delete state) (second.delete state) := by
  apply Coupled.bind (hlinked.drop hlogs state)
  intro result other hresults
  cases hresults with
  | error error => exact .pure rfl
  | @ok removal _ heq =>
      subst heq
      apply Coupled.bind (hlinked.read hlogs state)
      rintro closing _ rfl
      exact .pure rfl

theorem lifecycle (operation : Scenario.Lifecycle) (state : Tracked) :
    Coupled W Eq (operation.run first state) (operation.run second state) := by
  cases operation with
  | create => exact (hlinked.writeThenRead hlogs state Policy.grant).report _
  | read => exact (hlinked.read hlogs state).report _
  | update => exact (hlinked.writeThenRead hlogs state Policy.assign).report _
  | delete => exact (hlinked.delete hlogs state).report _

theorem adopt (name : String) :
    Action.Coupled W Eq (first.adopt name) (second.adopt name) := by
  apply Action.Coupled.bind (.same _)
  rintro id _ rfl
  apply Action.Coupled.bind (.run (hlinked.read hlogs (.ofId id)))
  rintro report _ rfl
  apply Action.Coupled.bind (.same _)
  rintro presence _ rfl
  cases presence with
  | present => exact .pure rfl
  | absent => exact .throw _

/-- An attempt on a copy, as it is run again after conflicts. -/
theorem attempt (operation : Scenario.Lifecycle) (state : Tracked) :
    Action.Coupled W Eq (onCopy (operation.run first ·) state)
      (onCopy (operation.run second ·) state) := by
  have hended : Action.Coupled W
      (fun ended other => ended.1 = other.1 ∧ ended.2 = other.2)
      (onCopy (operation.run first ·) state)
      (onCopy (operation.run second ·) state) := by
    apply Action.Coupled.onCopy
    apply (hlinked.lifecycle hlogs operation state).imp
    rintro report _ rfl
    exact ⟨rfl, rfl⟩
  exact hended.imp fun _ _ => Agree.imp fun _ _ hparts =>
    Prod.ext hparts.1 hparts.2

end Controller.Linked

end AccessPolicy
