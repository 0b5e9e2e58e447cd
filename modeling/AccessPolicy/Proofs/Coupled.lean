import AccessPolicy.Controller
import AccessPolicy.Retry

/-!
# Coupled runs

Two runs are coupled by a relation of worlds if they go alike from all related
worlds: they yield related values and leave related worlds.  The rules for this
follow the shape of a program.  They hold for every relation of worlds; only
what is logged has to be shown for the relation at hand.
-/

namespace AccessPolicy

/-- Results that are the same error, or values in a relation. -/
inductive Agree {ε α β : Type} (R : α → β → Prop) :
    Except ε α → Except ε β → Prop
  | ok {first : α} {second : β} (hvalues : R first second) :
      Agree R (.ok first) (.ok second)
  | error (error : ε) : Agree R (.error error) (.error error)

theorem Agree.of_eq {ε α : Type} {R : α → α → Prop}
    (hrefl : ∀ value, R value value) (result : Except ε α) :
    Agree R result result := by
  cases result with
  | error error => exact .error error
  | ok value => exact .ok (hrefl value)

theorem Agree.imp {ε α β : Type} {R S : α → β → Prop}
    (himp : ∀ first second, R first second → S first second)
    {result : Except ε α} {other : Except ε β}
    (hresults : Agree R result other) : Agree S result other := by
  cases hresults with
  | ok hvalues => exact .ok (himp _ _ hvalues)
  | error error => exact .error error

/-- Results that agree on equal values are equal. -/
theorem agree_eq_iff {ε α : Type} {result other : Except ε α} :
    Agree Eq result other ↔ result = other := by
  constructor
  · intro hresults
    cases hresults with
    | ok hvalues => rw [hvalues]
    | error error => rfl
  · rintro rfl
    exact .of_eq (fun _ => rfl) result

variable {ρ σ α β γ δ : Type} {W : World ρ → World σ → Prop}
variable {R : α → β → Prop} {S : γ → δ → Prop}

/-- From related worlds, two runs yield related values and leave related
worlds. -/
def Coupled (W : World ρ → World σ → Prop) (R : α → β → Prop)
    (first : StateM (World ρ) α) (second : StateM (World σ) β) : Prop :=
  ∀ world other, W world other →
    R (first.run world).1 (second.run other).1 ∧
      W (first.run world).2 (second.run other).2

namespace Coupled

theorem pure {value : α} {other : β} (hvalues : R value other) :
    Coupled W R (pure value) (pure other) := by
  intro world other hworlds
  exact ⟨hvalues, hworlds⟩

theorem bind {first : StateM (World ρ) α} {second : StateM (World σ) β}
    {next : α → StateM (World ρ) γ} {nextOther : β → StateM (World σ) δ}
    (hfirst : Coupled W R first second)
    (hnext : ∀ value other, R value other →
      Coupled W S (next value) (nextOther other)) :
    Coupled W S (first >>= next) (second >>= nextOther) := by
  intro world other hworlds
  obtain ⟨hvalues, hlater⟩ := hfirst world other hworlds
  exact hnext _ _ hvalues _ _ hlater

theorem imp {T : α → β → Prop} {first : StateM (World ρ) α}
    {second : StateM (World σ) β} (hcoupled : Coupled W R first second)
    (himp : ∀ value other, R value other → T value other) :
    Coupled W T first second := by
  intro world other hworlds
  obtain ⟨hvalues, hlater⟩ := hcoupled world other hworlds
  exact ⟨himp _ _ hvalues, hlater⟩

/-- Values that are rephrased on both sides stay related. -/
theorem map {first : StateM (World ρ) α} {second : StateM (World σ) β}
    {form : α → γ} {otherForm : β → δ} (hcoupled : Coupled W R first second)
    (hform : ∀ value other, R value other → S (form value) (otherForm other)) :
    Coupled W S (form <$> first) (otherForm <$> second) := by
  intro world other hworlds
  obtain ⟨hvalues, hlater⟩ := hcoupled world other hworlds
  exact ⟨hform _ _ hvalues, hlater⟩

end Coupled

def Action.Coupled (W : World ρ → World σ → Prop) (R : α → β → Prop)
    (first : Action ρ α) (second : Action σ β) : Prop :=
  AccessPolicy.Coupled W (Agree R) first.run second.run

namespace Action.Coupled

theorem of_runs {first : Action ρ α} {second : Action σ β}
    (hruns : ∀ world other, W world other →
      Agree R (first.run world).1 (second.run other).1 ∧
        W (first.run world).2 (second.run other).2) :
    Action.Coupled W R first second :=
  hruns

theorem pure {value : α} {other : β} (hvalues : R value other) :
    Action.Coupled W R (pure value) (pure other) :=
  AccessPolicy.Coupled.pure (.ok hvalues)

theorem throw (error : OperationError) :
    Action.Coupled W R (throw error : Action ρ α) (throw error : Action σ β) :=
  AccessPolicy.Coupled.pure (.error error)

theorem bind {first : Action ρ α} {second : Action σ β} {next : α → Action ρ γ}
    {nextOther : β → Action σ δ} (hfirst : Action.Coupled W R first second)
    (hnext : ∀ value other, R value other →
      Action.Coupled W S (next value) (nextOther other)) :
    Action.Coupled W S (first >>= next) (second >>= nextOther) := by
  change AccessPolicy.Coupled W (Agree S) (first.run >>= ExceptT.bindCont next)
    (second.run >>= ExceptT.bindCont nextOther)
  apply AccessPolicy.Coupled.bind hfirst
  intro result other hresults
  cases hresults with
  | ok hvalues => exact hnext _ _ hvalues
  | error error => exact throw error

theorem tryCatch {first : Action ρ α} {second : Action σ β}
    {handle : OperationError → Action ρ α}
    {handleOther : OperationError → Action σ β}
    (hfirst : Action.Coupled W R first second)
    (hhandle : ∀ error, Action.Coupled W R (handle error) (handleOther error)) :
    Action.Coupled W R (tryCatch first handle)
      (tryCatch second handleOther) := by
  simp only [MonadExcept.tryCatch, tryCatchThe, MonadExceptOf.tryCatch,
    ExceptT.tryCatch]
  apply AccessPolicy.Coupled.bind hfirst
  intro result other hresults
  cases hresults with
  | ok hvalues => exact pure hvalues
  | error error => exact hhandle error

theorem lift {result : Except OperationError α}
    {other : Except OperationError β} (hresults : Agree R result other) :
    Action.Coupled W R (liftM result : Action ρ α)
      (liftM other : Action σ β) := by
  cases hresults with
  | ok hvalues => exact pure hvalues
  | error error => exact throw error

theorem same (result : Except OperationError α) :
    Action.Coupled W Eq (liftM result : Action ρ α)
      (liftM result : Action σ α) :=
  lift (agree_eq_iff.2 rfl)

/-- A run that cannot fail is an action. -/
theorem run {first : StateM (World ρ) α} {second : StateM (World σ) β}
    (hcoupled : AccessPolicy.Coupled W R first second) :
    Action.Coupled W R (liftM first : Action ρ α)
      (liftM second : Action σ β) := by
  intro world other hworlds
  obtain ⟨hvalues, hlater⟩ := hcoupled world other hworlds
  exact ⟨.ok hvalues, hlater⟩

/-- Actions stay coupled with something that both log in front of them. -/
theorem emit_then {event : Event} {next : Action ρ α} {nextOther : Action σ β}
    (hemit : Action.Coupled W Eq (emit event) (emit event))
    (hnext : Action.Coupled W R next nextOther) :
    Action.Coupled W R (emit event >>= fun _ => next)
      (emit event >>= fun _ => nextOther) :=
  bind hemit fun _ _ _ => hnext

/-- Repeated operations are coupled if the operations are, and if conflicts
are logged alike. -/
theorem retryOnConflict (backoff : Backoff) {first : Action ρ α}
    {second : Action σ β}
    (hemit : ∀ attempt attempts delay error,
      Action.Coupled W Eq
        (emit (.retrying attempt attempts delay error) : Action ρ Unit)
        (emit (.retrying attempt attempts delay error)))
    (hcoupled : Action.Coupled W R first second) :
    Action.Coupled W R (retryOnConflict backoff first)
      (retryOnConflict backoff second) := by
  suffices hattempts : ∀ (left : Nat) (attempt : UInt32),
      Action.Coupled W R (attemptFrom backoff first left attempt)
        (attemptFrom backoff second left attempt) from hattempts _ _
  intro left
  induction left with
  | zero => exact fun _ => hcoupled
  | succ left ih =>
      intro attempt
      apply tryCatch hcoupled
      intro error
      cases error.isConflict with
      | true =>
          simp only [if_true]
          exact emit_then (hemit _ _ _ _) (ih (attempt + 1))
      | false =>
          simp only [Bool.false_eq_true, if_false]
          exact throw _

/-- An operation on copies yields the copies that it leaves. -/
theorem onCopy {operation : Tracked → StateM (World ρ) (Report α)}
    {otherOperation : Tracked → StateM (World σ) (Report α)}
    {state otherState : Tracked} {T : Tracked → Tracked → Prop}
    (hcoupled : AccessPolicy.Coupled W
      (fun report other =>
        report.result = other.result ∧ T report.state other.state)
      (operation state) (otherOperation otherState)) :
    Action.Coupled W (fun ended other => ended.1 = other.1 ∧ T ended.2 other.2)
      (onCopy operation state) (onCopy otherOperation otherState) := by
  apply bind (run hcoupled)
  rintro report other ⟨hresult, hstates⟩
  rw [hresult]
  apply bind (same _)
  rintro output _ rfl
  exact pure ⟨rfl, hstates⟩

end Action.Coupled

end AccessPolicy
