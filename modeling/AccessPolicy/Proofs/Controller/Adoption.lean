import AccessPolicy.Proofs.Arena.Calm
import AccessPolicy.Proofs.Identity.Display
import AccessPolicy.Proofs.Policy.AccessRelation
import AccessPolicy.Proofs.Retry

/-!
# Adopting what was created

A creation that nobody disturbs gives its binding an identity.  Adopting the
name of this identity on the same resource leads back to the created state,
unless resource and role merge: then the name is read as that of a custom role
on an outer resource, and the connector refuses it, although the name that it
quotes is the right one.  However adopting ends, it does not end in a conflict.
-/

namespace AccessPolicy

section

variable {ρ : Type} (controller : Controller ρ)

/-- What keeps a binding from being looked up is no conflict. -/
theorem Controller.lookUp_not_retried (state : Tracked) (world : World ρ) :
    isRetried ((controller.lookUp state).run world).1 = false := by
  rw [Controller.run_lookUp, Controller.opening]
  cases controller.connect state world.remote with
  | error cause => rfl
  | ok connection =>
      rw [Tracked.declaration]
      cases state.role.isEmpty with
      | true => rfl
      | false =>
          simp only [Bool.false_eq_true, if_false, Except.map, run_fetchPolicy]
          rcases connection.fetch world with ⟨cause | policy, later⟩
          · rfl
          · rfl

theorem Controller.adopt_not_retried (name : String) (world : World ρ) :
    isRetried ((controller.adopt name).run world).1 = false := by
  rw [Controller.run_adopt, BindingId.parse]
  cases BindingId.split? name with
  | none => rfl
  | some id =>
      have hlookUp := controller.lookUp_not_retried (.ofId id) world
      simp only [Controller.run_read]
      rcases hrun : (controller.lookUp (.ofId id)).run world
          with ⟨error | ⟨_ | _⟩, later⟩
      · rw [hrun] at hlookUp
        exact hlookUp
      · rfl
      · rfl

/-- Adopting never ends in a conflict, so that it makes no difference to
retry it. -/
theorem Controller.retryOnConflict_adopt (backoff : Backoff) (name : String) :
    retryOnConflict backoff (controller.adopt name) = controller.adopt name :=
  retryOnConflict_of_not_retried (controller.adopt_not_retried name) backoff

end

namespace Arena

variable {own role : String} {world created : World Arena}

/-- A creation that nobody disturbs is stored, and the new state shows
what is stored. -/
theorem Calm.run_create (hcalm : world.remote.Calm) (own : String)
    (settings : Settings) (hrole : role.isEmpty = false)
    (members : List String) :
    ∃ entry created,
      (created.remote.authority.policy own).binding? role = some entry ∧
      ((controller own settings).create (.declare role members)).run world =
        (⟨.ok .present, (Tracked.ofId ⟨own, role⟩).observe entry
          (created.remote.authority.policy own).etag⟩, created) ∧
      created.remote.Calm := by
  have hbelongs : (Tracked.declare role members).BelongsTo own := nofun
  have hchange : Rewrites (Policy.grant ⟨role, .ofList members⟩)
      fun bindings => Policy.grantedBindings bindings ⟨role, .ofList members⟩ :=
    fun policy => ⟨(), Policy.grant_eq_ok _ policy⟩
  obtain ⟨entry, created, hrun, hcreated, -, hentry⟩ :=
    hcalm.run_present settings (.declare role members) hrole hbelongs hchange
      fun _ => Policy.mem_rolesOf_grantedBindings.2 (.inr rfl)
  exact ⟨entry, created, hentry, hrun, hcreated⟩

/-- The name of a binding is adopted if the policy has an entry for its role. -/
theorem Calm.run_adopt (hcalm : world.remote.Calm) (settings : Settings)
    (hown : own ≠ "") (hrole : BindingId.isRole role.toList = true)
    (hmerges : ¬BindingId.Merges own role) {entry : Binding}
    (hentry : (world.remote.authority.policy own).binding? role = some entry) :
    ∃ final, ((controller own settings).adopt
      (BindingId.display ⟨own, role⟩)).run world =
      (.ok ((Tracked.ofId ⟨own, role⟩).observe entry
        (world.remote.authority.policy own).etag),
        final) := by
  have hbelongs : (Tracked.ofId ⟨own, role⟩).BelongsTo own := .of_id rfl
  have hfound : (world.remote.authority.policy own).found
      (Tracked.ofId ⟨own, role⟩).role = _ :=
    Policy.found_of_binding? hentry
  obtain ⟨final, hread, -⟩ := hcalm.run_read settings (.ofId ⟨own, role⟩)
    (BindingId.isEmpty_of_isRole hrole) hbelongs
  rw [hfound] at hread
  use final
  rw [Controller.run_adopt, BindingId.parse_display hown hrole hmerges]
  simp only [hread]
  rfl

/-- The refusal of a state that names another resource. -/
def foreign (own : String) (id : BindingId) : OperationError :=
  .construction (.invalid s!"binding {id.display} does not belong to {own}")

theorem Calm.run_read_foreign (hcalm : world.remote.Calm) (settings : Settings)
    {id : BindingId} (hforeign : id.resource ≠ own) :
    ((controller own settings).read (.ofId id)).run world =
      (⟨.error (foreign own id), .ofId id⟩, world) := by
  have hreach : world.remote.authority.reach own (.ofId id) =
      .error (.invalid s!"binding {id.display} does not belong to {own}") := by
    rw [Authority.reach, hcalm.connections]
    exact if_neg hforeign
  have hopening : (controller own settings).opening (.ofId id) world.remote =
      .error (foreign own id) := by
    simp only [Controller.opening, controller, connector, hreach]
    rfl
  rw [Controller.run_read, Controller.run_lookUp, hopening]

/-- The name of a binding whose resource and role merge is refused, as if
it were another's. -/
theorem Calm.run_adopt_merged (hcalm : world.remote.Calm) (settings : Settings)
    (hmerges : BindingId.Merges own role) :
    ((controller own settings).adopt
      (BindingId.display ⟨own, role⟩)).run world =
      (.error (foreign own ⟨own, role⟩), world) := by
  obtain ⟨hpredefined, outer, path, houter, hpath, rfl⟩ := hmerges
  have hforeign : outer ≠ outer ++ "/" ++ path := by
    intro hsame
    have hlength := congrArg List.length (congrArg String.toList hsame)
    rw [BindingId.toList_joined, List.length_append,
      List.length_cons] at hlength
    omega
  have hread := hcalm.run_read_foreign settings
    (show (BindingId.mk outer (path ++ "/" ++ role)).resource ≠ _ from hforeign)
  rw [Controller.run_adopt,
    BindingId.parse_display_merged houter hpath hpredefined]
  simp only [hread, foreign, BindingId.display_outer]

/-- What was created is adopted by its name, as long as its resource and its
role do not merge.  Otherwise its name is refused. -/
theorem adopt_created (hcalm : world.remote.Calm) (settings : Settings)
    (hown : own ≠ "")
    (hrole : BindingId.IsPredefined role ∨ BindingId.IsCustom role)
    (members : List String) :
    ∃ tracked created adopted final,
      ((controller own settings).create (.declare role members)).run world =
        (⟨.ok .present, tracked⟩, created) ∧
      tracked.id = some ⟨own, role⟩ ∧
      ((controller own settings).adopt (BindingId.display ⟨own, role⟩)).run
        created = (adopted, final) ∧
      (¬BindingId.Merges own role → adopted = .ok tracked) ∧
      (BindingId.Merges own role →
        adopted = .error (foreign own ⟨own, role⟩)) := by
  have hshape : BindingId.isRole role.toList = true :=
    BindingId.isRole_iff.2 hrole
  obtain ⟨entry, created, hentry, hcreate, hcreated⟩ :=
    hcalm.run_create own settings (BindingId.isEmpty_of_isRole hshape) members
  by_cases hmerges : BindingId.Merges own role
  · have hadopt := hcreated.run_adopt_merged settings hmerges
    exact ⟨_, created, _, _, hcreate, rfl, hadopt, fun hnot =>
      absurd hmerges hnot, fun _ => rfl⟩
  · obtain ⟨final, hadopt⟩ :=
      hcreated.run_adopt settings hown hshape hmerges hentry
    exact ⟨_, created, _, _, hcreate, rfl, hadopt, fun _ => rfl, fun hyes =>
      absurd hyes hmerges⟩

theorem adopt_created_viewer :
    ∃ tracked created final,
      ((controller "my-project").create
        (.declare "roles/viewer" ["user:a"])).run { remote := {} } =
        (⟨.ok .present, tracked⟩, created) ∧
      ((controller "my-project").adopt "my-project/roles/viewer").run created =
        (.ok tracked, final) := by
  have hrole : BindingId.IsPredefined "roles/viewer" :=
    ⟨"viewer", ⟨by decide, by decide⟩, rfl⟩
  have hmerges : ¬BindingId.Merges "my-project" "roles/viewer" := by
    rintro ⟨-, outer, path, -, -, hown⟩
    have hslash : '/' ∉ "my-project".toList := by decide
    rw [hown, BindingId.toList_joined] at hslash
    exact hslash (List.mem_append_right _ List.mem_cons_self)
  have hcalm : ({ remote := {} } : World Arena).remote.Calm := calm_default
  have hown : "my-project" ≠ "" := by decide
  obtain ⟨tracked, created, adopted, final, hcreate, -, hadopt, hsame, -⟩ :=
    adopt_created hcalm {} hown (.inl hrole) ["user:a"]
  rw [hsame hmerges] at hadopt
  exact ⟨tracked, created, final, hcreate, hadopt⟩

/-- A creation on a project that is addressed through its folder. -/
def nested : Report Presence × World Arena :=
  ((controller "folders/1/projects/p").create
    (.declare "roles/viewer" ["user:a"])).run
    { remote := {} }

/-- Not every binding that was created is adopted by its name. -/
theorem not_always_adopted :
    ¬∀ (own role : String) (members : List String) (world : World Arena)
        (tracked : Tracked) (created : World Arena), own ≠ "" →
      (BindingId.IsPredefined role ∨ BindingId.IsCustom role) →
      world.remote.Calm →
      ((controller own).create (.declare role members)).run world =
        (⟨.ok .present, tracked⟩, created) →
      ∃ id, tracked.id = some id ∧
        (((controller own).adopt id.display).run created).1 = .ok tracked := by
  intro hall
  have hrole : BindingId.IsPredefined "roles/viewer" :=
    ⟨"viewer", ⟨by decide, by decide⟩, rfl⟩
  have hresult : nested.1.result = .ok .present := by decide +kernel
  obtain ⟨id, hid, hadopt⟩ := hall "folders/1/projects/p"
    "roles/viewer" ["user:a"]
    { remote := {} } nested.1.state nested.2 (by decide)
      (.inl hrole) calm_default
    (Report.eq_of_result hresult)
  have hname : nested.1.state.id =
      some ⟨"folders/1/projects/p", "roles/viewer"⟩ := by
    decide +kernel
  rw [hname] at hid
  cases hid
  exact absurd hadopt (by decide +kernel)

end Arena

end AccessPolicy
