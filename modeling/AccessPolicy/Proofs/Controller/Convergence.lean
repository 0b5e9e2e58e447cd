import AccessPolicy.Proofs.Controller.Undisturbed

/-!
# Convergence of creations and updates

A creation keeps what others granted, so the plan behind it shows exactly their
members that are not declared.  An update to the declared members takes these
away and leaves nothing to do.  Both keep the access that other roles give.
This holds for every stored policy, also for one with several entries for the
role: the creation merges them, and the read behind it sees all of them.
-/

namespace AccessPolicy

/-- All members that some entry grants a role to. -/
def Policy.holders (policy : Policy) (role : String) : MemberSet :=
  .ofList ((policy.bindings.filter (·.role = role)).flatMap (·.members))

def Policy.accessBesides (policy : Policy) (role : String) :
    Set (String × String) :=
  {pair ∈ policy.access | pair.1 ≠ role}

theorem Policy.mem_holders {policy : Policy} {role member : String} :
    member ∈ policy.holders role ↔ member ∈ policy.granted role := by
  simp only [holders, MemberSet.mem_ofList, List.mem_flatMap, List.mem_filter,
    decide_eq_true_eq, and_assoc]
  exact Iff.rfl

section

variable {state : Tracked} {declaration : Declaration}

theorem Tracked.plan_eq_noChange (htracked : state.id.isSome)
    (hrole : state.role = declaration.role)
    (hsame : ∀ member, member ∈ state.members ↔ member ∈ declaration.members) :
    state.plan declaration = .noChange := by
  rw [plan_of_tracked htracked hrole]
  apply if_pos
  simp [MemberSet.isEmpty_iff, hsame]

/-- If all declared members were observed, the plan is to remove the others. -/
theorem Tracked.plan_eq_update (htracked : state.id.isSome)
    (hrole : state.role = declaration.role)
    (hdeclared :
      ∀ member, member ∈ declaration.members → member ∈ state.members)
    {other : String} (hother : other ∈ state.members)
    (hundeclared : ¬other ∈ declaration.members) :
    state.plan declaration =
      .update ∅ (state.members \ declaration.members) := by
  have hadded : declaration.members \ state.members = ∅ := by
    ext member
    simp only [MemberSet.mem_sdiff, MemberSet.not_mem_empty, iff_false,
      not_and_not_right]
    exact hdeclared member
  have hremoved : ¬(state.members \ declaration.members).isEmpty = true := by
    rw [MemberSet.isEmpty_iff]
    intro hnone
    exact hnone other (MemberSet.mem_sdiff.2 ⟨hother, hundeclared⟩)
  rw [plan_of_tracked htracked hrole, hadded, if_neg]
  simp [hremoved]

end

section

variable {before after : Policy} {declaration : Declaration} {entry : Binding}

/-- After a grant the role has one entry, with the members that it had and
the declared ones. -/
theorem Policy.mem_memberSet_granted
    (hafter : after.bindings = grantedBindings before.bindings declaration)
    (hentry : after.binding? declaration.role = some entry) {member : String} :
    member ∈ entry.memberSet ↔
      member ∈ before.holders declaration.role ∨
        member ∈ declaration.members := by
  have hsingle : after.roleCount declaration.role ≤ 1 := by
    apply roleCount_le_one_of_nodup
    rw [hafter]
    exact nodup_rolesOf_mergeBindings _
  have haccess : after.access = before.access ∪ declaration.access := by
    rw [access, hafter, accessOf_grantedBindings]
    rfl
  rw [mem_memberSet_iff hentry hsingle, mem_holders]
  calc
    member ∈ after.granted declaration.role ↔
        (declaration.role, member) ∈ before.access ∪ declaration.access := by
      rw [← haccess]
      exact Iff.rfl
    _ ↔
      member ∈ before.granted declaration.role ∨ member ∈ declaration.members :=
      or_congr Iff.rfl (by rw [Declaration.mem_access, eq_self, true_and])

/-- After an assignment the declared binding is found. -/
theorem Policy.binding?_assigned
    (hafter : after.bindings = assignedBindings declaration before.bindings) :
    after.binding? declaration.role = some declaration.toBinding := by
  rw [binding?, ← List.head?_filter, hafter, filter_assignedBindings]
  rfl

theorem Policy.accessBesides_granted
    (hafter : after.bindings = grantedBindings before.bindings declaration) :
    after.accessBesides declaration.role =
      before.accessBesides declaration.role := by
  ext ⟨role, member⟩
  simp only [accessBesides, access, hafter, accessOf_grantedBindings,
    Set.mem_ofPred_eq, Set.mem_union, Declaration.mem_access]
  tauto

theorem Policy.accessBesides_assigned
    (hafter : after.bindings = assignedBindings declaration before.bindings) :
    after.accessBesides declaration.role =
      before.accessBesides declaration.role := by
  ext ⟨role, member⟩
  simp only [accessBesides, access, hafter, accessOf_assignedBindings,
    Set.mem_ofPred_eq, Set.mem_union, Declaration.mem_access]
  tauto

end

namespace Arena

variable {world : World Arena} {role : String}

/-- On any stored policy, a creation succeeds, and the plan behind it removes
the members that the role was granted to before and that are not declared.  An
update to the declared members succeeds too: then the declared binding is the
only entry for the role, nothing is left to plan, and the state has the current
etag.  Neither call changes the access that other roles give. -/
theorem create_update_converge (hcalm : world.remote.Calm) (own : String)
    (settings : Settings) (hrole : role ≠ "") (members : List String) :
    let declaration : Declaration := ⟨role, .ofList members⟩
    let before := world.remote.authority.policy own
    ∃ created between updated final,
      ((controller own settings).create (.declare role members)).run world =
        (⟨.ok .present, created⟩, between) ∧
      ((∀ member, member ∈ before.holders role → member ∈ declaration.members) →
        created.plan declaration = .noChange) ∧
      ((∃ member, member ∈ before.holders role ∧
        ¬member ∈ declaration.members) →
        created.plan declaration =
          .update ∅ (before.holders role \ declaration.members)) ∧
      ((controller own settings).update (created.setMembers members)).run
        between = (⟨.ok .present, updated⟩, final) ∧
      (final.remote.authority.policy own).bindings.filter (·.role = role) =
        [declaration.toBinding] ∧
      updated.plan declaration = .noChange ∧
      updated.etag = some (final.remote.authority.policy own).etag ∧
      (between.remote.authority.policy own).accessBesides role =
        before.accessBesides role ∧
      (final.remote.authority.policy own).accessBesides role =
        before.accessBesides role := by
  intro declaration before
  have hopen : role.isEmpty = false := by simpa using hrole
  -- The creation finds the members that were granted before beside the
  -- declared ones.
  have hgrant : Rewrites (Policy.grant declaration)
      (Policy.grantedBindings · declaration) :=
    fun policy => ⟨(), Policy.grant_eq_ok declaration policy⟩
  have hfresh : (Tracked.declare role members).BelongsTo own := nofun
  obtain ⟨entry, between, hcreate, hbetween, hgranted, hentry⟩ :=
    hcalm.run_present settings (.declare role members) hopen hfresh hgrant
      fun _ => Policy.mem_rolesOf_grantedBindings.2 (.inr rfl)
  have hfound : ∀ member, member ∈ entry.memberSet ↔
      member ∈ before.holders role ∨ member ∈ declaration.members :=
    fun _ => Policy.mem_memberSet_granted hgranted hentry
  obtain rfl : entry.role = role := (Policy.binding?_eq_some hentry).2
  -- The update starts from the declared members and finds them alone.
  have hassign : Rewrites (Policy.assign declaration)
      (Policy.assignedBindings declaration) :=
    fun policy => ⟨(), Policy.assign_eq_ok declaration policy⟩
  obtain ⟨last, final, hupdate, -, hassigned, hlast⟩ :=
    hbetween.run_present settings
      ((((Tracked.declare entry.role members).setId
        ⟨own, entry.role⟩).observe entry
        (between.remote.authority.policy own).etag).setMembers members)
      hopen (.of_id rfl) hassign fun _ =>
        Policy.mem_rolesOf_assignedBindings.2 (.inr rfl)
  obtain rfl : declaration.toBinding = last :=
    Option.some.inj ((Policy.binding?_assigned hassigned).symm.trans hlast)
  have hbesides :
      (between.remote.authority.policy own).accessBesides declaration.role =
        before.accessBesides declaration.role :=
      Policy.accessBesides_granted hgranted
  refine ⟨_, between, _, final, hcreate, ?covered, ?drifted, hupdate, ?_, ?_,
    rfl, hbesides, ?_⟩
  case covered =>
    intro hdeclared
    apply Tracked.plan_eq_noChange rfl rfl
    intro member
    exact (hfound member).trans (or_iff_right_of_imp (hdeclared member))
  case drifted =>
    rintro ⟨other, hother, hundeclared⟩
    have hremoved : entry.memberSet \ declaration.members =
        before.holders entry.role \ declaration.members := by
      ext member
      simp only [MemberSet.mem_sdiff, hfound]
      tauto
    rw [← hremoved]
    exact Tracked.plan_eq_update rfl rfl
      (fun member hmember => (hfound member).2 (.inr hmember))
      ((hfound other).2 (.inl hother)) hundeclared
  · rw [hassigned]
    exact Policy.filter_assignedBindings declaration _
  · apply Tracked.plan_eq_noChange rfl rfl
    intro member
    exact Binding.mem_memberSet
  · exact (Policy.accessBesides_assigned hassigned).trans hbesides

/-- A world in which other writers stored two entries for one role, and
one for another. -/
def crowded : World Arena where
  remote.authority := Authority.write {} "projects/demo"
    [⟨"roles/viewer", ["user:b", "user:a"]⟩, ⟨"roles/editor", ["user:d"]⟩,
      ⟨"roles/viewer", ["user:c", "user:b"]⟩]

theorem create_update_converge_crowded :
    crowded.remote.Calm ∧ "roles/viewer" ≠ "" ∧
    ∃ created between updated final,
      ((controller "projects/demo").create
        (.declare "roles/viewer" ["user:a"])).run crowded =
        (⟨.ok .present, created⟩, between) ∧
      created.plan ⟨"roles/viewer", .ofList ["user:a"]⟩ =
        .update ∅ (.ofList ["user:c", "user:b"]) ∧
      ((controller "projects/demo").update (created.setMembers ["user:a"])).run
        between = (⟨.ok .present, updated⟩, final) ∧
      updated.plan ⟨"roles/viewer", .ofList ["user:a"]⟩ = .noChange := by
  have hcalm : crowded.remote.Calm := ⟨nofun, rfl, rfl, rfl⟩
  have hrole : "roles/viewer" ≠ "" := by decide
  obtain ⟨created, between, updated, final, hcreate, -, hdrifted, hupdate,
    -, hplan, -⟩ :=
    create_update_converge hcalm "projects/demo" {} hrole ["user:a"]
  have hremoved :
      (crowded.remote.authority.policy "projects/demo").holders "roles/viewer" \
        .ofList ["user:a"] = .ofList ["user:c", "user:b"] := by decide +kernel
  rw [hremoved] at hdrifted
  have hother : ∃ member,
      member ∈ (crowded.remote.authority.policy "projects/demo").holders
        "roles/viewer" ∧
        ¬member ∈ MemberSet.ofList ["user:a"] :=
    ⟨"user:b", by decide +kernel, by decide +kernel⟩
  exact ⟨hcalm, hrole, created, between, updated, final, hcreate,
    hdrifted hother, hupdate, hplan⟩

end Arena

end AccessPolicy
