import AccessPolicy.Proofs.Arena.Calm
import AccessPolicy.Proofs.Controller.Ending
import AccessPolicy.Proofs.Plan

/-!
# Drift that a plan shows

A plan compares a declaration with the members that were last observed, and a
read observes the first entry for the role.  What further entries grant is
not observed, so the plan covers the whole drift exactly if they grant
nothing that is neither in the first entry nor declared.  This is so when the
role has a single entry, as after every change made here, but not whatever
another writer leaves.
-/

namespace AccessPolicy

def Policy.granted (policy : Policy) (role : String) : Set String :=
  {member | (role, member) ∈ policy.access}

/-- A plan for a tracked binding leaves no difference between what is granted
and what is declared unmentioned. -/
def Plan.Covers (granted : Set String) (declared : MemberSet) : Plan → Prop
  | .noChange => ∀ member, member ∈ granted ↔ member ∈ declared
  | .update added removed =>
    (∀ member ∈ granted, ¬member ∈ declared → member ∈ removed) ∧
      ∀ member, member ∈ declared → member ∉ granted → member ∈ added
  | .create | .replace _ _ => False

variable {state : Tracked} {declaration : Declaration} {granted : Set String}

/-- If what was observed is granted, the plan covers the drift exactly if
everything that is granted was observed or is declared. -/
theorem Tracked.covers_plan_iff (htracked : state.id.isSome)
    (hrole : state.role = declaration.role)
    (hobserved : ∀ member, member ∈ state.members → member ∈ granted) :
    (state.plan declaration).Covers granted declaration.members ↔
      ∀ member ∈ granted, member ∈ state.members ∨
        member ∈ declaration.members := by
  rw [plan_of_tracked htracked hrole]
  by_cases hsame : ((declaration.members \ state.members).isEmpty &&
    (state.members \ declaration.members).isEmpty) = true
  · rw [if_pos hsame]
    simp only [Bool.and_eq_true, MemberSet.isEmpty_iff, MemberSet.mem_sdiff,
      not_and_not_right]
      at hsame
    obtain ⟨hadded, hremoved⟩ := hsame
    constructor
    · intro hcovers member hmember
      exact .inr ((hcovers member).1 hmember)
    · intro hknown member
      constructor
      · intro hmember
        obtain hstate | hdeclared := hknown member hmember
        · exact hremoved member hstate
        · exact hdeclared
      · intro hmember
        exact hobserved member (hadded member hmember)
  · rw [if_neg hsame]
    constructor
    · rintro ⟨hremoved, -⟩ member hmember
      by_cases hdeclared : member ∈ declaration.members
      · exact .inr hdeclared
      · exact .inl (MemberSet.mem_sdiff.1 (hremoved member hmember hdeclared)).1
    · intro hknown
      constructor
      · intro member hmember hdeclared
        apply MemberSet.mem_sdiff.2
        exact ⟨(hknown member hmember).resolve_right hdeclared, hdeclared⟩
      · intro member hmember hgranted
        apply MemberSet.mem_sdiff.2
        exact ⟨hmember, fun hstate => hgranted (hobserved member hstate)⟩

/-- The first entry for a role grants no more than the policy does. -/
theorem Policy.granted_of_binding? {policy : Policy} {role member : String}
    {entry : Binding} (hentry : policy.binding? role = some entry)
    (hmember : member ∈ entry.members) : member ∈ policy.granted role := by
  obtain ⟨hmem, hsame⟩ := binding?_eq_some hentry
  exact ⟨entry, hmem, hsame, hmember⟩

/-- A single entry grants all that the policy does. -/
theorem Policy.mem_of_granted {policy : Policy} {role member : String}
    {entry : Binding} (hentry : policy.binding? role = some entry)
    (hsingle : policy.roleCount role ≤ 1)
    (hmember : member ∈ policy.granted role) : member ∈ entry.members := by
  obtain ⟨other, hother, hsame, hmember⟩ := hmember
  obtain ⟨hfound, before, after, hbindings, -⟩ :=
    List.find?_eq_some_iff_append.1 hentry
  rw [roleCount, hbindings, List.countP_append, List.countP_cons,
    if_pos hfound] at hsingle
  have hbefore : before.countP (·.role = role) = 0 := by omega
  have hafter : after.countP (·.role = role) = 0 := by omega
  rw [hbindings] at hother
  obtain hother | hother := List.mem_append.1 hother
  · exact absurd (decide_eq_true hsame)
      (List.countP_eq_zero.1 hbefore other hother)
  · obtain rfl | hother := List.mem_cons.1 hother
    · exact hmember
    · exact absurd (decide_eq_true hsame)
        (List.countP_eq_zero.1 hafter other hother)

namespace Arena

/-- A read that finds the role observes its first entry in the policy
that was fetched. -/
theorem read_present {own : String} {settings : Settings}
    {state tracked : Tracked} {world final : World Arena}
    (hrun : ((controller own settings).read state).run world =
      (⟨.ok .present, tracked⟩, final)) :
    ∃ entry, (world.remote.offered own).binding? state.role = some entry ∧
      tracked = state.observe entry (world.remote.offered own).etag := by
  rw [Controller.run_read, Controller.run_lookUp] at hrun
  obtain ⟨error, hopening, -⟩ | ⟨-, hopening⟩ :=
    opening_cases own settings state world.remote
  · rw [hopening] at hrun
    cases hrun
  · rw [hopening] at hrun
    obtain ⟨cause, -, hfetch⟩ | ⟨-, hfetch⟩ :=
      run_fetchPolicy_cases own (controller own settings).settings world
    · simp only [hfetch] at hrun
      cases hrun
    · simp only [hfetch, Controller.fst_observation] at hrun
      have hreport := congrArg Prod.fst hrun
      simp only [Policy.found] at hreport
      cases hentry : (world.remote.offered own).binding? state.role with
      | none =>
          rw [hentry] at hreport
          cases hreport
      | some entry =>
          rw [hentry] at hreport
          cases hreport
          exact ⟨entry, rfl, rfl⟩

/-- After a read the plan for a tracked binding covers the drift exactly if all
members that the role is granted to stand in its first entry or are declared.
With a single entry it always does. -/
theorem plan_covers_drift (own : String) (settings : Settings)
    {state tracked : Tracked} {world final : World Arena}
    {declaration : Declaration}
    (hrun : ((controller own settings).read state).run world =
      (⟨.ok .present, tracked⟩, final))
    (htracked : state.id.isSome)
    (hrole : declaration.role = state.role) :
    ∃ entry, (world.remote.offered own).binding? state.role = some entry ∧
      ((tracked.plan declaration).Covers
        ((world.remote.offered own).granted state.role)
          declaration.members ↔
        ∀ member ∈ (world.remote.offered own).granted state.role,
          member ∈ entry.members ∨ member ∈ declaration.members) ∧
      ((world.remote.offered own).roleCount state.role ≤ 1 →
        (tracked.plan declaration).Covers
          ((world.remote.offered own).granted state.role)
          declaration.members) := by
  obtain ⟨entry, hentry, rfl⟩ := read_present hrun
  have hsame : entry.role = declaration.role :=
    (Policy.binding?_eq_some hentry).2.trans hrole.symm
  have hcovers := Tracked.covers_plan_iff
    (show (state.observe entry (world.remote.offered own).etag).id.isSome
      from htracked) hsame
    (fun member hmember =>
      Policy.granted_of_binding? hentry (Binding.mem_memberSet.1 hmember))
  simp only [Tracked.observe, Binding.mem_memberSet] at hcovers
  refine ⟨entry, hentry, hcovers, ?_⟩
  intro hsingle
  apply hcovers.2
  intro member hmember
  exact .inl (Policy.mem_of_granted hentry hsingle hmember)

def viewed (entries : List (List String)) : World Arena where
  remote.authority := Authority.write {} "projects/demo"
    (entries.map fun members => ⟨"roles/viewer", members⟩)

def viewer : Tracked where
  id := some ⟨"projects/demo", "roles/viewer"⟩
  role := "roles/viewer"
  members := .ofList ["user:a"]

def viewing (entries : List (List String)) : Report Presence × World Arena :=
  ((controller "projects/demo").read viewer).run (viewed entries)

theorem plan_covers_drift_viewing :
    (viewing [["user:a", "user:b"]]).1.result = .ok .present ∧
      ((viewing [["user:a", "user:b"]]).1.state.plan
        ⟨"roles/viewer", .ofList ["user:a"]⟩).Covers
        (((viewed [["user:a", "user:b"]]).remote.offered
          "projects/demo").granted "roles/viewer")
        (.ofList ["user:a"]) := by
  have hresult : (viewing [["user:a", "user:b"]]).1.result = .ok .present := by
    decide +kernel
  have hdeclared : (Declaration.mk "roles/viewer" (.ofList ["user:a"])).role =
      viewer.role := rfl
  obtain ⟨entry, hentry, -, hsingle⟩ :=
    plan_covers_drift "projects/demo" {}
      (Report.eq_of_result hresult) rfl hdeclared
  exact ⟨hresult, hsingle (by decide +kernel)⟩

/-- A plan does not always cover the drift: of two entries the second
one is not observed. -/
theorem plan_misses_drift :
    ¬∀ (own : String) (state tracked : Tracked) (world final : World Arena)
      (declaration : Declaration), state.role ≠ "" → state.id.isSome →
      declaration.role = state.role →
      ((controller own).read state).run world =
        (⟨.ok .present, tracked⟩, final) →
      (tracked.plan declaration).Covers
        ((world.remote.offered own).granted state.role)
        declaration.members := by
  intro hall
  have hresult : (viewing [["user:a"], ["user:b"]]).1.result =
      .ok .present := by decide +kernel
  have hcovers := hall "projects/demo" viewer
    (viewing [["user:a"], ["user:b"]]).1.state _ _
    ⟨"roles/viewer", .ofList ["user:a"]⟩ (by decide) rfl rfl
      (Report.eq_of_result hresult)
  have hplan : (viewing [["user:a"], ["user:b"]]).1.state.plan
      ⟨"roles/viewer", .ofList ["user:a"]⟩ = .noChange := by decide +kernel
  rw [hplan] at hcovers
  have hgranted : "user:b" ∈
      ((viewed [["user:a"], ["user:b"]]).remote.offered "projects/demo").granted
        "roles/viewer" :=
    ⟨⟨"roles/viewer", ["user:b"]⟩, by decide +kernel, rfl,
      List.mem_singleton_self _⟩
  exact absurd ((hcovers "user:b").1 hgranted) (by decide +kernel)

end Arena

end AccessPolicy
