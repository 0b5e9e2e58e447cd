import AccessPolicy.Plan
import AccessPolicy.Proofs.Policy.AccessRelation

/-!
# Plans are exact

A plan is decided by the identity of the state, then by its role, then by its
members.  The two sets of an update are determined by what one expects of them:
taking the one set away from the observed members and adding the other gives the
declared members, and no member is moved without need.  Where the observed
members are all that the role is granted to, an assignment of the declared ones
grants and revokes exactly what the plan says.
-/

namespace AccessPolicy

namespace MemberSet

variable {before after added removed : MemberSet}

/-- What is added and what is removed lead from one set to another one without
detours: there is something to do, nothing is both added and removed, nothing
is added that was there or does not stay, and nothing is removed that was not
there or comes back. -/
structure Leads (before after added removed : MemberSet) : Prop where
  proper : added ≠ ∅ ∨ removed ≠ ∅
  disjoint : ∀ member, member ∈ added → ¬member ∈ removed
  wanted : ∀ member, member ∈ added → member ∈ after
  missing : ∀ member, member ∈ added → ¬member ∈ before
  present : ∀ member, member ∈ removed → member ∈ before
  unwanted : ∀ member, member ∈ removed → ¬member ∈ after
  reaches : ∀ member, (member ∈ before ∧ ¬member ∈ removed) ∨ member ∈ added ↔
    member ∈ after

theorem isEmpty_iff_eq_empty {set : MemberSet} :
    set.isEmpty = true ↔ set = ∅ := by
  rw [isEmpty_iff]
  constructor
  · intro hnone
    ext member
    exact iff_of_false (hnone member) (not_mem_empty member)
  · rintro rfl
    exact not_mem_empty

/-- Only sets with the same members have no differences. -/
theorem sdiffs_eq_empty_iff :
    after \ before = ∅ ∧ before \ after = ∅ ↔ before = after := by
  rw [← isEmpty_iff_eq_empty, ← isEmpty_iff_eq_empty, isEmpty_iff, isEmpty_iff]
  simp only [mem_sdiff, not_and_not_right]
  constructor
  · rintro ⟨hbefore, hafter⟩
    ext member
    exact ⟨hafter member, hbefore member⟩
  · rintro rfl
    exact ⟨fun _ => id, fun _ => id⟩

theorem leads_sdiff (hne : before ≠ after) :
    Leads before after (after \ before) (before \ after) where
  proper := by
    rw [← not_and_or]
    exact fun hnone => hne (sdiffs_eq_empty_iff.1 hnone)
  disjoint member hadded hremoved :=
    (mem_sdiff.1 hadded).2 (mem_sdiff.1 hremoved).1
  wanted member hadded := (mem_sdiff.1 hadded).1
  missing member hadded := (mem_sdiff.1 hadded).2
  present member hremoved := (mem_sdiff.1 hremoved).1
  unwanted member hremoved := (mem_sdiff.1 hremoved).2
  reaches member := by
    simp only [mem_sdiff]
    tauto

/-- There is one way from a set to another one. -/
theorem Leads.eq_sdiff (hleads : Leads before after added removed) :
    added = after \ before ∧ removed = before \ after := by
  constructor
  · ext member
    rw [mem_sdiff]
    constructor
    · intro hadded
      exact ⟨hleads.wanted member hadded, hleads.missing member hadded⟩
    · rintro ⟨hafter, hbefore⟩
      exact ((hleads.reaches member).2 hafter).resolve_left fun hkept =>
        hbefore hkept.1
  · ext member
    rw [mem_sdiff]
    constructor
    · intro hremoved
      exact ⟨hleads.present member hremoved, hleads.unwanted member hremoved⟩
    · rintro ⟨hbefore, hafter⟩
      exact not_not.1 fun hkept =>
        hafter ((hleads.reaches member).1 (.inl ⟨hbefore, hkept⟩))

theorem leads_iff :
    Leads before after added removed ↔
      before ≠ after ∧ added = after \ before ∧ removed = before \ after := by
  constructor
  · intro hleads
    obtain ⟨hadded, hremoved⟩ := hleads.eq_sdiff
    refine ⟨?_, hadded, hremoved⟩
    intro hsame
    obtain ⟨hnone, hnone'⟩ := sdiffs_eq_empty_iff.2 hsame
    exact hleads.proper.elim
      (· (hadded.trans hnone)) (· (hremoved.trans hnone'))
  · rintro ⟨hne, rfl, rfl⟩
    exact leads_sdiff hne

end MemberSet

/-! ## The four plans -/

namespace Tracked

variable {state : Tracked} {declaration : Declaration}

theorem plan_of_untracked (huntracked : state.id = none) :
    state.plan declaration = .create := by
  rw [plan, huntracked]
  rfl

theorem plan_of_role_ne (htracked : state.id.isSome)
    (hrole : state.role ≠ declaration.role) :
    state.plan declaration = .replace state.role declaration.role := by
  rw [plan, Option.isNone_eq_false_iff.2 htracked, if_neg Bool.false_ne_true,
    if_pos hrole]

theorem plan_of_tracked (htracked : state.id.isSome)
    (hrole : state.role = declaration.role) :
    state.plan declaration =
      if (declaration.members \ state.members).isEmpty &&
          (state.members \ declaration.members).isEmpty then .noChange
      else .update (declaration.members \ state.members)
        (state.members \ declaration.members) := by
  rw [plan, Option.isNone_eq_false_iff.2 htracked, if_neg Bool.false_ne_true,
    if_neg (not_not.2 hrole)]

/-- A plan is decided by the identity of the state, then by its role,
then by its members. -/
theorem plan_cases (state : Tracked) (declaration : Declaration) :
    (state.id = none ∧ state.plan declaration = .create) ∨
    (state.id ≠ none ∧ state.role ≠ declaration.role ∧
      state.plan declaration = .replace state.role declaration.role) ∨
    (state.id ≠ none ∧ state.role = declaration.role ∧
      state.members = declaration.members ∧
      state.plan declaration = .noChange) ∨
    (state.id ≠ none ∧ state.role = declaration.role ∧
      state.members ≠ declaration.members ∧
      state.plan declaration =
        .update (declaration.members \ state.members)
          (state.members \ declaration.members)) := by
  by_cases hid : state.id = none
  · exact .inl ⟨hid, plan_of_untracked hid⟩
  have htracked : state.id.isSome := Option.isSome_iff_ne_none.2 hid
  by_cases hrole : state.role = declaration.role
  · have hplan := plan_of_tracked htracked hrole
    simp only [Bool.and_eq_true, MemberSet.isEmpty_iff_eq_empty,
      MemberSet.sdiffs_eq_empty_iff]
      at hplan
    by_cases hmembers : state.members = declaration.members
    · rw [if_pos hmembers] at hplan
      exact .inr (.inr (.inl ⟨hid, hrole, hmembers, hplan⟩))
    · rw [if_neg hmembers] at hplan
      exact .inr (.inr (.inr ⟨hid, hrole, hmembers, hplan⟩))
  · exact .inr (.inl ⟨hid, hrole, plan_of_role_ne htracked hrole⟩)

theorem plan_eq_create_iff :
    state.plan declaration = .create ↔ state.id = none := by
  obtain ⟨hid, hplan⟩ | ⟨hid, -, hplan⟩ | ⟨hid, -, -, hplan⟩ |
      ⟨hid, -, -, hplan⟩ :=
    state.plan_cases declaration
  all_goals simp [hplan, hid]

theorem plan_eq_replace_iff {tracked declared : String} :
    state.plan declaration = .replace tracked declared ↔
      state.id ≠ none ∧ state.role ≠ declaration.role ∧
        tracked = state.role ∧ declared = declaration.role := by
  obtain ⟨hid, hplan⟩ | ⟨hid, hrole, hplan⟩ | ⟨-, hrole, -, hplan⟩ |
      ⟨-, hrole, -, hplan⟩ :=
    state.plan_cases declaration
  · simp [hplan, hid]
  · simp [hplan, hid, hrole, eq_comm]
  all_goals simp [hplan, hrole]

theorem plan_eq_noChange_iff :
    state.plan declaration = .noChange ↔
      state.id ≠ none ∧ state.role = declaration.role ∧
        state.members = declaration.members := by
  obtain ⟨hid, hplan⟩ | ⟨-, hrole, hplan⟩ | ⟨hid, hrole, hmembers, hplan⟩ |
      ⟨-, -, hmembers, hplan⟩ := state.plan_cases declaration
  · simp [hplan, hid]
  · simp [hplan, hrole]
  · simp [hplan, hid, hrole, hmembers]
  · simp [hplan, hmembers]

theorem plan_eq_update_iff {added removed : MemberSet} :
    state.plan declaration = .update added removed ↔
      state.id ≠ none ∧ state.role = declaration.role ∧
        MemberSet.Leads state.members declaration.members added removed := by
  rw [MemberSet.leads_iff]
  obtain ⟨hid, hplan⟩ | ⟨-, hrole, hplan⟩ | ⟨-, -, hmembers, hplan⟩ |
      ⟨hid, hrole, hmembers, hplan⟩ := state.plan_cases declaration
  · simp [hplan, hid]
  · simp [hplan, hrole]
  · simp [hplan, hmembers]
  · simp [hplan, hid, hrole, hmembers, eq_comm]

end Tracked

namespace Policy

variable {policy : Policy} {declaration : Declaration} {entry : Binding}

/-- A role is granted to the members of its only entry. -/
theorem mem_access_of_only {role member : String}
    (honly : policy.bindings.filter (·.role = role) = [entry]) :
    (role, member) ∈ policy.access ↔ member ∈ entry.memberSet := by
  have hentries : ∀ other, other ∈ policy.bindings ∧ other.role = role ↔
      other = entry := by
    intro other
    rw [← List.mem_singleton (b := entry), ← honly, List.mem_filter,
      decide_eq_true_eq]
  rw [Binding.mem_memberSet]
  constructor
  · rintro ⟨other, hother, hsame, hmember⟩
    rwa [← (hentries other).1 ⟨hother, hsame⟩]
  · intro hmember
    obtain ⟨hentry, hsame⟩ := (hentries entry).2 rfl
    exact ⟨entry, hentry, hsame, hmember⟩

/-- An assignment grants and revokes what separates the only entry for the role
from the declared members, and nothing for any other role. -/
theorem access_assigned_of_only
    (honly : policy.bindings.filter (·.role = declaration.role) = [entry]) :
    ∃ assigned, assign declaration policy = .ok ((), assigned) ∧
      assigned.access \ policy.access =
        {declaration.role} ×ˢ
          {member | member ∈ declaration.members \ entry.memberSet} ∧
      policy.access \ assigned.access =
        {declaration.role} ×ˢ
          {member | member ∈ entry.memberSet \ declaration.members} := by
  have hheld : ∀ member, (declaration.role, member) ∈ policy.access ↔
      member ∈ entry.memberSet :=
    fun _ => mem_access_of_only honly
  have hassigned :
      access { policy with
        bindings := assignedBindings declaration policy.bindings } =
      {pair ∈ policy.access | pair.1 ≠ declaration.role} ∪ declaration.access :=
    accessOf_assignedBindings declaration policy.bindings
  refine ⟨_, assign_eq_ok declaration policy, Set.ext ?granted,
    Set.ext ?revoked⟩
  -- For the role, only the two sets of members count; for any other one,
  -- nothing changes.
  all_goals
    rintro ⟨role, member⟩
    rw [hassigned]
    by_cases hrole : role = declaration.role
    · subst hrole
      simp [hheld, Declaration.mem_access]
    · simp [hrole, Declaration.mem_access]

end Policy

/-- A plan is exact.  It is to create exactly the bindings that are not tracked,
to replace exactly the tracked ones whose role differs, and to do nothing
exactly where role and members agree.  In all other cases it is an update, with
the one pair of sets that leads from the observed members to the declared ones.
If the observed members are those of the only entry for the role, then carrying
out an update by an assignment grants exactly what the plan adds and revokes
exactly what it removes, for this role and every other one. -/
theorem plan_exact (state : Tracked) (declaration : Declaration) :
    (state.plan declaration = .create ↔ state.id = none) ∧
    (∀ tracked declared, state.plan declaration = .replace tracked declared ↔
      state.id ≠ none ∧ state.role ≠ declaration.role ∧
        tracked = state.role ∧ declared = declaration.role) ∧
    (state.plan declaration = .noChange ↔
      state.id ≠ none ∧ state.role = declaration.role ∧
        state.members = declaration.members) ∧
    ((∃ added removed, state.plan declaration = .update added removed) ↔
      state.id ≠ none ∧ state.role = declaration.role ∧
        state.members ≠ declaration.members) ∧
    (∀ added removed, state.plan declaration = .update added removed ↔
      state.id ≠ none ∧ state.role = declaration.role ∧
        MemberSet.Leads state.members declaration.members added removed) ∧
    ∀ added removed, state.plan declaration = .update added removed →
      ∀ (policy : Policy) (entry : Binding),
        policy.bindings.filter (·.role = declaration.role) = [entry] →
        entry.memberSet = state.members →
        ∃ assigned, Policy.assign declaration policy = .ok ((), assigned) ∧
          assigned.access \ policy.access =
            {declaration.role} ×ˢ {member | member ∈ added} ∧
          policy.access \ assigned.access =
            {declaration.role} ×ˢ {member | member ∈ removed} := by
  refine ⟨Tracked.plan_eq_create_iff, fun _ _ => Tracked.plan_eq_replace_iff,
    Tracked.plan_eq_noChange_iff, ?otherwise, fun _ _ =>
      Tracked.plan_eq_update_iff, ?effect⟩
  case otherwise =>
    constructor
    · rintro ⟨added, removed, hplan⟩
      obtain ⟨hid, hrole, hleads⟩ := Tracked.plan_eq_update_iff.1 hplan
      exact ⟨hid, hrole, (MemberSet.leads_iff.1 hleads).1⟩
    · rintro ⟨hid, hrole, hmembers⟩
      exact ⟨_, _, Tracked.plan_eq_update_iff.2
        ⟨hid, hrole, MemberSet.leads_sdiff hmembers⟩⟩
  case effect =>
    intro added removed hplan policy entry honly hobserved
    obtain ⟨-, -, hleads⟩ := Tracked.plan_eq_update_iff.1 hplan
    obtain ⟨rfl, rfl⟩ := hleads.eq_sdiff
    rw [← hobserved]
    exact Policy.access_assigned_of_only honly

def observedViewers : Tracked where
  id := some ⟨"projects/demo", "roles/viewer"⟩
  role := "roles/viewer"
  members := .ofList ["user:a", "user:b"]

def declaredViewers : Declaration :=
  ⟨"roles/viewer", .ofList ["user:c", "user:b"]⟩

/-- A policy in which it stands, and in which the member that is to go has
another role too. -/
def storedViewers : Policy where
  bindings := [⟨"roles/editor", ["user:a"]⟩,
    ⟨"roles/viewer", ["user:b", "user:a", "user:b"]⟩]

theorem plan_exact_viewers :
    observedViewers.plan declaredViewers =
      .update (.ofList ["user:c"]) (.ofList ["user:a"]) ∧
      storedViewers.bindings.filter (·.role = declaredViewers.role) =
        [⟨"roles/viewer", ["user:b", "user:a", "user:b"]⟩] ∧
      Binding.memberSet ⟨"roles/viewer", ["user:b", "user:a", "user:b"]⟩ =
        observedViewers.members ∧
      ∃ assigned,
        Policy.assign declaredViewers storedViewers = .ok ((), assigned) ∧
        assigned.access \ storedViewers.access =
          {"roles/viewer"} ×ˢ {member | member ∈ MemberSet.ofList ["user:c"]} ∧
        storedViewers.access \ assigned.access =
          {"roles/viewer"} ×ˢ
            {member | member ∈ MemberSet.ofList ["user:a"]} := by
  have hplan : observedViewers.plan declaredViewers =
      .update (.ofList ["user:c"]) (.ofList ["user:a"]) := by decide +kernel
  have honly : storedViewers.bindings.filter (·.role = declaredViewers.role) =
      [⟨"roles/viewer", ["user:b", "user:a", "user:b"]⟩] := by decide +kernel
  have hobserved :
      Binding.memberSet ⟨"roles/viewer", ["user:b", "user:a", "user:b"]⟩ =
        observedViewers.members := by decide +kernel
  obtain ⟨-, -, -, -, -, heffect⟩ := plan_exact observedViewers declaredViewers
  exact ⟨hplan, honly, hobserved,
    heffect _ _ hplan storedViewers _ honly hobserved⟩

end AccessPolicy
