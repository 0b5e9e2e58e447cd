import AccessPolicy.Proofs.Policy.AccessRelation

/-!
# Policies with one entry for each role

A policy has unique roles if no two of its entries are for one role.  Each of
the three changes keeps this, so that on such a policy the entry for a role
holds all that the policy says about it.  On other policies they differ:
granting merges all entries, while assigning and revoking see to their own role
and leave the entries for the others as they are.
-/

namespace AccessPolicy

namespace Policy

theorem rolesFresh_iff {seen : List String} {bindings : List Binding} :
    rolesFresh seen bindings = true ↔
      (rolesOf bindings).Nodup ∧ ∀ role ∈ rolesOf bindings, role ∉ seen := by
  induction bindings generalizing seen with
  | nil => simp [rolesFresh]
  | cons head tail ih =>
      simp only [rolesFresh, Bool.and_eq_true, decide_eq_true_eq, ih,
        rolesOf_cons, List.nodup_cons, List.mem_cons, not_or, forall_eq_or_imp]
      constructor
      · rintro ⟨hhead, hnodup, hfresh⟩
        refine ⟨⟨fun hmem => (hfresh _ hmem).1 rfl, hnodup⟩, hhead, ?_⟩
        intro role hrole
        exact (hfresh role hrole).2
      · rintro ⟨⟨hhead, hnodup⟩, hseen, hfresh⟩
        refine ⟨hseen, hnodup, ?_⟩
        intro role hrole
        refine ⟨?_, hfresh role hrole⟩
        rintro rfl
        exact hhead hrole

/-- The check of a whole policy passes exactly if no role occurs twice. -/
theorem hasUniqueRoles_iff {policy : Policy} :
    policy.hasUniqueRoles = true ↔ (rolesOf policy.bindings).Nodup := by
  rw [hasUniqueRoles, rolesFresh_iff]
  simp

theorem roleCount_le_one_of_nodup {policy : Policy}
    (hnodup : (rolesOf policy.bindings).Nodup) (role : String) :
    policy.roleCount role ≤ 1 := by
  rw [roleCount_eq_count]
  exact List.nodup_iff_count_le_one.1 hnodup role

theorem roleCount_eq_zero_iff {policy : Policy} {role : String} :
    policy.roleCount role = 0 ↔ role ∉ policy.roles := by
  rw [roleCount_eq_count]
  exact List.count_eq_zero

/-- A role is found exactly if it has an entry. -/
theorem binding?_eq_none_iff {policy : Policy} {role : String} :
    policy.binding? role = none ↔ role ∉ policy.roles := by
  constructor
  · intro hnone hrole
    obtain ⟨entry, hentry⟩ := exists_binding? hrole
    rw [hnone] at hentry
    cases hentry
  · intro hrole
    cases hentry : policy.binding? role with
    | none => rfl
    | some entry =>
        obtain ⟨hmem, hsame⟩ := binding?_eq_some hentry
        exact absurd (mem_rolesOf.2 ⟨entry, hmem, hsame⟩) hrole

/-- The entry that is found for a role is the first one. -/
theorem binding?_eq_some_iff {policy : Policy} {role : String}
    {entry : Binding} :
    policy.binding? role = some entry ↔
      ∃ before after, policy.bindings = before ++ entry :: after ∧
        role ∉ rolesOf before ∧
        entry.role = role := by
  have hskipped : ∀ before : List Binding,
      (∀ earlier ∈ before, (!decide (earlier.role = role)) = true) ↔
        role ∉ rolesOf before := by
    intro before
    simp only [mem_rolesOf, not_exists, not_and, Bool.not_eq_true',
      decide_eq_false_iff_not]
  rw [binding?, List.find?_eq_some_iff_append, decide_eq_true_eq]
  constructor
  · rintro ⟨hrole, before, after, hsplit, hbefore⟩
    exact ⟨before, after, hsplit, (hskipped before).1 hbefore, hrole⟩
  · rintro ⟨before, after, hsplit, hbefore, hrole⟩
    exact ⟨hrole, before, after, hsplit, (hskipped before).2 hbefore⟩

theorem nodup_rolesOf_revokedBindings {bindings : List Binding}
    (hnodup : (rolesOf bindings).Nodup) (role : String) :
    (rolesOf (revokedBindings role bindings)).Nodup :=
  hnodup.sublist (List.filter_sublist.map _)

theorem nodup_rolesOf_assignedBindings {bindings : List Binding}
    (hnodup : (rolesOf bindings).Nodup) (declaration : Declaration) :
    (rolesOf (assignedBindings declaration bindings)).Nodup := by
  induction bindings with
  | nil => exact List.nodup_singleton _
  | cons head tail ih =>
      obtain ⟨hhead, htail⟩ := List.nodup_cons.1 hnodup
      rw [assignedBindings]
      by_cases hrole : head.role = declaration.role
      · rw [if_pos hrole]
        exact List.nodup_cons.2
          ⟨not_mem_rolesOf_revokedBindings declaration.role tail,
            nodup_rolesOf_revokedBindings htail declaration.role⟩
      · rw [if_neg hrole]
        refine List.nodup_cons.2 ⟨?_, ih htail⟩
        intro hmem
        exact (mem_rolesOf_assignedBindings.1 hmem).elim hhead hrole

def DistinctBesides (policy : Policy) (role : String) : Prop :=
  (policy.bindings.filter (·.role ≠ role)).Pairwise (·.role ≠ ·.role)

theorem distinctBesides_iff {policy : Policy} {role : String} :
    policy.DistinctBesides role ↔
      ((rolesOf policy.bindings).filter (· ≠ role)).Nodup := by
  rw [← rolesOf_revokedBindings, List.Nodup, rolesOf, List.pairwise_map]
  exact Iff.rfl

/-- Where a role has one entry at most, the other entries decide whether
roles are unique. -/
theorem hasUniqueRoles_iff_distinctBesides {policy : Policy} {role : String}
    (hcount : policy.roleCount role ≤ 1) :
    policy.hasUniqueRoles = true ↔ policy.DistinctBesides role := by
  rw [hasUniqueRoles_iff, distinctBesides_iff]
  rw [roleCount_eq_count] at hcount
  constructor
  · exact fun hnodup => hnodup.filter _
  · intro hothers
    apply List.nodup_iff_count_le_one.2
    intro other
    by_cases hother : other = role
    · rwa [hother]
    · have hkept : ((rolesOf policy.bindings).filter (· ≠ role)).count other =
          (rolesOf policy.bindings).count other :=
        List.count_filter (decide_eq_true hother)
      rw [← hkept]
      exact List.nodup_iff_count_le_one.1 hothers other

/-- Dropping the entries for a role is all that an assignment does to the
list of the others. -/
theorem revokedBindings_assignedBindings (declaration : Declaration)
    (bindings : List Binding) :
    revokedBindings declaration.role (assignedBindings declaration bindings) =
      revokedBindings declaration.role bindings := by
  induction bindings with
  | nil => simp [assignedBindings, revokedBindings, Declaration.toBinding]
  | cons head tail ih =>
      simp only [revokedBindings] at ih ⊢
      rw [assignedBindings]
      by_cases hrole : head.role = declaration.role
      · simp [hrole, Declaration.toBinding]
      · simp only [if_neg hrole, List.filter_cons, ih]

/-- After an assignment the declared binding is the only entry for its role. -/
theorem filter_assignedBindings (declaration : Declaration)
    (bindings : List Binding) :
    (assignedBindings declaration bindings).filter (·.role = declaration.role) =
      [declaration.toBinding] := by
  have hdeclared : declaration.toBinding.role = declaration.role := rfl
  induction bindings with
  | nil => simp [assignedBindings, hdeclared]
  | cons head tail ih =>
      rw [assignedBindings]
      by_cases hrole : head.role = declaration.role
      · simp [hrole, hdeclared, List.filter_filter]
      · rw [if_neg hrole, List.filter_cons_of_neg (by simp [hrole]), ih]

/-- Granting makes roles unique and drops repetitions of members,
whatever the policy was. -/
theorem grant_unique (declaration : Declaration) (policy : Policy) :
    ∃ granted, grant declaration policy = .ok ((), granted) ∧
      granted.hasUniqueRoles = true ∧
      ∀ entry ∈ granted.bindings, entry.members.Nodup :=
  ⟨_, grant_eq_ok declaration policy,
    hasUniqueRoles_iff.2 (nodup_rolesOf_mergeBindings _),
    nodup_members_mergeBindings _⟩

/-- Assigning makes its own role unique, and no other. -/
theorem assign_unique (declaration : Declaration) (policy : Policy) :
    ∃ assigned, assign declaration policy = .ok ((), assigned) ∧
      assigned.roleCount declaration.role = 1 ∧
      (assigned.hasUniqueRoles = true ↔
        policy.DistinctBesides declaration.role) := by
  have hcount : roleCount
      { policy with bindings := assignedBindings declaration policy.bindings }
        declaration.role = 1 := by
    rw [roleCount_eq_count, count_rolesOf_assignedBindings]
  refine ⟨_, assign_eq_ok declaration policy, hcount, ?_⟩
  rw [hasUniqueRoles_iff_distinctBesides hcount.le, distinctBesides_iff,
    distinctBesides_iff, ← rolesOf_revokedBindings, ← rolesOf_revokedBindings,
    revokedBindings_assignedBindings]

/-- Revoking drops its own role, and makes no other unique. -/
theorem revoke_unique (role : String) (policy : Policy) :
    ∃ entries revoked, revoke role policy = .ok (entries, revoked) ∧
      revoked.roleCount role = 0 ∧
      (revoked.hasUniqueRoles = true ↔ policy.DistinctBesides role) := by
  have hdropped := not_mem_rolesOf_revokedBindings role policy.bindings
  refine ⟨_, _, revoke_eq_ok role policy, roleCount_eq_zero_iff.2 hdropped, ?_⟩
  rw [hasUniqueRoles_iff, distinctBesides_iff, rolesOf_revokedBindings]

end Policy

end AccessPolicy
