import AccessPolicy.Proofs.Policy.Merging
import Mathlib.Data.Set.Prod

/-!
# Access that a policy gives

What a policy means to its readers is a relation: which members hold which
roles.  Several entries for a role, repeated members and entries without members
make no difference to it.  The three changes of a policy are described by what
they do to this relation and to the set of roles that have an entry, whatever
other writers left in the policy.
-/

namespace AccessPolicy

/-- The pairs of a role and a member that some entry grants. -/
def accessOf (bindings : List Binding) : Set (String × String) :=
  {pair | ∃ entry ∈ bindings, entry.role = pair.1 ∧ pair.2 ∈ entry.members}

namespace Policy

def access (policy : Policy) : Set (String × String) :=
  accessOf policy.bindings

/-- The roles that have an entry, with or without members. -/
def roles (policy : Policy) : Set String :=
  {role | role ∈ rolesOf policy.bindings}

end Policy

def Declaration.access (declaration : Declaration) : Set (String × String) :=
  {declaration.role} ×ˢ {member | member ∈ declaration.members}

theorem mem_accessOf {bindings : List Binding} {role member : String} :
    (role, member) ∈ accessOf bindings ↔
      ∃ entry ∈ bindings, entry.role = role ∧ member ∈ entry.members :=
  Iff.rfl

theorem Declaration.mem_access {declaration : Declaration}
    {role member : String} :
    (role, member) ∈ declaration.access ↔
      role = declaration.role ∧ member ∈ declaration.members :=
  Iff.rfl

@[simp]
theorem accessOf_nil : accessOf [] = ∅ := by
  ext pair
  simp [accessOf]

@[simp]
theorem accessOf_append (first second : List Binding) :
    accessOf (first ++ second) = accessOf first ∪ accessOf second := by
  ext ⟨role, member⟩
  simp only [mem_accessOf, List.mem_append, Set.mem_union,
    or_and_right, exists_or]

theorem accessOf_cons (entry : Binding) (rest : List Binding) :
    accessOf (entry :: rest) = accessOf [entry] ∪ accessOf rest :=
  accessOf_append [entry] rest

theorem mem_accessOf_singleton {entry : Binding} {role member : String} :
    (role, member) ∈ accessOf [entry] ↔
      entry.role = role ∧ member ∈ entry.members := by
  simp [mem_accessOf]

@[simp]
theorem accessOf_toBinding (declaration : Declaration) :
    accessOf [declaration.toBinding] = declaration.access := by
  ext ⟨role, member⟩
  rw [mem_accessOf_singleton, Declaration.mem_access, eq_comm]
  rfl

/-- Taking in a binding adds the access that it gives, and nothing else. -/
theorem accessOf_absorb (merged : List Binding) (binding : Binding) :
    accessOf (absorb merged binding) =
      accessOf merged ∪ accessOf [binding] := by
  induction merged with
  | nil =>
      ext ⟨role, member⟩
      simp [absorb, mem_accessOf_singleton, mem_addMembers]
  | cons entry rest ih =>
      rw [absorb]
      by_cases hrole : entry.role = binding.role
      · rw [if_pos hrole, accessOf_cons, accessOf_cons entry rest]
        ext ⟨role, member⟩
        simp only [Set.mem_union, mem_accessOf_singleton,
          mem_addMembers, ← hrole]
        tauto
      · rw [if_neg hrole, accessOf_cons, ih, accessOf_cons entry rest,
          Set.union_assoc]

theorem accessOf_mergeBindings (bindings : List Binding) :
    accessOf (mergeBindings bindings) = accessOf bindings := by
  suffices hfold : ∀ merged : List Binding,
      accessOf (bindings.foldl absorb merged) =
        accessOf merged ∪ accessOf bindings by
    rw [mergeBindings, hfold, accessOf_nil, Set.empty_union]
  induction bindings with
  | nil =>
      exact fun merged => by rw [List.foldl_nil, accessOf_nil, Set.union_empty]
  | cons head tail ih =>
      intro merged
      rw [List.foldl_cons, ih, accessOf_absorb, accessOf_cons head tail,
        Set.union_assoc]

theorem mem_rolesOf_mergeBindings {bindings : List Binding} {role : String} :
    role ∈ rolesOf (mergeBindings bindings) ↔ role ∈ rolesOf bindings := by
  rw [rolesOf_mergeBindings, mem_addMembers]
  simp

/-- Assigning leaves the declared binding and the entries for the other
roles. -/
theorem mem_assignedBindings {declaration : Declaration}
    {bindings : List Binding} {entry : Binding} :
    entry ∈ Policy.assignedBindings declaration bindings ↔
      entry = declaration.toBinding ∨
        entry ∈ bindings ∧ entry.role ≠ declaration.role := by
  induction bindings with
  | nil => simp [Policy.assignedBindings]
  | cons head tail ih =>
      rw [Policy.assignedBindings]
      by_cases hrole : head.role = declaration.role
      · rw [if_pos hrole, List.mem_cons, List.mem_filter, List.mem_cons]
        constructor
        · rintro (heq | ⟨htail, hne⟩)
          · exact .inl heq
          · exact .inr ⟨.inr htail, of_decide_eq_true hne⟩
        · rintro (heq | ⟨rfl | htail, hne⟩)
          · exact .inl heq
          · exact absurd hrole hne
          · exact .inr ⟨htail, decide_eq_true hne⟩
      · rw [if_neg hrole, List.mem_cons, ih, List.mem_cons]
        constructor
        · rintro (rfl | heq | ⟨htail, hne⟩)
          · exact .inr ⟨.inl rfl, hrole⟩
          · exact .inl heq
          · exact .inr ⟨.inr htail, hne⟩
        · rintro (heq | ⟨heq | htail, hne⟩)
          · exact .inr (.inl heq)
          · exact .inl heq
          · exact .inr (.inr ⟨htail, hne⟩)

theorem mem_revokedBindings {role : String} {bindings : List Binding}
    {entry : Binding} :
    entry ∈ Policy.revokedBindings role bindings ↔
      entry ∈ bindings ∧ entry.role ≠ role := by
  simp [Policy.revokedBindings]

theorem rolesOf_revokedBindings (role : String) (bindings : List Binding) :
    rolesOf (Policy.revokedBindings role bindings) =
      (rolesOf bindings).filter (· ≠ role) := by
  rw [rolesOf, rolesOf, Policy.revokedBindings, List.filter_map]
  rfl

theorem mem_rolesOf_revokedBindings {bindings : List Binding}
    {dropped role : String} :
    role ∈ rolesOf (Policy.revokedBindings dropped bindings) ↔
      role ∈ rolesOf bindings ∧ role ≠ dropped := by
  simp only [mem_rolesOf, mem_revokedBindings]
  constructor
  · rintro ⟨entry, ⟨hentry, hne⟩, rfl⟩
    exact ⟨⟨entry, hentry, rfl⟩, hne⟩
  · rintro ⟨⟨entry, hentry, rfl⟩, hne⟩
    exact ⟨entry, ⟨hentry, hne⟩, rfl⟩

/-- After a revocation the role has no entry. -/
theorem not_mem_rolesOf_revokedBindings (role : String)
    (bindings : List Binding) :
    role ∉ rolesOf (Policy.revokedBindings role bindings) :=
  fun hmem => (mem_rolesOf_revokedBindings.1 hmem).2 rfl

/-- After an assignment the role has exactly one entry. -/
theorem count_rolesOf_assignedBindings (declaration : Declaration)
    (bindings : List Binding) :
    (rolesOf (Policy.assignedBindings declaration bindings)).count
      declaration.role = 1 := by
  induction bindings with
  | nil => simp [Policy.assignedBindings, Declaration.toBinding]
  | cons head tail ih =>
      rw [Policy.assignedBindings]
      by_cases hrole : head.role = declaration.role
      · have hdropped : declaration.role ∉
            rolesOf (tail.filter (·.role ≠ declaration.role)) :=
          not_mem_rolesOf_revokedBindings declaration.role tail
        rw [if_pos hrole, rolesOf_cons]
        calc
          (declaration.role ::
            rolesOf (tail.filter (·.role ≠ declaration.role))).count
              declaration.role =
            (rolesOf (tail.filter (·.role ≠ declaration.role))).count
              declaration.role + 1 :=
              List.count_cons_self
          _ = 1 := by rw [List.count_eq_zero_of_not_mem hdropped]
      · rw [if_neg hrole, rolesOf_cons, List.count_cons_of_ne hrole, ih]

/-- Dropping a role makes the list shorter by its entries. -/
theorem length_sub_length_revokedBindings (policy : Policy) (role : String) :
    policy.bindings.length -
      (Policy.revokedBindings role policy.bindings).length =
      policy.roleCount role := by
  have hkept : (Policy.revokedBindings role policy.bindings).length =
      policy.bindings.countP
        (fun entry => decide ¬decide (entry.role = role) = true) := by
    rw [Policy.revokedBindings, List.countP_eq_length_filter]
    simp
  rw [hkept, Policy.roleCount,
    List.length_eq_countP_add_countP
      (fun entry : Binding => decide (entry.role = role))]
  omega

theorem accessOf_grantedBindings (bindings : List Binding)
    (declaration : Declaration) :
    accessOf (Policy.grantedBindings bindings declaration) =
      accessOf bindings ∪ declaration.access := by
  calc
    accessOf (Policy.grantedBindings bindings declaration) =
        accessOf (bindings ++ [declaration.toBinding]) :=
      accessOf_mergeBindings _
    _ = accessOf bindings ∪ accessOf [declaration.toBinding] :=
      accessOf_append _ _
    _ = accessOf bindings ∪ declaration.access := by rw [accessOf_toBinding]

theorem accessOf_assignedBindings (declaration : Declaration)
    (bindings : List Binding) :
    accessOf (Policy.assignedBindings declaration bindings) =
      {pair ∈ accessOf bindings | pair.1 ≠ declaration.role} ∪
        declaration.access := by
  ext ⟨role, member⟩
  rw [← accessOf_toBinding]
  constructor
  · rintro ⟨entry, hentry, rfl, hmember⟩
    rcases mem_assignedBindings.1 hentry with rfl | ⟨hkept, hne⟩
    · exact .inr (mem_accessOf_singleton.2 ⟨rfl, hmember⟩)
    · exact .inl ⟨⟨entry, hkept, rfl, hmember⟩, hne⟩
  · rintro (⟨⟨entry, hentry, rfl, hmember⟩, hne⟩ | hdeclared)
    · exact ⟨entry, mem_assignedBindings.2 (.inr ⟨hentry, hne⟩), rfl, hmember⟩
    · exact ⟨declaration.toBinding, mem_assignedBindings.2 (.inl rfl),
        mem_accessOf_singleton.1 hdeclared⟩

theorem accessOf_revokedBindings (role : String) (bindings : List Binding) :
    accessOf (Policy.revokedBindings role bindings) =
      {pair ∈ accessOf bindings | pair.1 ≠ role} := by
  ext ⟨other, member⟩
  constructor
  · rintro ⟨entry, hentry, rfl, hmember⟩
    obtain ⟨hkept, hne⟩ := mem_revokedBindings.1 hentry
    exact ⟨⟨entry, hkept, rfl, hmember⟩, hne⟩
  · rintro ⟨⟨entry, hentry, rfl, hmember⟩, hne⟩
    exact ⟨entry, mem_revokedBindings.2 ⟨hentry, hne⟩, rfl, hmember⟩

/-! ## The three changes -/

namespace Policy

theorem requireSingle_of_nodup {policy : Policy}
    (hnodup : (rolesOf policy.bindings).Nodup) (role : String) :
    policy.requireSingle role = .ok () := by
  apply if_pos
  rw [roleCount_eq_count]
  exact List.nodup_iff_count_le_one.1 hnodup role

/-- The check that ends a grant passes for every role. -/
theorem requireSingle_granted (etag : Etag) (bindings : List Binding)
    (declaration : Declaration) (role : String) :
    requireSingle ⟨etag, grantedBindings bindings declaration⟩ role = .ok () :=
  requireSingle_of_nodup (nodup_rolesOf_mergeBindings _) role

/-- The check that ends an assignment passes for the assigned role.  It
may fail for others. -/
theorem requireSingle_assigned (etag : Etag) (bindings : List Binding)
    (declaration : Declaration) :
    requireSingle ⟨etag, assignedBindings declaration bindings⟩
      declaration.role = .ok () := by
  apply if_pos
  rw [roleCount_eq_count]
  exact (count_rolesOf_assignedBindings declaration bindings).le

theorem requireSingle_revoked (etag : Etag) (bindings : List Binding)
    (role : String) :
    requireSingle ⟨etag, revokedBindings role bindings⟩ role = .ok () := by
  have hdropped := not_mem_rolesOf_revokedBindings role bindings
  apply if_pos
  rw [roleCount_eq_count, List.count_eq_zero_of_not_mem hdropped]
  exact Nat.zero_le 1

/-- Granting never fails. -/
theorem grant_eq_ok (declaration : Declaration) (policy : Policy) :
    grant declaration policy =
      .ok ((), { policy with
        bindings := grantedBindings policy.bindings declaration }) := by
  simp only [grant, requireSingle_granted]
  rfl

/-- Assigning never fails. -/
theorem assign_eq_ok (declaration : Declaration) (policy : Policy) :
    assign declaration policy =
      .ok ((), { policy with
        bindings := assignedBindings declaration policy.bindings }) := by
  simp only [assign, requireSingle_assigned]
  rfl

/-- Revoking never fails, and tells how many entries the role had. -/
theorem revoke_eq_ok (role : String) (policy : Policy) :
    revoke role policy =
      .ok (policy.roleCount role,
        { policy with bindings := revokedBindings role policy.bindings }) := by
  simp only [revoke, requireSingle_revoked, length_sub_length_revokedBindings]
  rfl

/-- Granting and assigning both see to it that the declared role has an
entry. -/
theorem mem_rolesOf_grantedBindings {bindings : List Binding}
    {declaration : Declaration} {role : String} :
    role ∈ rolesOf (grantedBindings bindings declaration) ↔
      role ∈ rolesOf bindings ∨ role = declaration.role := by
  rw [grantedBindings, mem_rolesOf_mergeBindings, rolesOf_append,
    List.mem_append]
  exact or_congr_right List.mem_singleton

theorem mem_rolesOf_assignedBindings {bindings : List Binding}
    {declaration : Declaration} {role : String} :
    role ∈ rolesOf (assignedBindings declaration bindings) ↔
      role ∈ rolesOf bindings ∨ role = declaration.role := by
  constructor
  · intro hmem
    obtain ⟨entry, hentry, rfl⟩ := mem_rolesOf.1 hmem
    rcases mem_assignedBindings.1 hentry with rfl | ⟨hkept, _⟩
    · exact .inr rfl
    · exact .inl (mem_rolesOf.2 ⟨entry, hkept, rfl⟩)
  · intro hmem
    by_cases hrole : role = declaration.role
    · exact mem_rolesOf.2
        ⟨declaration.toBinding, mem_assignedBindings.2 (.inl rfl), hrole.symm⟩
    · obtain ⟨entry, hentry, rfl⟩ := mem_rolesOf.1 (hmem.resolve_right hrole)
      exact mem_rolesOf.2
        ⟨entry, mem_assignedBindings.2 (.inr ⟨hentry, hrole⟩), rfl⟩

/-- The three changes act on the access relation as they are meant to, on
every policy: granting adds the declared pairs, assigning puts them in place
of all pairs of the role, and revoking takes all pairs of the role away and
tells how many entries held them.  None of them ever fails its closing check
or touches the etag. -/
theorem changes_act_on_access (policy : Policy) (declaration : Declaration)
    (role : String) :
    (∃ granted, grant declaration policy = .ok ((), granted) ∧
      granted.access = policy.access ∪ declaration.access ∧
      granted.roles = policy.roles ∪ {declaration.role} ∧
      granted.etag = policy.etag ∧
      granted.requireSingle declaration.role = .ok ()) ∧
    (∃ assigned, assign declaration policy = .ok ((), assigned) ∧
      assigned.access =
        {pair ∈ policy.access | pair.1 ≠ declaration.role} ∪
          declaration.access ∧
      assigned.roles = policy.roles ∪ {declaration.role} ∧
      assigned.etag = policy.etag ∧
      assigned.requireSingle declaration.role = .ok ()) ∧
    (∃ revoked, revoke role policy = .ok (policy.roleCount role, revoked) ∧
      revoked.access = {pair ∈ policy.access | pair.1 ≠ role} ∧
      revoked.roles = policy.roles \ {role} ∧
      revoked.etag = policy.etag ∧
      revoked.requireSingle role = .ok ()) := by
  refine ⟨?granted, ?assigned, ?revoked⟩
  case granted =>
    refine ⟨_, grant_eq_ok declaration policy,
      accessOf_grantedBindings policy.bindings declaration, ?_, rfl,
      requireSingle_granted _ _ _ declaration.role⟩
    ext other
    exact mem_rolesOf_grantedBindings
  case assigned =>
    refine ⟨_, assign_eq_ok declaration policy,
      accessOf_assignedBindings declaration policy.bindings, ?_, rfl,
      requireSingle_assigned _ _ declaration⟩
    ext other
    exact mem_rolesOf_assignedBindings
  case revoked =>
    refine ⟨_, revoke_eq_ok role policy,
      accessOf_revokedBindings role policy.bindings, ?_, rfl,
      requireSingle_revoked _ _ role⟩
    ext other
    exact mem_rolesOf_revokedBindings

end Policy

end AccessPolicy
