import AccessPolicy.Proofs.Policy.Commutation

/-!
# Repeated changes of one role

A change of a role makes up for what earlier changes of the same role did.
Assigning and revoking do so on every policy, and the entry that an assignment
writes keeps the place of the first one.  A grant merges the entries for all
roles, and that is not undone; so laws that have a grant on one side only need a
policy with nothing to merge.
-/

namespace AccessPolicy

namespace Policy

variable {declaration other : Declaration} {bindings : List Binding}

/-- Where there is nothing to merge, granting what the role is granted
already changes nothing. -/
theorem grantedBindings_of_held (hroles : (rolesOf bindings).Nodup)
    (hmembers : ∀ entry ∈ bindings, entry.members.Nodup)
    (hrole : declaration.role ∈ rolesOf bindings)
    (hheld : ∀ member ∈ declaration.members.toList,
      member ∈ membersOf declaration.role bindings) :
    grantedBindings bindings declaration = bindings := by
  have hmerged : mergeBindings (bindings ++ [declaration.toBinding]) =
      mergeBindings bindings := by
    apply mergeBindings_congr
    · rw [rolesOf_append]
      exact (eraseDups_append_singleton _ _).trans
        (addMember_of_mem (List.mem_eraseDups.2 hrole))
    · intro role
      rw [membersOf_append, membersOf_cons, membersOf_nil, List.append_nil]
      by_cases hsame : declaration.toBinding.role = role
      · have hnone :
            declaration.members.toList.filter (· ∉ membersOf role bindings) =
              [] := by
          apply List.filter_eq_nil_iff.2
          intro member hmember hnew
          exact of_decide_eq_true hnew (hsame ▸ hheld member hmember)
        have hadded := eraseDups_append_of_nodup (membersOf role bindings)
          declaration.members.nodup_toList
        rw [hnone, List.append_nil] at hadded
        rw [if_pos hsame]
        exact hadded
      · rw [if_neg hsame, List.append_nil]
  rw [grantedBindings, hmerged, mergeBindings_of_nodup hroles hmembers]

theorem grantedBindings_grantedBindings (declaration : Declaration)
    (bindings : List Binding) :
    grantedBindings (grantedBindings bindings declaration) declaration =
      grantedBindings bindings declaration := by
  have hroles : (rolesOf (grantedBindings bindings declaration)).Nodup :=
    nodup_rolesOf_mergeBindings _
  apply grantedBindings_of_held hroles (nodup_members_mergeBindings _)
  · exact mem_rolesOf_grantedBindings.2 (.inr rfl)
  · intro member hmember
    rw [membersOf_grantedBindings, List.mem_append, List.mem_eraseDups,
      List.mem_filter, decide_eq_true_eq]
    by_cases hheld : member ∈ membersOf declaration.role bindings
    · exact .inl hheld
    · exact .inr ⟨hmember, hheld⟩

/-- What was assigned is granted. -/
theorem grantedBindings_assignedBindings (hroles : (rolesOf bindings).Nodup)
    (hmembers : ∀ entry ∈ bindings, entry.members.Nodup)
    (declaration : Declaration) :
    grantedBindings (assignedBindings declaration bindings) declaration =
      assignedBindings declaration bindings := by
  apply grantedBindings_of_held
    (nodup_rolesOf_assignedBindings hroles declaration)
    (nodup_members_assignedBindings hmembers declaration)
  · exact mem_rolesOf_assignedBindings.2 (.inr rfl)
  · intro member hmember
    rwa [membersOf_assignedBindings_self]

theorem assignedBindings_assignedBindings
    (hrole : other.role = declaration.role) (bindings : List Binding) :
    assignedBindings declaration (assignedBindings other bindings) =
      assignedBindings declaration bindings := by
  have hother : other.toBinding.role = declaration.role := hrole
  induction bindings with
  | nil => exact assignedBindings_cons_of_eq hother []
  | cons head tail ih =>
      by_cases hhead : head.role = declaration.role
      · have hsame : head.role = other.role := hhead.trans hrole.symm
        rw [assignedBindings_cons_of_eq hsame,
          assignedBindings_cons_of_eq hother, assignedBindings_cons_of_eq hhead,
          hrole, revokedBindings_revokedBindings]
      · have hne : head.role ≠ other.role := fun heq => hhead (heq.trans hrole)
        rw [assignedBindings_cons_of_ne hne,
          assignedBindings_cons_of_ne hhead, ih,
          assignedBindings_cons_of_ne hhead]

/-- A last entry for the assigned role is dropped, or its place is taken. -/
theorem assignedBindings_append_own {entry : Binding}
    (hentry : entry.role = declaration.role) (bindings : List Binding) :
    assignedBindings declaration (bindings ++ [entry]) =
      assignedBindings declaration bindings := by
  induction bindings with
  | nil => exact assignedBindings_cons_of_eq hentry []
  | cons head tail ih =>
      rw [List.cons_append]
      by_cases hhead : head.role = declaration.role
      · rw [assignedBindings_cons_of_eq hhead,
          assignedBindings_cons_of_eq hhead, revokedBindings_append,
          revokedBindings_cons_of_eq hentry]
        exact congrArg (_ :: ·) (List.append_nil _)
      · rw [assignedBindings_cons_of_ne hhead,
          assignedBindings_cons_of_ne hhead, ih]

theorem assignedBindings_grantedBindings_self
    (hroles : (rolesOf bindings).Nodup)
    (hmembers : ∀ entry ∈ bindings, entry.members.Nodup)
    (hrole : other.role = declaration.role) :
    assignedBindings declaration (grantedBindings bindings other) =
      assignedBindings declaration bindings := by
  have hother : other.toBinding.role = declaration.role := hrole
  rw [grantedBindings, ← mergeBindings_assignedBindings,
    assignedBindings_append_own hother]
  exact mergeBindings_of_nodup
    (nodup_rolesOf_assignedBindings hroles declaration)
    (nodup_members_assignedBindings hmembers declaration)

/-- Behind a revocation the entry comes last, and not where the role stood. -/
theorem assignedBindings_revokedBindings_perm (declaration : Declaration)
    (bindings : List Binding) :
    (assignedBindings declaration
      (revokedBindings declaration.role bindings)).Perm
      (assignedBindings declaration bindings) := by
  rw [assignedBindings_of_not_mem (not_mem_rolesOf_revokedBindings _ bindings)]
  induction bindings with
  | nil => exact List.Perm.refl _
  | cons head tail ih =>
      by_cases hhead : head.role = declaration.role
      · rw [revokedBindings_cons_of_eq hhead, assignedBindings_cons_of_eq hhead]
        exact List.perm_append_singleton _ _
      · rw [revokedBindings_cons_of_ne hhead, assignedBindings_cons_of_ne hhead]
        exact ih.cons head

theorem roleCount_granted (etag : Etag) (bindings : List Binding)
    (declaration : Declaration) :
    roleCount ⟨etag, grantedBindings bindings declaration⟩
      declaration.role = 1 := by
  rw [roleCount_eq_count]
  exact List.count_eq_one_of_mem (nodup_rolesOf_mergeBindings _)
    (mem_rolesOf_grantedBindings.2 (.inr rfl))

theorem roleCount_assigned (etag : Etag) (bindings : List Binding)
    (declaration : Declaration) :
    roleCount ⟨etag, assignedBindings declaration bindings⟩
      declaration.role = 1 := by
  rw [roleCount_eq_count]
  exact count_rolesOf_assignedBindings declaration bindings

theorem roleCount_revoked (etag : Etag) (bindings : List Binding)
    (role : String) :
    roleCount ⟨etag, revokedBindings role bindings⟩ role = 0 :=
  roleCount_eq_zero_iff.2 (not_mem_rolesOf_revokedBindings role bindings)

/-- What a grant, an assignment and a revocation of one role make of a policy is
what they make of it behind one another, and it is so to the place of every
entry and the order of its members.   On every policy a second grant of the same
members changes nothing, an assignment makes up for any earlier one, and a
revocation for an assignment; a second revocation finds nothing to drop.  If
roles are unique and no members repeated, an assignment or a revocation makes up
for an earlier grant as well, and a grant of what was assigned changes nothing.
An assignment behind a revocation leaves the entries of an assignment alone, but
in another order. -/
theorem later_change_absorbs (policy : Policy) (declaration : Declaration) :
    ∃ granted assigned revoked : Policy,
      grant declaration policy = .ok ((), granted) ∧
      assign declaration policy = .ok ((), assigned) ∧
      revoke declaration.role policy =
        .ok (policy.roleCount declaration.role, revoked) ∧
      grant declaration granted = .ok ((), granted) ∧
      (∀ other : Declaration, other.role = declaration.role →
        ∃ before, assign other policy = .ok ((), before) ∧
          assign declaration before = .ok ((), assigned)) ∧
      revoke declaration.role assigned = .ok (1, revoked) ∧
      revoke declaration.role revoked = .ok (0, revoked) ∧
      (policy.hasUniqueRoles = true →
        (∀ entry ∈ policy.bindings, entry.members.Nodup) →
        (∀ other : Declaration, other.role = declaration.role →
          ∃ before, grant other policy = .ok ((), before) ∧
            assign declaration before = .ok ((), assigned)) ∧
        revoke declaration.role granted = .ok (1, revoked) ∧
        grant declaration assigned = .ok ((), assigned)) ∧
      ∃ again, assign declaration revoked = .ok ((), again) ∧
        again.etag = assigned.etag ∧
        again.bindings.Perm assigned.bindings := by
  refine ⟨_, _, _, grant_eq_ok declaration policy,
    assign_eq_ok declaration policy, revoke_eq_ok declaration.role policy,
    ?regranted, ?reassigned, ?dropped, ?gone, ?tidy,
    ?restored⟩
  case regranted => rw [grant_eq_ok, grantedBindings_grantedBindings]
  case reassigned =>
    intro other hrole
    refine ⟨_, assign_eq_ok other policy, ?_⟩
    rw [assign_eq_ok, assignedBindings_assignedBindings hrole]
  case dropped =>
    rw [revoke_eq_ok, roleCount_assigned, revokedBindings_assignedBindings]
  case gone =>
    rw [revoke_eq_ok, roleCount_revoked, revokedBindings_revokedBindings]
  case tidy =>
    intro hunique hmembers
    have hroles := hasUniqueRoles_iff.1 hunique
    refine ⟨?_, ?_, ?_⟩
    · intro other hrole
      refine ⟨_, grant_eq_ok other policy, ?_⟩
      rw [assign_eq_ok,
        assignedBindings_grantedBindings_self hroles hmembers hrole]
    · rw [revoke_eq_ok, roleCount_granted,
        revokedBindings_grantedBindings_of_nodup hroles hmembers]
    · rw [grant_eq_ok, grantedBindings_assignedBindings hroles hmembers]
  case restored =>
    exact ⟨_, assign_eq_ok declaration _, rfl,
      assignedBindings_revokedBindings_perm declaration policy.bindings⟩

def editors : Declaration := ⟨"roles/editor", .ofList ["user:d", "user:c"]⟩

def formerEditors : Declaration :=
  ⟨"roles/editor", .ofList ["user:z", "user:c"]⟩

theorem later_change_absorbs_tidy :
    tidy.hasUniqueRoles = true ∧
      (∀ entry ∈ tidy.bindings, entry.members.Nodup) ∧
      formerEditors.role = editors.role ∧
      ∃ before assigned, grant formerEditors tidy = .ok ((), before) ∧
        assign editors before = .ok ((), assigned) ∧
          assign editors tidy = .ok ((), assigned) ∧
        assigned.bindings = [⟨"roles/viewer", ["user:b", "user:a"]⟩,
          ⟨"roles/editor", ["user:c", "user:d"]⟩, ⟨"roles/owner", []⟩] := by
  have hunique : tidy.hasUniqueRoles = true := by decide +kernel
  have hmembers : ∀ entry ∈ tidy.bindings, entry.members.Nodup := by
    decide +kernel
  have hrole : formerEditors.role = editors.role := rfl
  obtain ⟨granted, assigned, revoked, -, hassigned, -, -, -, -, -,
    hmerged, -⟩ :=
    later_change_absorbs tidy editors
  obtain ⟨hbehind, -, -⟩ := hmerged hunique hmembers
  obtain ⟨before, hbefore, hagain⟩ := hbehind formerEditors hrole
  refine ⟨hunique, hmembers, hrole, before, assigned, hbefore, hagain,
    hassigned, ?_⟩
  have hbindings : (assign editors tidy).map (·.2.bindings) =
      .ok [⟨"roles/viewer", ["user:b", "user:a"]⟩,
        ⟨"roles/editor", ["user:c", "user:d"]⟩,
        ⟨"roles/owner", []⟩] := by decide +kernel
  rw [hassigned] at hbindings
  exact Except.ok.inj hbindings

end Policy

end AccessPolicy
