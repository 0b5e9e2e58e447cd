import AccessPolicy.Proofs.Policy.UniqueRoles
import Mathlib.Data.Set.Lattice

/-!
# Agreement of the queries of a policy

A policy can be asked for the first entry for a role, for the number of its
entries, whether there is more than one of them, and whether any role has more
than one.  The last question is answered by a scan that stops at the first
repetition, the others look at one role each, and all of them agree.  So
wherever roles are known to be unique, the first entry for a role is all that
the policy says about it.
-/

namespace AccessPolicy

namespace Policy

variable {policy : Policy} {role : String}

/-- The members that are found for a role: those of its first entry, and none
without an entry. -/
def membersFound (policy : Policy) (role : String) : MemberSet :=
  ((policy.binding? role).map (·.memberSet)).getD ∅

theorem hasUniqueRoles_iff_roleCount_le :
    policy.hasUniqueRoles = true ↔ ∀ role, policy.roleCount role ≤ 1 := by
  simp only [hasUniqueRoles_iff, List.nodup_iff_count_le_one,
    roleCount_eq_count]

theorem isSome_binding?_iff :
    (policy.binding? role).isSome ↔ 1 ≤ policy.roleCount role := by
  rw [Nat.one_le_iff_ne_zero, Ne, roleCount_eq_zero_iff, ← binding?_eq_none_iff,
    Option.isSome_iff_ne_none]

theorem requireSingle_eq_ok_iff :
    policy.requireSingle role = .ok () ↔ policy.roleCount role ≤ 1 := by
  rw [requireSingle]
  split
  · next hle => exact iff_of_true rfl hle
  · next hgt => exact iff_of_false nofun hgt

theorem requireSingle_eq_error_iff :
    policy.requireSingle role =
      .error (.mutation (.repeatedRole (policy.roleCount role) role)) ↔
      2 ≤ policy.roleCount role := by
  rw [requireSingle]
  split
  · next hle => exact iff_of_false nofun (Nat.not_le.2 (Nat.lt_succ_of_le hle))
  · next hgt => exact iff_of_true rfl (Nat.lt_of_not_le hgt)

/-- Of a single entry for a role, the one that is found is all there is. -/
theorem filter_role_of_single (hsingle : policy.roleCount role ≤ 1) :
    policy.bindings.filter (·.role = role) = (policy.binding? role).toList := by
  rw [roleCount, List.countP_eq_length_filter] at hsingle
  rw [binding?, ← List.head?_filter]
  generalize policy.bindings.filter (·.role = role) = entries at hsingle ⊢
  cases entries with
  | nil => rfl
  | cons entry later =>
      have hlength : later.length = 0 :=
        Nat.le_zero.1 (Nat.le_of_succ_le_succ hsingle)
      have hlater : later = [] := List.eq_nil_of_length_eq_zero hlength
      subst hlater
      rfl

theorem membersFound_of_single (hsingle : policy.roleCount role ≤ 1) :
    {member | member ∈ policy.membersFound role} =
      ⋃ entry ∈ policy.bindings.filter (·.role = role),
      {member | member ∈ entry.memberSet} := by
  rw [filter_role_of_single hsingle, membersFound]
  cases policy.binding? role with
  | none => simp
  | some entry => simp

/-- The four queries agree on every policy.  Roles are unique exactly if none
has two entries.  A role is found exactly if it has an entry, and then its
first one is found; the check for a single entry fails exactly if there are
several.  Where roles are unique, the members that are found for a role are the
members of all its entries. -/
theorem queries_agree (policy : Policy) :
    (policy.hasUniqueRoles = true ↔ ∀ role, policy.roleCount role ≤ 1) ∧
    (∀ role, ((policy.binding? role).isSome ↔ 1 ≤ policy.roleCount role) ∧
      (∀ entry, policy.binding? role = some entry ↔
        ∃ before after, policy.bindings = before ++ entry :: after ∧
          role ∉ rolesOf before ∧
          entry.role = role) ∧
      (policy.requireSingle role = .ok () ↔ policy.roleCount role ≤ 1) ∧
      (policy.requireSingle role =
          .error (.mutation (.repeatedRole (policy.roleCount role) role)) ↔
        2 ≤ policy.roleCount role)) ∧
    (policy.hasUniqueRoles = true → ∀ role,
      {member | member ∈ policy.membersFound role} =
        ⋃ entry ∈ policy.bindings.filter (·.role = role),
          {member | member ∈ entry.memberSet}) := by
  refine ⟨hasUniqueRoles_iff_roleCount_le, ?queries, ?members⟩
  case queries =>
    intro role
    exact ⟨isSome_binding?_iff, fun _ =>
      binding?_eq_some_iff, requireSingle_eq_ok_iff,
        requireSingle_eq_error_iff⟩
  case members =>
    intro hunique role
    exact membersFound_of_single
      (hasUniqueRoles_iff_roleCount_le.1 hunique role)

/-- A policy with unique roles, in which a member is repeated and an
entry is empty. -/
def stuttering : Policy where
  bindings :=
    [⟨"roles/viewer", ["user:b", "user:a", "user:b"]⟩, ⟨"roles/editor", []⟩]

theorem queries_agree_stuttering :
    stuttering.hasUniqueRoles = true ∧ stuttering.roleCount "roles/viewer" ≤ 1 ∧
      (stuttering.binding? "roles/editor").isSome ∧
      {member | member ∈ stuttering.membersFound "roles/viewer"} =
        ⋃ entry ∈ [Binding.mk "roles/viewer" ["user:b", "user:a", "user:b"]],
          {member | member ∈ entry.memberSet} := by
  have hunique : stuttering.hasUniqueRoles = true := by decide +kernel
  obtain ⟨hcounts, hqueries, hmembers⟩ := queries_agree stuttering
  obtain ⟨hfound, -⟩ := hqueries "roles/editor"
  refine ⟨hunique, hcounts.1 hunique _, hfound.2 (by decide +kernel), ?_⟩
  exact hmembers hunique "roles/viewer"

end Policy

end AccessPolicy
