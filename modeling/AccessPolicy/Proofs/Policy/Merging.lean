import AccessPolicy.Policy.Mutation
import Mathlib.Data.List.Nodup

/-!
# Roles of merged lists

Merging treats roles exactly as it treats members: each stays where it was first
seen.  The roles of a merged list are therefore the roles of its source taken in
one by one, and they are distinct.  A change of a policy relies on this when it
checks that its role has a single entry.
-/

namespace AccessPolicy

def rolesOf (bindings : List Binding) : List String :=
  bindings.map (·.role)

@[simp]
theorem rolesOf_nil : rolesOf [] = [] := rfl

@[simp]
theorem rolesOf_cons (entry : Binding) (rest : List Binding) :
    rolesOf (entry :: rest) = entry.role :: rolesOf rest := rfl

@[simp]
theorem rolesOf_append (first second : List Binding) :
    rolesOf (first ++ second) = rolesOf first ++ rolesOf second :=
  List.map_append

theorem mem_rolesOf {bindings : List Binding} {role : String} :
    role ∈ rolesOf bindings ↔ ∃ entry ∈ bindings, entry.role = role :=
  List.mem_map

theorem Policy.binding?_eq_some {policy : Policy} {role : String}
    {entry : Binding} (hfound : policy.binding? role = some entry) :
    entry ∈ policy.bindings ∧ entry.role = role := by
  have hsame := List.find?_some hfound
  exact ⟨List.mem_of_find?_eq_some hfound, of_decide_eq_true hsame⟩

theorem Policy.exists_binding? {policy : Policy} {role : String}
    (hrole : role ∈ rolesOf policy.bindings) :
    ∃ entry, policy.binding? role = some entry := by
  obtain ⟨entry, hentry, hsame⟩ := mem_rolesOf.1 hrole
  apply Option.isSome_iff_exists.1
  rw [binding?, List.find?_isSome]
  exact ⟨entry, hentry, decide_eq_true hsame⟩

/-- Counting the entries for a role is counting the role among the roles. -/
theorem Policy.roleCount_eq_count (policy : Policy) (role : String) :
    policy.roleCount role = (rolesOf policy.bindings).count role := by
  rw [Policy.roleCount, rolesOf, List.count, List.countP_map]
  apply List.countP_congr
  intro entry _
  simp

theorem nodup_addMember {members : List String} (hnodup : members.Nodup)
    (member : String) : (addMember members member).Nodup := by
  rw [addMember]
  by_cases hmem : member ∈ members
  · rwa [if_pos hmem]
  · rw [if_neg hmem]
    apply List.nodup_append.2
    refine ⟨hnodup, List.nodup_singleton member, ?_⟩
    intro first hfirst second hsecond heq
    rw [List.mem_singleton.1 hsecond] at heq
    exact hmem (heq ▸ hfirst)

/-- Nothing is added twice. -/
theorem nodup_addMembers {members : List String} (hnodup : members.Nodup)
    (added : List String) : (addMembers members added).Nodup := by
  induction added generalizing members with
  | nil => exact hnodup
  | cons head tail ih => exact ih (nodup_addMember hnodup head)

/-- Taking in a binding takes in its role. -/
theorem rolesOf_absorb (merged : List Binding) (binding : Binding) :
    rolesOf (absorb merged binding) =
      addMember (rolesOf merged) binding.role := by
  induction merged with
  | nil => rfl
  | cons entry rest ih =>
      rw [absorb, addMember]
      by_cases hrole : entry.role = binding.role
      · simp [hrole]
      · have hne : binding.role ≠ entry.role := fun heq => hrole heq.symm
        rw [if_neg hrole, rolesOf_cons, ih, addMember]
        by_cases hmem : binding.role ∈ rolesOf rest <;> simp [hmem, hne]

/-- Taking in a binding repeats no member. -/
theorem nodup_members_absorb {merged : List Binding}
    (hmerged : ∀ entry ∈ merged, entry.members.Nodup) (binding : Binding) :
    ∀ entry ∈ absorb merged binding, entry.members.Nodup := by
  induction merged with
  | nil =>
      intro entry hentry
      rw [List.mem_singleton.1 hentry]
      exact nodup_addMembers List.nodup_nil _
  | cons first rest ih =>
      obtain ⟨hfirst, hrest⟩ := List.forall_mem_cons.1 hmerged
      rw [absorb]
      by_cases hrole : first.role = binding.role
      · rw [if_pos hrole]
        exact List.forall_mem_cons.2 ⟨nodup_addMembers hfirst _, hrest⟩
      · rw [if_neg hrole]
        exact List.forall_mem_cons.2 ⟨hfirst, ih hrest⟩

/-- The roles of a merged list are those of its source, each at its
first appearance. -/
theorem rolesOf_mergeBindings (bindings : List Binding) :
    rolesOf (mergeBindings bindings) = addMembers [] (rolesOf bindings) := by
  suffices hfold : ∀ merged : List Binding,
      rolesOf (bindings.foldl absorb merged) =
        addMembers (rolesOf merged) (rolesOf bindings) from hfold []
  induction bindings with
  | nil => exact fun _ => rfl
  | cons head tail ih =>
      intro merged
      rw [List.foldl_cons, ih, rolesOf_absorb]
      rfl

/-- Every role of a merged list has one entry. -/
theorem nodup_rolesOf_mergeBindings (bindings : List Binding) :
    (rolesOf (mergeBindings bindings)).Nodup := by
  rw [rolesOf_mergeBindings]
  exact nodup_addMembers List.nodup_nil _

/-- No entry of a merged list repeats a member. -/
theorem nodup_members_mergeBindings (bindings : List Binding) :
    ∀ entry ∈ mergeBindings bindings, entry.members.Nodup := by
  suffices hfold : ∀ merged : List Binding,
      (∀ entry ∈ merged, entry.members.Nodup) →
      ∀ entry ∈ bindings.foldl absorb merged, entry.members.Nodup
        from hfold [] (by simp)
  induction bindings with
  | nil => exact fun _ hmerged => hmerged
  | cons head tail ih =>
      exact fun merged hmerged => ih _ (nodup_members_absorb hmerged head)

end AccessPolicy
