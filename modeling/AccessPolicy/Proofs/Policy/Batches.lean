import AccessPolicy.Proofs.Policy.AccessRelation
import AccessPolicy.Proofs.Policy.MergedForm

/-!
# Merging in batches

A merged list may take the place of the list that it was merged from, before
or behind further bindings, and the next merge yields the same.  So lists can
be merged in batches, and merging twice is merging once.  A list that is
merged already is one without repeated roles and without repeated members.
The order of a list decides about the order of the merged one, but not about
who holds which role.
-/

namespace AccessPolicy

/-- The set of the members in the first entry for a role, if there is one. -/
def memberSetOf? (role : String) (bindings : List Binding) : Option MemberSet :=
  (bindings.find? (·.role = role)).map (·.memberSet)

variable {bindings first second : List Binding}

theorem mergeBindings_append_left (first second : List Binding) :
    mergeBindings (mergeBindings first ++ second) =
      mergeBindings (first ++ second) := by
  apply mergeBindings_congr
  · rw [rolesOf_append, rolesOf_append, rolesOf_mergeBindings_eq,
      eraseDups_append_left]
  · intro role
    rw [membersOf_append, membersOf_append, membersOf_mergeBindings,
      eraseDups_append_left]

theorem mergeBindings_append_right (first second : List Binding) :
    mergeBindings (first ++ mergeBindings second) =
      mergeBindings (first ++ second) := by
  apply mergeBindings_congr
  · rw [rolesOf_append, rolesOf_append, rolesOf_mergeBindings_eq,
      eraseDups_append_right]
  · intro role
    rw [membersOf_append, membersOf_append, membersOf_mergeBindings,
      eraseDups_append_right]

theorem mergeBindings_mergeBindings (bindings : List Binding) :
    mergeBindings (mergeBindings bindings) = mergeBindings bindings := by
  have hbatch := mergeBindings_append_right [] bindings
  exact hbatch

/-- Without repeated roles and members there is nothing to merge. -/
theorem mergeBindings_of_nodup (hroles : (rolesOf bindings).Nodup)
    (hmembers : ∀ entry ∈ bindings, entry.members.Nodup) :
    mergeBindings bindings = bindings := by
  calc
    mergeBindings bindings =
        (rolesOf bindings).map fun role =>
          ⟨role, (membersOf role bindings).eraseDups⟩ := by
      rw [mergeBindings_eq_map, eraseDups_of_nodup hroles]
    _ = (rolesOf bindings).map fun role => ⟨role, membersOf role bindings⟩ := by
      apply List.map_congr_left
      intro role hrole
      obtain ⟨entry, hentry, rfl⟩ := mem_rolesOf.1 hrole
      rw [membersOf_of_mem hroles hentry,
        eraseDups_of_nodup (hmembers entry hentry)]
    _ = bindings := map_rolesOf_of_nodup hroles

theorem mergeBindings_eq_self_iff :
    mergeBindings bindings = bindings ↔
      (rolesOf bindings).Nodup ∧ ∀ entry ∈ bindings, entry.members.Nodup := by
  constructor
  · intro hmerged
    rw [← hmerged]
    exact ⟨nodup_rolesOf_mergeBindings bindings,
      nodup_members_mergeBindings bindings⟩
  · rintro ⟨hroles, hmembers⟩
    exact mergeBindings_of_nodup hroles hmembers

/-- In a merged list, a role is held by the members of all its entries. -/
theorem memberSetOf?_mergeBindings (role : String) (bindings : List Binding) :
    memberSetOf? role (mergeBindings bindings) =
      if role ∈ rolesOf bindings then some (.ofList (membersOf role bindings))
      else none := by
  by_cases hrole : role ∈ rolesOf bindings
  · let merged : Policy := ⟨⟨""⟩, mergeBindings bindings⟩
    have hmerged : role ∈ rolesOf merged.bindings :=
      mem_rolesOf_mergeBindings.2 hrole
    obtain ⟨entry, hfound⟩ := Policy.exists_binding? hmerged
    obtain ⟨hentry, rfl⟩ := Policy.binding?_eq_some hfound
    have hmembers : entry.members =
        (membersOf entry.role bindings).eraseDups := by
      rw [← membersOf_mergeBindings]
      exact (membersOf_of_mem
        (nodup_rolesOf_mergeBindings bindings) hentry).symm
    have hset : entry.memberSet = .ofList (membersOf entry.role bindings) := by
      ext member
      rw [Binding.mem_memberSet, hmembers, List.mem_eraseDups,
        MemberSet.mem_ofList]
    rw [if_pos hrole, ← hset]
    exact congrArg (Option.map (·.memberSet)) hfound
  · have hnone : (mergeBindings bindings).find? (·.role = role) = none := by
      apply List.find?_eq_none.2
      intro entry hentry hsame
      have hmerged : role ∉ rolesOf (mergeBindings bindings) :=
        mem_rolesOf_mergeBindings.not.2 hrole
      exact role_ne_of_mem hmerged hentry (of_decide_eq_true hsame)
    rw [if_neg hrole, memberSetOf?, hnone, Option.map_none]

theorem mem_membersOf_perm (hperm : first.Perm second) {role member : String} :
    member ∈ membersOf role first ↔ member ∈ membersOf role second := by
  simp only [membersOf, List.mem_flatMap, List.mem_filter, hperm.mem_iff]

theorem memberSetOf?_perm (hperm : first.Perm second) (role : String) :
    memberSetOf? role (mergeBindings first) =
      memberSetOf? role (mergeBindings second) := by
  have hroles : role ∈ rolesOf first ↔ role ∈ rolesOf second :=
    (hperm.map _).mem_iff
  have hset : MemberSet.ofList (membersOf role first) =
      .ofList (membersOf role second) := by
    ext member
    rw [MemberSet.mem_ofList, MemberSet.mem_ofList, mem_membersOf_perm hperm]
  rw [memberSetOf?_mergeBindings, memberSetOf?_mergeBindings, hset]
  simp only [hroles]

/-- Merging in batches is merging at once, whichever part was merged before; in
particular, merging again changes nothing.  Merging leaves a list as it is
exactly if no role occurs twice and no entry repeats a member.  From lists with
the same bindings in another order, merging yields entries for the same roles
with the same sets of members. -/
theorem merging_in_batches (first second : List Binding) :
    mergeBindings (mergeBindings first ++ second) =
      mergeBindings (first ++ second) ∧
      mergeBindings (first ++ mergeBindings second) =
        mergeBindings (first ++ second) ∧
      mergeBindings (mergeBindings first) = mergeBindings first ∧
      (mergeBindings first = first ↔
        first.Pairwise (·.role ≠ ·.role) ∧
          ∀ entry ∈ first, entry.members.Nodup) ∧
      (second.Perm first →
        (∀ role, role ∈ rolesOf (mergeBindings first) ↔
          role ∈ rolesOf (mergeBindings second)) ∧
        ∀ role, memberSetOf? role (mergeBindings first) =
          memberSetOf? role (mergeBindings second)) := by
  refine ⟨mergeBindings_append_left first second,
    mergeBindings_append_right first second, mergeBindings_mergeBindings first,
    ?merged, ?reordered⟩
  case merged =>
    rw [mergeBindings_eq_self_iff, rolesOf, List.Nodup, List.pairwise_map]
  case reordered =>
    intro hperm
    refine ⟨fun role => ?_, fun role => (memberSetOf?_perm hperm role).symm⟩
    rw [mem_rolesOf_mergeBindings, mem_rolesOf_mergeBindings]
    exact (hperm.map _).mem_iff.symm

/-- Two entries for one role with another one between them. -/
def scattered : List Binding :=
  [⟨"roles/viewer", ["user:b", "user:a"]⟩, ⟨"roles/editor", ["user:c"]⟩,
    ⟨"roles/viewer", ["user:b", "user:d"]⟩]

theorem merging_in_batches_scattered :
    scattered.reverse.Perm scattered ∧
      mergeBindings scattered ≠ mergeBindings scattered.reverse ∧
      ∀ role, memberSetOf? role (mergeBindings scattered) =
        memberSetOf? role (mergeBindings scattered.reverse) := by
  have hperm : scattered.reverse.Perm scattered := List.reverse_perm scattered
  obtain ⟨-, -, -, -, hreordered⟩ :=
    merging_in_batches scattered scattered.reverse
  exact ⟨hperm, by decide +kernel, (hreordered hperm).2⟩

end AccessPolicy
