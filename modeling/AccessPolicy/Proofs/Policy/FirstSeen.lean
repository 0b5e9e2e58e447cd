import AccessPolicy.Proofs.Policy.Merging
import Mathlib.Data.List.Induction

/-!
# First occurrences

Taking names in one after another, each unless it is there already, leaves the
first occurrence of every name in its place and drops the others.  It does not
matter whether repetitions are dropped early or late: a list from which some
repetitions have gone already has the same first occurrences.
-/

namespace AccessPolicy

theorem addMembers_append (members first second : List String) :
    addMembers members (first ++ second) =
      addMembers (addMembers members first) second :=
  List.foldl_append

theorem addMember_of_mem {members : List String} {member : String}
    (hmem : member ∈ members) : addMember members member = members :=
  if_pos hmem

theorem addMember_of_not_mem {members : List String} {member : String}
    (hnew : member ∉ members) :
    addMember members member = members ++ [member] :=
  if_neg hnew

/-- The last name of a list counts if it did not occur before. -/
theorem eraseDups_append_singleton (names : List String) (name : String) :
    (names ++ [name]).eraseDups = addMember names.eraseDups name := by
  rw [List.eraseDups_append]
  by_cases hmem : name ∈ names
  · have hgone : [name].removeAll names = [] := by simp [List.removeAll, hmem]
    rw [hgone, addMember_of_mem (List.mem_eraseDups.2 hmem)]
    exact List.append_nil _
  · have hkept : [name].removeAll names = [name] := by
      simp [List.removeAll, hmem]
    have hnew : name ∉ names.eraseDups :=
      fun herased => hmem (List.mem_eraseDups.1 herased)
    rw [hkept, addMember_of_not_mem hnew]
    rfl

/-- Names that are added to the first occurrences of others leave the first
occurrences of all. -/
theorem addMembers_eraseDups (names added : List String) :
    addMembers names.eraseDups added = (names ++ added).eraseDups := by
  induction added generalizing names with
  | nil => rw [List.append_nil]; rfl
  | cons head tail ih =>
      have hstep : addMembers names.eraseDups (head :: tail) =
          addMembers (addMember names.eraseDups head) tail := rfl
      rw [hstep, ← eraseDups_append_singleton, ih, List.append_assoc,
        List.singleton_append]

theorem addMembers_nil (names : List String) :
    addMembers [] names = names.eraseDups :=
  addMembers_eraseDups [] names

theorem nodup_eraseDups (names : List String) : names.eraseDups.Nodup := by
  rw [← addMembers_nil]
  exact nodup_addMembers List.nodup_nil names

/-- Where nothing is repeated, nothing is dropped. -/
theorem eraseDups_of_nodup {names : List String} (hnodup : names.Nodup) :
    names.eraseDups = names := by
  induction names with
  | nil => rfl
  | cons head tail ih =>
      obtain ⟨hhead, htail⟩ := List.nodup_cons.1 hnodup
      have hkept : tail.filter (fun name => !name == head) = tail := by
        apply List.filter_eq_self.2
        intro name hname
        have hne : name ≠ head := fun heq => hhead (heq ▸ hname)
        simp [hne]
      rw [List.eraseDups_cons, hkept, ih htail]

theorem eraseDups_eraseDups (names : List String) :
    names.eraseDups.eraseDups = names.eraseDups :=
  eraseDups_of_nodup (nodup_eraseDups names)

/-- Names that are added to others may have their repetitions dropped before. -/
theorem addMembers_of_eraseDups (members added : List String) :
    addMembers members added.eraseDups = addMembers members added := by
  induction added using List.reverseRecOn with
  | nil => rfl
  | append_singleton added name ih =>
      rw [eraseDups_append_singleton, addMembers_append]
      by_cases hmem : name ∈ added
      · have hheld : name ∈ addMembers members added :=
          mem_addMembers.2 (.inr hmem)
        rw [addMember_of_mem (List.mem_eraseDups.2 hmem), ih]
        exact (addMember_of_mem hheld).symm
      · have hnew : name ∉ added.eraseDups :=
          fun herased => hmem (List.mem_eraseDups.1 herased)
        rw [addMember_of_not_mem hnew, addMembers_append, ih]

theorem eraseDups_append_left (first second : List String) :
    (first.eraseDups ++ second).eraseDups = (first ++ second).eraseDups := by
  rw [← addMembers_eraseDups, eraseDups_eraseDups, addMembers_eraseDups]

theorem eraseDups_append_right (first second : List String) :
    (first ++ second.eraseDups).eraseDups = (first ++ second).eraseDups := by
  rw [← addMembers_eraseDups, addMembers_of_eraseDups, addMembers_eraseDups]

/-- Behind other names, names that are not repeated stay but for those
that occurred before. -/
theorem eraseDups_append_of_nodup (first : List String) {second : List String}
    (hnodup : second.Nodup) :
    (first ++ second).eraseDups =
      first.eraseDups ++ second.filter (· ∉ first) := by
  have hnew : second.removeAll first = second.filter (· ∉ first) := by
    apply List.filter_congr
    intro name _
    simp
  rw [List.eraseDups_append, hnew, eraseDups_of_nodup (hnodup.filter _)]

end AccessPolicy
