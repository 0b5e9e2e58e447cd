import AccessPolicy.Policy.Basic

/-!
# Merging bindings

Several entries for one role mean the same as one entry with all their members.
Merging brings a list of bindings to that form: a role keeps the place where it
first appeared, and its members keep the order in which they were first seen.
-/

namespace AccessPolicy

/-- Add a member at the end of a list that does not hold it yet. -/
def addMember (members : List String) (member : String) : List String :=
  if member ∈ members then members else members ++ [member]

def addMembers (members added : List String) : List String :=
  added.foldl addMember members

/-- Take one binding into a merged list: into the entry of its role, or
behind the last entry. -/
def absorb : List Binding → Binding → List Binding
  | [], binding => [⟨binding.role, addMembers [] binding.members⟩]
  | entry :: rest, binding =>
    if entry.role = binding.role then
      ⟨entry.role, addMembers entry.members binding.members⟩ :: rest
    else entry :: absorb rest binding

/-- One entry for each role, with the members of all entries for it. -/
def mergeBindings (bindings : List Binding) : List Binding :=
  bindings.foldl absorb []

theorem mem_addMember {members : List String} {member other : String} :
    other ∈ addMember members member ↔ other ∈ members ∨ other = member := by
  rw [addMember]
  by_cases hmem : member ∈ members
  · rw [if_pos hmem]
    constructor
    · exact .inl
    · intro hother
      obtain hother | rfl := hother
      · exact hother
      · exact hmem
  · rw [if_neg hmem, List.mem_append, List.mem_singleton]

theorem mem_addMembers {members added : List String} {other : String} :
    other ∈ addMembers members added ↔ other ∈ members ∨ other ∈ added := by
  induction added generalizing members with
  | nil => simp [addMembers]
  | cons head tail ih =>
      have hstep : addMembers members (head :: tail) =
          addMembers (addMember members head) tail :=
        rfl
      rw [hstep, ih, mem_addMember, List.mem_cons, or_assoc]

end AccessPolicy
