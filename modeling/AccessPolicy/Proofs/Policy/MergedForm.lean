import AccessPolicy.Proofs.Policy.FirstSeen

/-!
# The form of merged lists

What a list of bindings says about a role is the members of all its entries for
the role, one entry after the other.  Merging keeps the first occurrences of
this, and likewise the first occurrences of the roles.  A list in which no role
occurs twice is determined by its roles and by what it says about each of them,
so this is all that there is to say about a merged list.
-/

namespace AccessPolicy

/-- The members of all entries for a role, in order and with their
repetitions. -/
def membersOf (role : String) (bindings : List Binding) : List String :=
  (bindings.filter (·.role = role)).flatMap (·.members)

variable {role : String} {bindings merged : List Binding}

@[simp]
theorem membersOf_nil (role : String) : membersOf role [] = [] := rfl

theorem membersOf_cons (role : String) (entry : Binding) (rest : List Binding) :
    membersOf role (entry :: rest) =
      (if entry.role = role then entry.members else []) ++
        membersOf role rest := by
  by_cases hrole : entry.role = role
  · simp [membersOf, hrole]
  · simp [membersOf, hrole]

@[simp]
theorem membersOf_append (role : String) (first second : List Binding) :
    membersOf role (first ++ second) =
      membersOf role first ++ membersOf role second := by
  simp [membersOf]

/-- A role without an entry is the role of none. -/
theorem role_ne_of_mem (hrole : role ∉ rolesOf bindings) {entry : Binding}
    (hentry : entry ∈ bindings) : entry.role ≠ role :=
  fun hsame => hrole (mem_rolesOf.2 ⟨entry, hentry, hsame⟩)

theorem membersOf_of_not_mem (hrole : role ∉ rolesOf bindings) :
    membersOf role bindings = [] := by
  have hnone : bindings.filter (·.role = role) = [] := by
    apply List.filter_eq_nil_iff.2
    intro entry hentry hsame
    exact role_ne_of_mem hrole hentry (of_decide_eq_true hsame)
  rw [membersOf, hnone, List.flatMap_nil]

/-- With one entry for each role, an entry holds all that is said about
its role. -/
theorem membersOf_of_mem (hnodup : (rolesOf bindings).Nodup) {entry : Binding}
    (hentry : entry ∈ bindings) :
    membersOf entry.role bindings = entry.members := by
  induction bindings with
  | nil => cases hentry
  | cons head tail ih =>
      obtain ⟨hhead, htail⟩ := List.nodup_cons.1 hnodup
      rw [membersOf_cons]
      obtain rfl | hmem := List.mem_cons.1 hentry
      · rw [if_pos rfl, membersOf_of_not_mem hhead, List.append_nil]
      · have hne : head.role ≠ entry.role := (role_ne_of_mem hhead hmem).symm
        rw [if_neg hne, List.nil_append, ih htail hmem]

/-- Such a list is put together again from its roles and what it says
about them. -/
theorem map_rolesOf_of_nodup (hnodup : (rolesOf bindings).Nodup) :
    (rolesOf bindings).map (fun role => ⟨role, membersOf role bindings⟩) =
      bindings := by
  calc
    (rolesOf bindings).map (fun role => ⟨role, membersOf role bindings⟩) =
        bindings.map fun entry => ⟨entry.role, membersOf entry.role bindings⟩ :=
      List.map_map
    _ = bindings.map id := by
      apply List.map_congr_left
      intro entry hentry
      rw [membersOf_of_mem hnodup hentry]
      rfl
    _ = bindings := List.map_id _

/-- Taking in a binding adds its members to what is said about its role. -/
theorem membersOf_absorb (hnodup : (rolesOf merged).Nodup) (binding : Binding)
    (role : String) :
    membersOf role (absorb merged binding) =
      if binding.role = role then
        addMembers (membersOf role merged) binding.members
      else membersOf role merged := by
  induction merged with
  | nil => rw [absorb, membersOf_cons, membersOf_nil, List.append_nil]
  | cons entry rest ih =>
      obtain ⟨hentry, hrest⟩ := List.nodup_cons.1 hnodup
      rw [absorb]
      by_cases hsame : entry.role = binding.role
      · rw [if_pos hsame, membersOf_cons, membersOf_cons role entry]
        by_cases hrole : entry.role = role
        · have hnone : membersOf role rest = [] := by
            rw [← hrole]
            exact membersOf_of_not_mem hentry
          simp only [hrole, ← hsame, if_true, hnone, List.append_nil]
        · simp only [hrole, ← hsame, if_false]
      · rw [if_neg hsame, membersOf_cons, membersOf_cons role entry, ih hrest]
        by_cases hrole : entry.role = role
        · have hother : binding.role ≠ role :=
            fun heq => hsame (hrole.trans heq.symm)
          rw [if_neg hother, if_neg hother]
        · simp only [hrole, if_false, List.nil_append]

theorem nodup_rolesOf_absorb (hnodup : (rolesOf merged).Nodup)
    (binding : Binding) : (rolesOf (absorb merged binding)).Nodup := by
  rw [rolesOf_absorb]
  exact nodup_addMember hnodup _

/-- Merging keeps the first occurrences of what is said about a role. -/
theorem membersOf_mergeBindings (role : String) (bindings : List Binding) :
    membersOf role (mergeBindings bindings) =
      (membersOf role bindings).eraseDups := by
  suffices hfold : ∀ merged : List Binding, (rolesOf merged).Nodup →
      membersOf role (bindings.foldl absorb merged) =
        addMembers (membersOf role merged) (membersOf role bindings) by
    rw [mergeBindings, hfold [] List.nodup_nil, membersOf_nil, addMembers_nil]
  induction bindings with
  | nil => exact fun _ _ => rfl
  | cons head tail ih =>
      intro merged hmerged
      rw [List.foldl_cons, ih _ (nodup_rolesOf_absorb hmerged head),
        membersOf_absorb hmerged, membersOf_cons, addMembers_append]
      by_cases hrole : head.role = role
      · rw [if_pos hrole, if_pos hrole]
      · rw [if_neg hrole, if_neg hrole]
        rfl

theorem rolesOf_mergeBindings_eq (bindings : List Binding) :
    rolesOf (mergeBindings bindings) = (rolesOf bindings).eraseDups := by
  rw [rolesOf_mergeBindings, addMembers_nil]

/-- A merged list has one entry for each role, where the role first occurred,
with the first occurrences of all members of the entries for the role. -/
theorem mergeBindings_eq_map (bindings : List Binding) :
    mergeBindings bindings =
      (rolesOf bindings).eraseDups.map fun role =>
        ⟨role, (membersOf role bindings).eraseDups⟩ := by
  have hform := map_rolesOf_of_nodup (nodup_rolesOf_mergeBindings bindings)
  simp only [rolesOf_mergeBindings_eq, membersOf_mergeBindings] at hform
  exact hform.symm

/-- Lists of bindings are merged alike exactly if they show the same
first occurrences. -/
theorem mergeBindings_congr {first second : List Binding}
    (hroles : (rolesOf first).eraseDups = (rolesOf second).eraseDups)
    (hmembers : ∀ role,
      (membersOf role first).eraseDups = (membersOf role second).eraseDups) :
    mergeBindings first = mergeBindings second := by
  rw [mergeBindings_eq_map, mergeBindings_eq_map, hroles]
  simp only [hmembers]

end AccessPolicy
