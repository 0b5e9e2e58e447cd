import AccessPolicy.Proofs.Policy.Batches
import AccessPolicy.Proofs.Policy.UniqueRoles

/-!
# Where changes put their entries

A change of a policy is about one role, and what it does to the list of entries
is laid down to the position.  An assignment replaces the first entry for its
role where it stands and drops the others, and a revocation drops them all;
either way the entries for other roles stay as they are, one after the other.  A
grant merges the whole list, so its role stands where it first occurred, and the
other roles are merged as if they had been alone.
-/

namespace AccessPolicy

namespace Policy

variable {role : String} {bindings before later : List Binding}
    {declaration : Declaration}

/-- A role that has an entry has a first one. -/
theorem exists_first_entry (hrole : role ∈ rolesOf bindings) :
    ∃ before first later, bindings = before ++ first :: later ∧
      role ∉ rolesOf before ∧
      first.role = role := by
  obtain ⟨roles, laterRoles, hroles, hfresh⟩ := List.eq_append_cons_of_mem hrole
  obtain ⟨before, rest, rfl, rfl, hrest⟩ := List.map_eq_append_iff.1 hroles
  obtain ⟨first, later, rfl, hfirst, rfl⟩ := List.map_eq_cons_iff.1 hrest
  exact ⟨before, first, later, rfl, hfresh, hfirst⟩

theorem revokedBindings_of_not_mem (hrole : role ∉ rolesOf bindings) :
    revokedBindings role bindings = bindings := by
  apply List.filter_eq_self.2
  intro entry hentry
  exact decide_eq_true (role_ne_of_mem hrole hentry)

theorem findIdx?_of_not_mem (hrole : role ∉ rolesOf bindings) :
    bindings.findIdx? (·.role = role) = none := by
  apply List.findIdx?_eq_none_iff.2
  intro entry hentry
  exact decide_eq_false (role_ne_of_mem hrole hentry)

theorem revokedBindings_revokedBindings (role : String)
    (bindings : List Binding) :
    revokedBindings role (revokedBindings role bindings) =
      revokedBindings role bindings :=
  revokedBindings_of_not_mem (not_mem_rolesOf_revokedBindings role bindings)

/-- The first entry for the role is replaced where it stands, and the later
ones are dropped. -/
theorem assignedBindings_of_first {first : Binding}
    (hbefore : declaration.role ∉ rolesOf before)
    (hfirst : first.role = declaration.role) :
    assignedBindings declaration (before ++ first :: later) =
      before ++ declaration.toBinding ::
        revokedBindings declaration.role later := by
  induction before with
  | nil => exact if_pos hfirst
  | cons head tail ih =>
      have hhead : head.role ≠ declaration.role :=
        fun heq => hbefore (heq ▸ List.mem_cons_self)
      have htail : declaration.role ∉ rolesOf tail := fun hmem =>
        hbefore (List.mem_cons_of_mem _ hmem)
      rw [List.cons_append, assignedBindings, if_neg hhead, ih htail,
        List.cons_append]

theorem assignedBindings_of_not_mem
    (hrole : declaration.role ∉ rolesOf bindings) :
    assignedBindings declaration bindings =
      bindings ++ [declaration.toBinding] := by
  induction bindings with
  | nil => rfl
  | cons head tail ih =>
      have hhead : head.role ≠ declaration.role :=
        fun heq => hrole (heq ▸ List.mem_cons_self)
      have htail : declaration.role ∉ rolesOf tail := fun hmem =>
        hrole (List.mem_cons_of_mem _ hmem)
      rw [assignedBindings, if_neg hhead, ih htail, List.cons_append]

/-- Drop the entries for a role that stand behind a position, counting the
entries on the way. -/
def dropBehind (role : String) (position : Nat) :
    Nat → List Binding → List Binding
  | _, [] => []
  | index, entry :: rest =>
    if index ≤ position ∨ entry.role ≠ role then
      entry :: dropBehind role position (index + 1) rest
    else dropBehind role position (index + 1) rest

/-- An assignment by position: look the first entry for the role up, write over
it, and drop the entries for the role behind it. -/
def assignedByPosition (declaration : Declaration) (bindings : List Binding) :
    List Binding :=
  match bindings.findIdx? (·.role = declaration.role) with
  | none => bindings ++ [declaration.toBinding]
  | some position =>
    dropBehind declaration.role position 0
      (bindings.set position declaration.toBinding)

/-- Up to the position the counter lets every entry pass. -/
theorem dropBehind_append {position index : Nat}
    (hbefore : index + before.length ≤ position + 1) :
    dropBehind role position index (before ++ later) =
      before ++ dropBehind role position (index + before.length) later := by
  induction before generalizing index with
  | nil => rfl
  | cons head tail ih =>
      rw [List.length_cons] at hbefore
      have hhead : index ≤ position := by omega
      have htail : index + 1 + tail.length ≤ position + 1 := by omega
      rw [List.cons_append, dropBehind, if_pos (.inl hhead), ih htail,
        List.length_cons, List.cons_append, Nat.add_right_comm, Nat.add_assoc]

/-- Behind the position it drops the entries for the role. -/
theorem dropBehind_of_lt {position index : Nat} (hbehind : position < index) :
    dropBehind role position index later = revokedBindings role later := by
  induction later generalizing index with
  | nil => rfl
  | cons head tail ih =>
      have hpast : ¬ index ≤ position := Nat.not_le_of_lt hbehind
      have hrest := ih (Nat.lt_succ_of_lt hbehind)
      simp only [revokedBindings] at hrest ⊢
      by_cases hrole : head.role = role
      · simp [dropBehind, hpast, hrole, hrest]
      · simp [dropBehind, hrole, hrest]

/-- The counter of an assignment is in step with the position that was
looked up. -/
theorem assignedByPosition_eq (declaration : Declaration)
    (bindings : List Binding) :
    assignedByPosition declaration bindings =
      assignedBindings declaration bindings := by
  by_cases hrole : declaration.role ∈ rolesOf bindings
  · obtain ⟨before, first, later, rfl, hbefore, hfirst⟩ :=
      exists_first_entry hrole
    have hfound :
        (before ++ first :: later).findIdx? (·.role = declaration.role) =
          some before.length := by
      simp [List.findIdx?_append, findIdx?_of_not_mem hbefore,
        List.findIdx?_cons, hfirst]
    have hset :
        (before ++ first :: later).set before.length declaration.toBinding =
          (before ++ [declaration.toBinding]) ++ later := by
      simp
    rw [assignedByPosition, hfound, assignedBindings_of_first hbefore hfirst]
    calc
      dropBehind declaration.role before.length 0
          ((before ++ first :: later).set before.length declaration.toBinding) =
          (before ++ [declaration.toBinding]) ++
            dropBehind declaration.role before.length
              (0 + (before ++ [declaration.toBinding]).length) later := by
        rw [hset, dropBehind_append (by simp)]
      _ = (before ++ [declaration.toBinding]) ++
        revokedBindings declaration.role later := by
          rw [dropBehind_of_lt (by simp)]
      _ = before ++ declaration.toBinding ::
        revokedBindings declaration.role later := by
          rw [List.append_assoc, List.singleton_append]
  · rw [assignedByPosition, findIdx?_of_not_mem hrole,
      assignedBindings_of_not_mem hrole]

/-- What a merge makes of the other roles, it makes of them alone. -/
theorem revokedBindings_absorb (role : String) (merged : List Binding)
    (binding : Binding) :
    revokedBindings role (absorb merged binding) =
      if binding.role = role then revokedBindings role merged
      else absorb (revokedBindings role merged) binding := by
  induction merged with
  | nil =>
      by_cases hrole : binding.role = role
      · simp [absorb, revokedBindings, hrole]
      · simp [absorb, revokedBindings, hrole]
  | cons entry rest ih =>
      simp only [revokedBindings] at ih ⊢
      rw [absorb]
      by_cases hsame : entry.role = binding.role
      · by_cases hrole : binding.role = role
        · simp [hsame, hrole]
        · simp [hsame, hrole, absorb]
      · rw [if_neg hsame, List.filter_cons, ih, List.filter_cons]
        by_cases hentry : entry.role = role
        · simp [hentry]
        · by_cases hrole : binding.role = role
          · simp [hentry, hrole]
          · simp [hentry, hrole, absorb, hsame]

theorem revokedBindings_mergeBindings (role : String)
    (bindings : List Binding) :
    revokedBindings role (mergeBindings bindings) =
      mergeBindings (revokedBindings role bindings) := by
  suffices hfold : ∀ merged : List Binding,
      revokedBindings role (bindings.foldl absorb merged) =
        (revokedBindings role bindings).foldl absorb
          (revokedBindings role merged) from hfold []
  induction bindings with
  | nil => exact fun _ => rfl
  | cons head tail ih =>
      intro merged
      rw [List.foldl_cons, ih, revokedBindings_absorb]
      by_cases hrole : head.role = role
      · rw [if_pos hrole]
        simp [revokedBindings, hrole]
      · rw [if_neg hrole]
        simp [revokedBindings, hrole]

/-- A grant merges the entries for the other roles. -/
theorem revokedBindings_grantedBindings (bindings : List Binding)
    (declaration : Declaration) :
    revokedBindings declaration.role (grantedBindings bindings declaration) =
      mergeBindings (revokedBindings declaration.role bindings) := by
  have hnone : revokedBindings declaration.role [declaration.toBinding] = [] :=
    List.filter_cons_of_neg (by simp [Declaration.toBinding])
  rw [grantedBindings, revokedBindings_mergeBindings, revokedBindings,
    List.filter_append]
  change mergeBindings (revokedBindings _ bindings ++ revokedBindings _ [_]) = _
  rw [hnone, List.append_nil]

/-- The granted role comes behind the others if it is new. -/
theorem rolesOf_grantedBindings (bindings : List Binding)
    (declaration : Declaration) :
    rolesOf (grantedBindings bindings declaration) =
      addMember (rolesOf bindings).eraseDups declaration.role := by
  rw [grantedBindings, rolesOf_mergeBindings_eq, rolesOf_append,
    ← eraseDups_append_singleton]
  rfl

/-- The role keeps the members that it had, and gets the declared ones
behind them. -/
theorem membersOf_grantedBindings (bindings : List Binding)
    (declaration : Declaration) :
    membersOf declaration.role (grantedBindings bindings declaration) =
      (membersOf declaration.role bindings).eraseDups ++
        declaration.members.toList.filter
          (· ∉ membersOf declaration.role bindings) := by
  have hdeclared : membersOf declaration.role [declaration.toBinding] =
      declaration.members.toList := by
    rw [membersOf_cons, membersOf_nil, List.append_nil]
    exact if_pos rfl
  rw [grantedBindings, membersOf_mergeBindings, membersOf_append, hdeclared,
    eraseDups_append_of_nodup _ declaration.members.nodup_toList]

theorem getElem?_addMember_idxOf (names : List String) (name : String) :
    (addMember names name)[names.idxOf name]? = some name := by
  by_cases hmem : name ∈ names
  · rw [addMember_of_mem hmem]
    exact List.getElem?_idxOf hmem
  · rw [addMember_of_not_mem hmem, List.idxOf_eq_length hmem]
    exact List.getElem?_concat_length

/-- The entry for the granted role stands where the role comes among the
roles. -/
theorem getElem?_grantedBindings (bindings : List Binding)
    (declaration : Declaration) :
    (grantedBindings bindings declaration)[(rolesOf bindings).eraseDups.idxOf
      declaration.role]? =
      some ⟨declaration.role, (membersOf declaration.role bindings).eraseDups ++
        declaration.members.toList.filter
          (· ∉ membersOf declaration.role bindings)⟩ := by
  have hform := map_rolesOf_of_nodup
    (nodup_rolesOf_mergeBindings (bindings ++ [declaration.toBinding]))
  rw [← membersOf_grantedBindings]
  calc
    (grantedBindings bindings declaration)[(rolesOf bindings).eraseDups.idxOf
      declaration.role]? =
        ((rolesOf (grantedBindings bindings declaration)).map fun role =>
          (⟨role, membersOf role (grantedBindings bindings declaration)⟩ :
            Binding))[
            (rolesOf bindings).eraseDups.idxOf declaration.role]? := by
      rw [grantedBindings, hform]
    _ = some ⟨declaration.role,
        membersOf declaration.role (grantedBindings bindings declaration)⟩ := by
      rw [List.getElem?_map, rolesOf_grantedBindings, getElem?_addMember_idxOf,
        Option.map_some]

/-! ## The three changes -/

/-- A list without the granted role that merging leaves alone keeps its
entries. -/
theorem revokedBindings_grantedBindings_of_nodup {bindings : List Binding}
    (hroles : (rolesOf bindings).Nodup)
    (hmembers : ∀ entry ∈ bindings, entry.members.Nodup)
    (declaration : Declaration) :
    revokedBindings declaration.role (grantedBindings bindings declaration) =
      revokedBindings declaration.role bindings := by
  rw [revokedBindings_grantedBindings]
  apply mergeBindings_of_nodup (nodup_rolesOf_revokedBindings hroles _)
  intro entry hentry
  exact hmembers entry (mem_revokedBindings.1 hentry).1

/-- Each change puts its entries at definite places of the list.   An
assignment writes the declared binding, with its members in increasing order,
over the first entry for the role and drops the further ones, or puts it
behind all entries if the role had none.  A revocation drops the entries for
the role.  Both leave the list of the entries for other roles exactly as it
was, with its repetitions.   A grant leaves one entry for the role, where the
role first appeared among the distinct roles of the policy, or last if it is
new.  Its members are those that the role had, each at its first appearance,
and behind them the declared ones that it did not have.  Of the entries for
other roles it leaves the merge, which is the list itself if roles were unique
and no members repeated. -/
theorem changes_keep_places (policy : Policy) (declaration : Declaration)
    (role : String) :
    declaration.toBinding.members.Pairwise (· < ·) ∧
    (∃ assigned, assign declaration policy = .ok ((), ⟨policy.etag, assigned⟩) ∧
      assigned = assignedByPosition declaration policy.bindings ∧
      ((declaration.role ∉ rolesOf policy.bindings ∧
          assigned = policy.bindings ++ [declaration.toBinding]) ∨
        ∃ before first later, policy.bindings = before ++ first :: later ∧
          declaration.role ∉ rolesOf before ∧ first.role = declaration.role ∧
          assigned = before ++ declaration.toBinding ::
            later.filter (·.role ≠ declaration.role)) ∧
      assigned.filter (·.role ≠ declaration.role) =
        policy.bindings.filter (·.role ≠ declaration.role)) ∧
    (∃ revoked, revoke role policy =
      .ok (policy.roleCount role, ⟨policy.etag, revoked⟩) ∧
      revoked = policy.bindings.filter (·.role ≠ role) ∧
      revoked.filter (·.role ≠ role) = policy.bindings.filter (·.role ≠ role)) ∧
    (∃ granted, grant declaration policy = .ok ((), ⟨policy.etag, granted⟩) ∧
      rolesOf granted =
        (rolesOf policy.bindings ++ [declaration.role]).eraseDups ∧
      granted[(rolesOf policy.bindings).eraseDups.idxOf declaration.role]? =
        some ⟨declaration.role,
          (membersOf declaration.role policy.bindings).eraseDups ++
            declaration.members.toList.filter
              (· ∉ membersOf declaration.role policy.bindings)⟩ ∧
      granted.filter (·.role ≠ declaration.role) =
        mergeBindings (policy.bindings.filter (·.role ≠ declaration.role)) ∧
      (policy.hasUniqueRoles = true →
        (∀ entry ∈ policy.bindings, entry.members.Nodup) →
        granted.filter (·.role ≠ declaration.role) =
          policy.bindings.filter (·.role ≠ declaration.role))) := by
  refine ⟨declaration.members.increasing, ?assigned, ?revoked, ?granted⟩
  case assigned =>
    refine ⟨assignedBindings declaration policy.bindings,
      assign_eq_ok declaration policy,
      (assignedByPosition_eq declaration _).symm, ?places,
      revokedBindings_assignedBindings declaration _⟩
    case places =>
      by_cases hrole : declaration.role ∈ rolesOf policy.bindings
      · obtain ⟨before, first, later, hsplit, hbefore, hfirst⟩ :=
          exists_first_entry hrole
        refine .inr ⟨before, first, later, hsplit, hbefore, hfirst, ?_⟩
        rw [hsplit]
        exact assignedBindings_of_first hbefore hfirst
      · exact .inl ⟨hrole, assignedBindings_of_not_mem hrole⟩
  case revoked =>
    exact ⟨revokedBindings role policy.bindings, revoke_eq_ok role policy, rfl,
      revokedBindings_revokedBindings role _⟩
  case granted =>
    refine ⟨grantedBindings policy.bindings declaration,
      grant_eq_ok declaration policy, ?roles,
      getElem?_grantedBindings _ declaration,
      revokedBindings_grantedBindings _ declaration, ?others⟩
    case roles => rw [rolesOf_grantedBindings, eraseDups_append_singleton]
    case others =>
      intro hunique hmembers
      exact revokedBindings_grantedBindings_of_nodup
        (hasUniqueRoles_iff.1 hunique) hmembers declaration

def tidy : Policy :=
  ⟨⟨"1"⟩, [⟨"roles/viewer", ["user:b", "user:a"]⟩, ⟨"roles/editor", ["user:c"]⟩,
    ⟨"roles/owner", []⟩]⟩

theorem changes_keep_places_tidy :
    tidy.hasUniqueRoles = true ∧
      (∀ entry ∈ tidy.bindings, entry.members.Nodup) ∧
      ∃ granted, grant ⟨"roles/editor", .ofList ["user:d", "user:c"]⟩ tidy =
          .ok ((), ⟨tidy.etag, granted⟩) ∧
        granted[1]? = some ⟨"roles/editor", ["user:c", "user:d"]⟩ ∧
        granted.filter (·.role ≠ "roles/editor") =
          tidy.bindings.filter (·.role ≠ "roles/editor") := by
  have hunique : tidy.hasUniqueRoles = true := by decide +kernel
  have hmembers : ∀ entry ∈ tidy.bindings, entry.members.Nodup := by
    decide +kernel
  obtain ⟨_, _, _, granted, hgrant, _, hplace, _, hothers⟩ :=
    changes_keep_places tidy ⟨"roles/editor", .ofList ["user:d", "user:c"]⟩
      "roles/editor"
  refine ⟨hunique, hmembers, granted, hgrant, ?_, hothers hunique hmembers⟩
  exact hplace.trans (by decide +kernel)

end Policy

end AccessPolicy
