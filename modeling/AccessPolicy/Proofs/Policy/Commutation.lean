import AccessPolicy.Proofs.Policy.Placement
import AccessPolicy.Proofs.Watch.Protocol

/-!
# Changes of different roles

Two changes of different roles can be made in either order.  A grant merges the
entries for all roles, and an assignment to another role may come before the
merge or behind it: what it writes is merged already, and it stands in the place
of entries that would have been merged.  The order shows in one case only.  If
both changes bring a new role, each puts its entry behind all others, and the
one that is made later comes last.
-/

namespace AccessPolicy

variable {declaration other : Declaration} {role : String}
    {bindings : List Binding}

/-- A name that is there already may be left out of the names that are added. -/
theorem addMembers_filter_of_mem {members : List String} {name : String}
    (hmem : name ∈ members) (added : List String) :
    addMembers members (added.filter (· ≠ name)) =
      addMembers members added := by
  induction added generalizing members with
  | nil => rfl
  | cons head tail ih =>
      have hstep : addMembers members (head :: tail) =
          addMembers (addMember members head) tail :=
        rfl
      by_cases hhead : head = name
      · rw [List.filter_cons_of_neg (by simp [hhead]), ih hmem, hstep, hhead,
          addMember_of_mem hmem]
      · rw [List.filter_cons_of_pos (by simp [hhead]), hstep]
        exact ih (mem_addMember.2 (.inl hmem))

/-- Behind a name, its repetitions may be left out. -/
theorem eraseDups_append_cons_filter (first : List String) (name : String)
    (rest : List String) :
    (first ++ name :: rest.filter (· ≠ name)).eraseDups =
      (first ++ name :: rest).eraseDups := by
  have hname : name ∈ addMembers [] (first ++ [name]) := by
    simp [mem_addMembers]
  calc
    (first ++ name :: rest.filter (· ≠ name)).eraseDups =
        addMembers (addMembers [] (first ++ [name]))
          (rest.filter (· ≠ name)) := by
      rw [← addMembers_append, addMembers_nil, List.append_assoc,
        List.singleton_append]
    _ = addMembers (addMembers [] (first ++ [name])) rest :=
      addMembers_filter_of_mem hname rest
    _ = (first ++ name :: rest).eraseDups := by
      rw [← addMembers_append, addMembers_nil, List.append_assoc,
        List.singleton_append]

namespace Policy

/-- What is said about one role does not depend on the entries for another. -/
theorem membersOf_revokedBindings_of_ne (hne : role ≠ declaration.role)
    (bindings : List Binding) :
    membersOf role (revokedBindings declaration.role bindings) =
      membersOf role bindings := by
  have hkept :
      (revokedBindings declaration.role bindings).filter (·.role = role) =
        bindings.filter (·.role = role) := by
    rw [revokedBindings, List.filter_filter]
    apply List.filter_congr
    intro entry _
    by_cases hrole : entry.role = role
    · simp [hrole, hne]
    · simp [hrole]
  rw [membersOf, membersOf, hkept]

/-- After an assignment the role is held by the declared members alone. -/
theorem membersOf_assignedBindings_self (declaration : Declaration)
    (bindings : List Binding) :
    membersOf declaration.role (assignedBindings declaration bindings) =
      declaration.members.toList := by
  rw [membersOf, filter_assignedBindings, List.flatMap_singleton]
  rfl

/-- An assignment changes nothing of what is said about other roles. -/
theorem membersOf_assignedBindings_of_ne (hne : role ≠ declaration.role)
    (bindings : List Binding) :
    membersOf role (assignedBindings declaration bindings) =
      membersOf role bindings := by
  rw [← membersOf_revokedBindings_of_ne hne, revokedBindings_assignedBindings,
    membersOf_revokedBindings_of_ne hne]

/-- After an assignment the roles occur for the first time where they did
before, and the assigned one last if it is new. -/
theorem eraseDups_rolesOf_assignedBindings (declaration : Declaration)
    (bindings : List Binding) :
    (rolesOf (assignedBindings declaration bindings)).eraseDups =
      addMember (rolesOf bindings).eraseDups declaration.role := by
  by_cases hrole : declaration.role ∈ rolesOf bindings
  · rw [addMember_of_mem (List.mem_eraseDups.2 hrole)]
    obtain ⟨before, first, later, rfl, hbefore, hfirst⟩ :=
      exists_first_entry hrole
    have hlater : rolesOf (revokedBindings declaration.role later) =
        (rolesOf later).filter (· ≠ declaration.role) :=
      rolesOf_revokedBindings _ later
    rw [assignedBindings_of_first hbefore hfirst, rolesOf_append,
      rolesOf_append, rolesOf_cons, rolesOf_cons, hfirst, hlater]
    exact eraseDups_append_cons_filter _ _ _
  · rw [assignedBindings_of_not_mem hrole, rolesOf_append,
      ← eraseDups_append_singleton]
    rfl

/-- What an assignment writes has no repetitions. -/
theorem nodup_members_assignedBindings
    (hmembers : ∀ entry ∈ bindings, entry.members.Nodup)
    (declaration : Declaration) :
    ∀ entry ∈ assignedBindings declaration bindings, entry.members.Nodup := by
  intro entry hentry
  obtain rfl | ⟨hkept, -⟩ := mem_assignedBindings.1 hentry
  · exact declaration.members.nodup_toList
  · exact hmembers entry hkept

/-- It makes no difference whether an assignment is made before a merge
or behind it. -/
theorem mergeBindings_assignedBindings (declaration : Declaration)
    (bindings : List Binding) :
    mergeBindings (assignedBindings declaration bindings) =
      assignedBindings declaration (mergeBindings bindings) := by
  have hmerged :
      mergeBindings (assignedBindings declaration (mergeBindings bindings)) =
        assignedBindings declaration (mergeBindings bindings) :=
    mergeBindings_of_nodup
      (nodup_rolesOf_assignedBindings
        (nodup_rolesOf_mergeBindings bindings) declaration)
      (nodup_members_assignedBindings
        (nodup_members_mergeBindings bindings) declaration)
  rw [← hmerged]
  apply mergeBindings_congr
  · rw [eraseDups_rolesOf_assignedBindings, eraseDups_rolesOf_assignedBindings,
      rolesOf_mergeBindings_eq, eraseDups_eraseDups]
  · intro role
    by_cases hrole : role = declaration.role
    · rw [hrole, membersOf_assignedBindings_self,
        membersOf_assignedBindings_self]
    · rw [membersOf_assignedBindings_of_ne hrole,
        membersOf_assignedBindings_of_ne hrole, membersOf_mergeBindings,
        eraseDups_eraseDups]

/-- An entry for one role leaves another one new. -/
theorem not_mem_rolesOf_append_new (hne : declaration.role ≠ other.role)
    (hother : other.role ∉ rolesOf bindings) :
    other.role ∉ rolesOf (bindings ++ [declaration.toBinding]) := by
  rw [rolesOf_append, List.mem_append]
  exact not_or.2 ⟨hother, fun hmem => hne (List.mem_singleton.1 hmem).symm⟩

/-- An entry for a new role is put behind a merged list as it is. -/
theorem mergeBindings_append_new (hrole : declaration.role ∉ rolesOf bindings) :
    mergeBindings (bindings ++ [declaration.toBinding]) =
      mergeBindings bindings ++ [declaration.toBinding] := by
  have hmerged : declaration.role ∉ rolesOf (mergeBindings bindings) :=
    mem_rolesOf_mergeBindings.not.2 hrole
  rw [← assignedBindings_of_not_mem hrole, mergeBindings_assignedBindings,
    assignedBindings_of_not_mem hmerged]

/-- Of two entries for different roles behind a list, it does not matter which
comes first, unless both roles are new. -/
theorem mergeBindings_append_swap (hne : declaration.role ≠ other.role)
    (hknown : declaration.role ∈ rolesOf bindings ∨
      other.role ∈ rolesOf bindings) :
    mergeBindings (bindings ++ [declaration.toBinding, other.toBinding]) =
      mergeBindings (bindings ++ [other.toBinding, declaration.toBinding]) := by
  have hroles : (rolesOf bindings ++ [declaration.role, other.role]).eraseDups =
      (rolesOf bindings ++ [other.role, declaration.role]).eraseDups := by
    have hsplit : ∀ first second : String,
        (rolesOf bindings ++ [first, second]).eraseDups =
          addMember (addMember (rolesOf bindings).eraseDups first) second := by
      intro first second
      rw [← addMembers_eraseDups]
      rfl
    rw [hsplit, hsplit]
    obtain hmem | hmem := hknown
    · have herased := List.mem_eraseDups.2 hmem
      rw [addMember_of_mem herased,
        addMember_of_mem (mem_addMember.2 (.inl herased))]
    · have herased := List.mem_eraseDups.2 hmem
      rw [addMember_of_mem herased,
        addMember_of_mem (mem_addMember.2 (.inl herased))]
  apply mergeBindings_congr
  · rw [rolesOf_append, rolesOf_append]
    exact hroles
  · intro role
    have hpair : membersOf role [declaration.toBinding, other.toBinding] =
        membersOf role [other.toBinding, declaration.toBinding] := by
      have hfirst : declaration.toBinding.role = declaration.role := rfl
      have hsecond : other.toBinding.role = other.role := rfl
      simp only [membersOf_cons, membersOf_nil, List.append_nil,
        hfirst, hsecond]
      by_cases hrole : declaration.role = role
      · have hother : other.role ≠ role := fun heq => hne (hrole.trans heq.symm)
        rw [if_neg hother, List.nil_append, List.append_nil]
      · rw [if_neg hrole, List.nil_append, List.append_nil]
    rw [membersOf_append, membersOf_append, hpair]

theorem revokedBindings_cons_of_eq {entry : Binding} (hrole : entry.role = role)
    (rest : List Binding) :
    revokedBindings role (entry :: rest) = revokedBindings role rest :=
  List.filter_cons_of_neg (by simp [hrole])

theorem revokedBindings_cons_of_ne {entry : Binding} (hrole : entry.role ≠ role)
    (rest : List Binding) :
    revokedBindings role (entry :: rest) = entry :: revokedBindings role rest :=
  List.filter_cons_of_pos (decide_eq_true hrole)

theorem revokedBindings_append (role : String) (first second : List Binding) :
    revokedBindings role (first ++ second) =
      revokedBindings role first ++ revokedBindings role second :=
  List.filter_append ..

theorem assignedBindings_cons_of_eq {entry : Binding}
    (hrole : entry.role = declaration.role) (rest : List Binding) :
    assignedBindings declaration (entry :: rest) =
      declaration.toBinding :: revokedBindings declaration.role rest :=
  if_pos hrole

theorem assignedBindings_cons_of_ne {entry : Binding}
    (hrole : entry.role ≠ declaration.role) (rest : List Binding) :
    assignedBindings declaration (entry :: rest) =
      entry :: assignedBindings declaration rest :=
  if_neg hrole

/-- An entry for another role that comes behind the last one does not concern an
assignment to a role that is there already. -/
theorem assignedBindings_append_of_mem
    (hrole : declaration.role ∈ rolesOf bindings) {entry : Binding}
    (hentry : entry.role ≠ declaration.role) :
    assignedBindings declaration (bindings ++ [entry]) =
      assignedBindings declaration bindings ++ [entry] := by
  obtain ⟨before, first, later, rfl, hbefore, hfirst⟩ :=
    exists_first_entry hrole
  have hlater : revokedBindings declaration.role (later ++ [entry]) =
      revokedBindings declaration.role later ++ [entry] := by
    rw [revokedBindings_append, revokedBindings_cons_of_ne hentry]
    rfl
  rw [List.append_assoc, List.cons_append,
    assignedBindings_of_first hbefore hfirst,
    assignedBindings_of_first hbefore hfirst, hlater, List.append_assoc,
    List.cons_append]

/-! ## Pairs of changes -/

theorem revokedBindings_comm (role other : String) (bindings : List Binding) :
    revokedBindings role (revokedBindings other bindings) =
      revokedBindings other (revokedBindings role bindings) :=
  List.filter_comm ..

theorem revokedBindings_assignedBindings_of_ne (hne : declaration.role ≠ role)
    (bindings : List Binding) :
    revokedBindings role (assignedBindings declaration bindings) =
      assignedBindings declaration (revokedBindings role bindings) := by
  have hdeclared : declaration.toBinding.role ≠ role := hne
  induction bindings with
  | nil => exact revokedBindings_cons_of_ne hdeclared []
  | cons head tail ih =>
      by_cases hhead : head.role = declaration.role
      · have hkept : head.role ≠ role := hhead ▸ hne
        rw [assignedBindings_cons_of_eq hhead,
          revokedBindings_cons_of_ne hdeclared,
          revokedBindings_cons_of_ne hkept, assignedBindings_cons_of_eq hhead,
          revokedBindings_comm]
      · rw [assignedBindings_cons_of_ne hhead]
        by_cases hdropped : head.role = role
        · rw [revokedBindings_cons_of_eq hdropped,
            revokedBindings_cons_of_eq hdropped, ih]
        · rw [revokedBindings_cons_of_ne hdropped,
            revokedBindings_cons_of_ne hdropped,
            assignedBindings_cons_of_ne hhead, ih]

theorem revokedBindings_grantedBindings_of_ne (hne : declaration.role ≠ role)
    (bindings : List Binding) :
    revokedBindings role (grantedBindings bindings declaration) =
      grantedBindings (revokedBindings role bindings) declaration := by
  have hdeclared : declaration.toBinding.role ≠ role := hne
  rw [grantedBindings, revokedBindings_mergeBindings, revokedBindings_append,
    revokedBindings_cons_of_ne hdeclared]
  rfl

/-- Two assignments replace entries in different places, unless both put an
entry at the end. -/
theorem assignedBindings_comm (hne : declaration.role ≠ other.role)
    (hknown : declaration.role ∈ rolesOf bindings ∨
      other.role ∈ rolesOf bindings) :
    assignedBindings other (assignedBindings declaration bindings) =
      assignedBindings declaration (assignedBindings other bindings) := by
  have hdeclared : declaration.toBinding.role ≠ other.role := hne
  have hother : other.toBinding.role ≠ declaration.role := hne.symm
  induction bindings with
  | nil => simp at hknown
  | cons head tail ih =>
      by_cases hfirst : head.role = declaration.role
      · have hsecond : head.role ≠ other.role := hfirst ▸ hne
        rw [assignedBindings_cons_of_eq hfirst,
          assignedBindings_cons_of_ne hsecond,
          assignedBindings_cons_of_ne hdeclared,
          assignedBindings_cons_of_eq hfirst,
          revokedBindings_assignedBindings_of_ne hne.symm]
      · rw [assignedBindings_cons_of_ne hfirst]
        by_cases hsecond : head.role = other.role
        · rw [assignedBindings_cons_of_eq hsecond,
            assignedBindings_cons_of_eq hsecond,
            assignedBindings_cons_of_ne hother,
            revokedBindings_assignedBindings_of_ne hne]
        · have htail : declaration.role ∈ rolesOf tail ∨
              other.role ∈ rolesOf tail :=
            hknown.imp (List.mem_of_ne_of_mem (Ne.symm hfirst))
              (List.mem_of_ne_of_mem (Ne.symm hsecond))
          rw [assignedBindings_cons_of_ne hsecond,
            assignedBindings_cons_of_ne hsecond,
            assignedBindings_cons_of_ne hfirst, ih htail]

theorem grantedBindings_comm (hne : declaration.role ≠ other.role)
    (hknown : declaration.role ∈ rolesOf bindings ∨
      other.role ∈ rolesOf bindings) :
    grantedBindings (grantedBindings bindings declaration) other =
      grantedBindings (grantedBindings bindings other) declaration := by
  have hboth : ∀ first second : Declaration,
      grantedBindings (grantedBindings bindings first) second =
        mergeBindings (bindings ++ [first.toBinding, second.toBinding]) := by
    intro first second
    rw [grantedBindings, grantedBindings, mergeBindings_append_left,
      List.append_assoc, List.singleton_append]
  rw [hboth, hboth, mergeBindings_append_swap hne hknown]

/-- An assignment may come before a grant or behind it. -/
theorem assignedBindings_grantedBindings (hne : declaration.role ≠ other.role)
    (hknown : declaration.role ∈ rolesOf bindings ∨
      other.role ∈ rolesOf bindings) :
    assignedBindings other (grantedBindings bindings declaration) =
      grantedBindings (assignedBindings other bindings) declaration := by
  have hdeclared : declaration.toBinding.role ≠ other.role := hne
  rw [grantedBindings, ← mergeBindings_assignedBindings, grantedBindings]
  by_cases hother : other.role ∈ rolesOf bindings
  · rw [assignedBindings_append_of_mem hother hdeclared]
  · have hnew := not_mem_rolesOf_append_new hne hother
    rw [assignedBindings_of_not_mem hnew, assignedBindings_of_not_mem hother,
      List.append_assoc, List.append_assoc]
    exact mergeBindings_append_swap hne hknown

end Policy

namespace Writing

variable {first second : Writing}

/-- What a change makes of the other entries when it puts a new one behind
them. -/
def settled : Writing → List Binding → List Binding
  | create => mergeBindings
  | update | delete => id

theorem settled_comm (first second : Writing) (bindings : List Binding) :
    first.settled (second.settled bindings) =
      second.settled (first.settled bindings) := by
  cases first with
  | create =>
      cases second with
      | create | update | delete => rfl
  | update | delete => rfl

theorem mem_rolesOf_settled {operation : Writing} :
    role ∈ rolesOf (operation.settled bindings) ↔ role ∈ rolesOf bindings := by
  cases operation with
  | create => exact mem_rolesOf_mergeBindings
  | update | delete => exact Iff.rfl

theorem settled_append_new (operation : Writing)
    (hrole : declaration.role ∉ rolesOf bindings) :
    operation.settled (bindings ++ [declaration.toBinding]) =
      operation.settled bindings ++ [declaration.toBinding] := by
  cases operation with
  | create => exact Policy.mergeBindings_append_new hrole
  | update | delete => rfl

/-- A change that brings a new role puts the declared binding behind all
other entries. -/
theorem edit_of_new {operation : Writing} (hadds : operation ≠ .delete)
    (hrole : declaration.role ∉ rolesOf bindings) :
    operation.edit declaration bindings =
      operation.settled bindings ++ [declaration.toBinding] := by
  cases operation with
  | create => exact Policy.mergeBindings_append_new hrole
  | update => exact Policy.assignedBindings_of_not_mem hrole
  | delete => exact absurd rfl hadds

/-- Of two changes that bring new roles, the later one puts its entry behind
that of the earlier one. -/
theorem edit_edit_of_new (hfirst : first ≠ .delete) (hsecond : second ≠ .delete)
    (hne : declaration.role ≠ other.role)
    (hdeclared : declaration.role ∉ rolesOf bindings)
    (hother : other.role ∉ rolesOf bindings) :
    second.edit other (first.edit declaration bindings) =
      second.settled (first.settled bindings) ++
        [declaration.toBinding, other.toBinding] := by
  have hsettled : declaration.role ∉ rolesOf (first.settled bindings) :=
    mem_rolesOf_settled.not.2 hdeclared
  have hnew : other.role ∉
      rolesOf (first.settled bindings ++ [declaration.toBinding]) :=
    Policy.not_mem_rolesOf_append_new hne (mem_rolesOf_settled.not.2 hother)
  rw [edit_of_new hfirst hdeclared, edit_of_new hsecond hnew,
    second.settled_append_new hsettled, List.append_assoc,
    List.singleton_append]

/-- Changes of different roles commute if one of them drops its role, or changes
a role that is there already. -/
theorem edit_comm (hne : declaration.role ≠ other.role)
    (hshown : first = .delete ∨ second = .delete ∨
      declaration.role ∈ rolesOf bindings ∨
      other.role ∈ rolesOf bindings) :
    second.edit other (first.edit declaration bindings) =
      first.edit declaration (second.edit other bindings) := by
  cases first with
  | create =>
      cases second with
      | create => exact Policy.grantedBindings_comm hne (by simpa using hshown)
      | update =>
          exact Policy.assignedBindings_grantedBindings hne
            (by simpa using hshown)
      | delete =>
          exact Policy.revokedBindings_grantedBindings_of_ne hne bindings
  | update =>
      cases second with
      | create =>
          have hknown : other.role ∈ rolesOf bindings ∨
              declaration.role ∈ rolesOf bindings := by
            simpa [or_comm] using hshown
          exact (Policy.assignedBindings_grantedBindings hne.symm hknown).symm
      | update => exact Policy.assignedBindings_comm hne (by simpa using hshown)
      | delete =>
          exact Policy.revokedBindings_assignedBindings_of_ne hne bindings
  | delete =>
      cases second with
      | create =>
          exact (Policy.revokedBindings_grantedBindings_of_ne hne.symm
            bindings).symm
      | update =>
          exact (Policy.revokedBindings_assignedBindings_of_ne hne.symm
            bindings).symm
      | delete =>
          exact Policy.revokedBindings_comm other.role declaration.role bindings

/-- Two changes, one made of what the other one left. -/
theorem changed_changed (first second : Writing)
    (declaration other : Declaration) (policy : Policy) :
    (first.changed declaration policy >>= second.changed other) =
      .ok ⟨policy.etag,
        second.edit other (first.edit declaration policy.bindings)⟩ := by
  rw [first.changed_eq_ok]
  exact second.changed_eq_ok other _

end Writing

/-- Two changes, of different roles, that both put a new entry behind all
others: none of them drops its role, and the policy has an entry for neither. -/
structure BothAdd (first second : Writing) (policy : Policy)
    (declaration other : Declaration) : Prop where
  first : first ≠ .delete
  second : second ≠ .delete
  declared : declaration.role ∉ policy.roles
  other : other.role ∉ policy.roles

/-- Changes of different roles can be made in either order, on every policy:
both orders succeed, with the same etag and the same list of entries.  Only if
both changes put a new entry behind all others do the two results differ, and
then by the order of these two entries and nothing else. -/
theorem changes_commute (first second : Writing) (policy : Policy)
    {declaration other : Declaration} (hne : declaration.role ≠ other.role) :
    ∃ earlier later : Policy,
      (first.changed declaration policy >>= second.changed other) =
        .ok earlier ∧
      (second.changed other policy >>= first.changed declaration) = .ok later ∧
      (¬BothAdd first second policy declaration other → earlier = later) ∧
      (BothAdd first second policy declaration other →
        ∃ before,
          earlier =
            ⟨policy.etag, before ++ [declaration.toBinding, other.toBinding]⟩ ∧
          later = ⟨policy.etag,
            before ++ [other.toBinding, declaration.toBinding]⟩) := by
  refine ⟨_, _, Writing.changed_changed first second declaration other policy,
    Writing.changed_changed second first other declaration policy,
    ?same, ?swapped⟩
  case same =>
    intro hnot
    have hshown : first = .delete ∨ second = .delete ∨
        declaration.role ∈ rolesOf policy.bindings ∨
          other.role ∈ rolesOf policy.bindings := by
      by_contra hnone
      simp only [not_or] at hnone
      obtain ⟨hfirst, hsecond, hdeclared, hother⟩ := hnone
      exact hnot ⟨hfirst, hsecond, hdeclared, hother⟩
    rw [Writing.edit_comm hne hshown]
  case swapped =>
    rintro ⟨hfirst, hsecond, hdeclared, hother⟩
    refine ⟨second.settled (first.settled policy.bindings), ?_, ?_⟩
    · rw [Writing.edit_edit_of_new hfirst hsecond hne hdeclared hother]
    · rw [Writing.edit_edit_of_new hsecond hfirst hne.symm hother hdeclared,
        Writing.settled_comm]

def shared : Policy := ⟨⟨"1"⟩, scattered⟩

def newViewers : Declaration := ⟨"roles/viewer", .ofList ["user:e", "user:b"]⟩

def owners : Declaration := ⟨"roles/owner", .ofList ["user:o"]⟩

def auditors : Declaration := ⟨"roles/auditor", .ofList ["user:z", "user:a"]⟩

theorem changes_commute_shared :
    (∃ policy,
      (Writing.update.changed newViewers shared >>=
        Writing.create.changed owners) = .ok policy ∧
      (Writing.create.changed owners shared >>=
        Writing.update.changed newViewers) = .ok policy) ∧
    ∃ before,
      (Writing.create.changed auditors shared >>=
        Writing.update.changed owners) =
        .ok ⟨⟨"1"⟩, before ++ [auditors.toBinding, owners.toBinding]⟩ ∧
      (Writing.update.changed owners shared >>=
        Writing.create.changed auditors) =
        .ok ⟨⟨"1"⟩, before ++ [owners.toBinding, auditors.toBinding]⟩ := by
  constructor
  · have hne : newViewers.role ≠ owners.role := by decide
    obtain ⟨earlier, later, hearlier, hlater, hsame, -⟩ :=
      changes_commute .update .create shared hne
    have hshown : ¬BothAdd .update .create shared newViewers owners := by
      intro hadd
      exact hadd.declared
        (show newViewers.role ∈ rolesOf shared.bindings by decide)
    rw [hsame hshown] at hearlier
    exact ⟨later, hearlier, hlater⟩
  · have hne : auditors.role ≠ owners.role := by decide
    obtain ⟨earlier, later, hearlier, hlater, -, hswapped⟩ :=
      changes_commute .create .update shared hne
    have hadd : BothAdd .create .update shared auditors owners := by
      refine ⟨by decide, by decide, ?_, ?_⟩
      · exact show auditors.role ∉ rolesOf shared.bindings by decide
      · exact show owners.role ∉ rolesOf shared.bindings by decide
    obtain ⟨before, rfl, rfl⟩ := hswapped hadd
    exact ⟨before, hearlier, hlater⟩

end AccessPolicy
