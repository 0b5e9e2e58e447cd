import AccessPolicy.Proofs.Arena.Interference
import AccessPolicy.Proofs.Coupled
import AccessPolicy.Proofs.Policy.AccessRelation
import Mathlib.Data.List.Forall2
import Mathlib.Data.Option.Basic

/-!
# Worlds that differ in their members

Two policies are alike if they have the same etag and the same roles in the same
order; whom they grant the roles to may differ.  The notion carries over to
everything that policies and members occur in.  The changes of a policy, the
writes of others and the requests to an authority all respect it: none of them
looks at members to decide what to do.
-/

namespace AccessPolicy

/-- Edits that turn entries for the same roles into entries for the same
roles. -/
def SameOnRoles (first second : List Binding → List Binding) : Prop :=
  ∀ {bindings others}, rolesOf bindings = rolesOf others →
    rolesOf (first bindings) = rolesOf (second others)

/-- Policies that differ in their members at most. -/
structure Policy.Alike (first second : Policy) : Prop where
  etag : first.etag = second.etag
  roles : rolesOf first.bindings = rolesOf second.bindings

theorem length_eq_of_rolesOf {first second : List Binding}
    (hroles : rolesOf first = rolesOf second) :
    first.length = second.length := by
  have hlength := congrArg List.length hroles
  rwa [rolesOf, rolesOf, List.length_map, List.length_map] at hlength

theorem rolesOf_eq_iff {first second : List Binding} :
    rolesOf first = rolesOf second ↔
      List.Forall₂ (fun entry other => entry.role = other.role)
        first second := by
  rw [← List.forall₂_eq_eq_eq, rolesOf, rolesOf, List.forall₂_map_left_iff,
    List.forall₂_map_right_iff]

/-- In policies that are alike a role has its first entries at the same
place. -/
theorem Policy.Alike.binding? {first second : Policy}
    (halike : first.Alike second) (role : String) :
    Option.Rel (fun entry other : Binding => entry.role = other.role)
      (first.binding? role) (second.binding? role) := by
  obtain ⟨etag, bindings⟩ := first
  obtain ⟨otherEtag, others⟩ := second
  have hroles : rolesOf bindings = rolesOf others := halike.roles
  clear halike
  rw [Policy.binding?, Policy.binding?]
  induction rolesOf_eq_iff.1 hroles with
  | nil => exact .none
  | @cons entry other rest others hhead htail ih =>
      rw [List.find?_cons, List.find?_cons, hhead]
      by_cases hrole : other.role = role
      · rw [decide_eq_true hrole]
        exact .some hhead
      · rw [decide_eq_false hrole]
        exact ih (rolesOf_eq_iff.2 htail)

theorem rolesOf_grantedBindings_congr {first second : Declaration}
    (hrole : first.role = second.role) :
    SameOnRoles (Policy.grantedBindings · first)
      (Policy.grantedBindings · second) := by
  intro bindings others hroles
  simp only [Policy.grantedBindings, rolesOf_mergeBindings,
    rolesOf_append, hroles]
  simp only [rolesOf_cons, Declaration.toBinding, hrole]

theorem rolesOf_revokedBindings_congr (role : String) :
    SameOnRoles (Policy.revokedBindings role)
      (Policy.revokedBindings role) := by
  intro bindings others hroles
  rw [rolesOf_revokedBindings, rolesOf_revokedBindings, hroles]

theorem rolesOf_assignedBindings_congr {first second : Declaration}
    (hrole : first.role = second.role) :
    SameOnRoles (Policy.assignedBindings first)
      (Policy.assignedBindings second) := by
  intro bindings others hroles
  induction rolesOf_eq_iff.1 hroles with
  | nil => exact congrArg (fun role => [role]) hrole
  | @cons entry other rest others hhead htail ih =>
      have hrest := rolesOf_eq_iff.2 htail
      have hrevoked := rolesOf_revokedBindings_congr second.role hrest
      simp only [Policy.revokedBindings] at hrevoked
      rw [Policy.assignedBindings, Policy.assignedBindings, hhead, hrole]
      by_cases hsame : other.role = second.role
      · rw [if_pos hsame, if_pos hsame, rolesOf_cons, rolesOf_cons, hrevoked]
        exact congrArg (· :: _) hrole
      · rw [if_neg hsame, if_neg hsame, rolesOf_cons, rolesOf_cons,
          hhead, ih hrest]

/-- Changes that agree on policies that are alike. -/
def ChangesAlike {α : Type} (first second : Mutation α) : Prop :=
  ∀ {policy other : Policy}, policy.Alike other →
    Agree (fun changed others =>
      changed.1 = others.1 ∧ changed.2.Alike others.2)
      (first policy) (second other)

theorem grant_alike {first second : Declaration}
    (hrole : first.role = second.role) :
    ChangesAlike (Policy.grant first) (Policy.grant second) := by
  intro policy other halike
  rw [Policy.grant_eq_ok, Policy.grant_eq_ok]
  exact .ok ⟨rfl, halike.etag, rolesOf_grantedBindings_congr hrole halike.roles⟩

theorem assign_alike {first second : Declaration}
    (hrole : first.role = second.role) :
    ChangesAlike (Policy.assign first) (Policy.assign second) := by
  intro policy other halike
  rw [Policy.assign_eq_ok, Policy.assign_eq_ok]
  exact .ok ⟨rfl, halike.etag,
    rolesOf_assignedBindings_congr hrole halike.roles⟩

theorem revoke_alike (role : String) :
    ChangesAlike (Policy.revoke role) (Policy.revoke role) := by
  intro policy other halike
  rw [Policy.revoke_eq_ok, Policy.revoke_eq_ok, Policy.roleCount_eq_count,
    Policy.roleCount_eq_count, halike.roles]
  exact .ok ⟨rfl, halike.etag, rolesOf_revokedBindings_congr role halike.roles⟩

/-- States that differ in their members at most. -/
structure Tracked.Alike (first second : Tracked) : Prop where
  id : first.id = second.id
  role : first.role = second.role
  etag : first.etag = second.etag

theorem Tracked.Alike.refl (state : Tracked) : state.Alike state :=
  ⟨rfl, rfl, rfl⟩

theorem Tracked.Alike.declaration {first second : Tracked}
    (halike : first.Alike second) :
    Agree (fun declared other : Declaration => declared.role = other.role)
      first.declaration second.declaration := by
  rw [Tracked.declaration, Tracked.declaration, halike.role]
  cases second.role.isEmpty with
  | true => exact .error _
  | false => exact .ok rfl

structure Report.Alike {α : Type} (first second : Report α) : Prop where
  result : first.result = second.result
  state : first.state.Alike second.state

structure Stored.Alike (first second : Stored) : Prop where
  version : first.version = second.version
  roles : rolesOf first.bindings = rolesOf second.bindings

structure Authority.Alike (first second : Authority) : Prop where
  stored : ∀ resource, (first.stored resource).Alike (second.stored resource)
  fetches : first.fetches = second.fetches
  commits : first.commits = second.commits
  fetchFailure : first.fetchFailure = second.fetchFailure
  commitFailure : first.commitFailure = second.commitFailure
  connectionFailure : first.connectionFailure = second.connectionFailure

namespace Authority.Alike

theorem refl (authority : Authority) : authority.Alike authority :=
  ⟨fun _ => ⟨rfl, rfl⟩, rfl, rfl, rfl, rfl, rfl⟩

variable {first second : Authority} (halike : first.Alike second)
include halike

theorem policy (resource : String) :
    (first.policy resource).Alike (second.policy resource) where
  etag := congrArg Stored.etagOf (halike.stored resource).version
  roles := (halike.stored resource).roles

theorem write (resource : String) {bindings others : List Binding}
    (hroles : rolesOf bindings = rolesOf others) :
    (first.write resource bindings).Alike (second.write resource others) := by
  refine ⟨?_, halike.fetches, halike.commits, halike.fetchFailure,
    halike.commitFailure, halike.connectionFailure⟩
  intro other
  by_cases hsame : other = resource
  · subst hsame
    rw [stored_write_self, stored_write_self]
    exact ⟨congrArg (· + 1) (halike.stored other).version, hroles⟩
  · rw [stored_write_of_ne first bindings hsame,
      stored_write_of_ne second others hsame]
    exact halike.stored other

theorem change (resource : String)
    {edit otherEdit : List Binding → List Binding}
    (hedits : SameOnRoles edit otherEdit) :
    (first.change resource edit).Alike (second.change resource otherEdit) :=
  halike.write resource (hedits (halike.stored resource).roles)

theorem fetched : first.fetched.Alike second.fetched :=
  ⟨halike.stored, congrArg (· + 1) halike.fetches, halike.commits, rfl,
    halike.commitFailure, halike.connectionFailure⟩

theorem committed : first.committed.Alike second.committed :=
  ⟨halike.stored, halike.fetches, congrArg (· + 1) halike.commits,
    halike.fetchFailure, rfl, halike.connectionFailure⟩

theorem fetch (resource : String) :
    Agree Policy.Alike (first.fetch resource).1 (second.fetch resource).1 ∧
      (first.fetch resource).2.Alike (second.fetch resource).2 := by
  rw [Authority.fetch, Authority.fetch, halike.fetchFailure]
  cases second.fetchFailure with
  | some failure => exact ⟨.error failure, halike.fetched⟩
  | none => exact ⟨.ok (halike.policy resource), halike.fetched⟩

theorem commit (resource : String) {policy other : Policy}
    (hpolicies : policy.Alike other) :
    (first.commit resource policy).1 = (second.commit resource other).1 ∧
      (first.commit resource policy).2.Alike
        (second.commit resource other).2 := by
  rw [Authority.commit, Authority.commit, halike.commitFailure]
  cases second.commitFailure with
  | some failure => exact ⟨rfl, halike.committed⟩
  | none =>
      simp only [hpolicies.etag, (halike.policy resource).etag]
      by_cases hcurrent : other.etag = (second.policy resource).etag
      · rw [if_pos hcurrent, if_pos hcurrent]
        exact ⟨rfl, halike.committed.write resource hpolicies.roles⟩
      · rw [if_neg hcurrent, if_neg hcurrent]
        exact ⟨rfl, halike.committed⟩

theorem reach (resource : String) {state other : Tracked}
    (hstates : state.Alike other) :
    first.reach resource state = second.reach resource other := by
  rw [Authority.reach, Authority.reach, halike.connectionFailure, hstates.id]

end Authority.Alike

/-- What other actors do, with writes that act on roles in the same way. -/
inductive Interference.Alike : Interference → Interference → Prop
  | write (resource : Option String)
      {first second : List Binding → List Binding}
      (hedits : SameOnRoles first second) :
      Alike (.write resource first) (.write resource second)
  | failFetch (failure : RemoteError) :
      Alike (.failFetch failure) (.failFetch failure)
  | failCommit (failure : RemoteError) :
      Alike (.failCommit failure) (.failCommit failure)
  | failConnection (failure : Option RemoteError) :
      Alike (.failConnection failure) (.failConnection failure)

theorem Interference.Alike.apply {first second : Interference}
    (hchange : first.Alike second) (own : String) {authority other : Authority}
    (halike : authority.Alike other) :
    (Interference.apply own authority first).Alike
      (Interference.apply own other second) := by
  cases hchange with
  | write resource hedits => exact halike.change (resource.getD own) hedits
  | failFetch failure => exact { halike with fetchFailure := rfl }
  | failCommit failure => exact { halike with commitFailure := rfl }
  | failConnection failure => exact { halike with connectionFailure := rfl }

theorem Interference.applyAll_alike {changes others : List Interference}
    (hchanges : List.Forall₂ Interference.Alike changes others) (own : String)
    {authority other : Authority} (halike : authority.Alike other) :
    (Interference.applyAll own authority changes).Alike
      (Interference.applyAll own other others) := by
  induction hchanges generalizing authority other with
  | nil => exact halike
  | cons hhead htail ih => exact ih (hhead.apply own halike)

structure Race.Alike (first second : Race) : Prop where
  before : List.Forall₂ Interference.Alike first.before second.before
  after : List.Forall₂ Interference.Alike first.after second.after

structure Arena.Alike (first second : Arena) : Prop where
  authority : first.authority.Alike second.authority
  races : List.Forall₂ Race.Alike first.races second.races

theorem Race.next_alike {races others : List Race}
    (hraces : List.Forall₂ Race.Alike races others) :
    (races.headD {}).Alike (others.headD {}) ∧
      List.Forall₂ Race.Alike races.tail others.tail := by
  cases hraces with
  | nil => exact ⟨⟨.nil, .nil⟩, .nil⟩
  | cons hhead htail => exact ⟨hhead, htail⟩

theorem Arena.Alike.fetch {first second : Arena} (halike : first.Alike second)
    (own : String) :
    Agree Policy.Alike (first.fetch own).1 (second.fetch own).1 ∧
      (first.fetch own).2.Alike (second.fetch own).2 := by
  obtain ⟨hrace, hraces⟩ := Race.next_alike halike.races
  obtain ⟨hfetched, hserved⟩ :=
    (Interference.applyAll_alike hrace.before own halike.authority).fetch own
  exact ⟨hfetched, Interference.applyAll_alike hrace.after own hserved, hraces⟩

structure World.Alike (first second : World Arena) : Prop where
  remote : first.remote.Alike second.remote
  log : first.log = second.log

end AccessPolicy
