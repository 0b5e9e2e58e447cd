import AccessPolicy.MemberSet

/-!
# Access policies

A policy is what a remote authority stores for one resource: a list of bindings,
each granting a role to some members, under an etag that names this version of
the list.  Other writers may leave anything in it, so nothing here assumes that
a role occurs once or that a member list has no repetitions.  What an operator
declares is a role and a set of members.
-/

namespace AccessPolicy

/-- A token that names one version of a policy; a commit must send back the
one it was read at. -/
structure Etag where
  token : String
  deriving DecidableEq, Inhabited

/-- A role and the principals it is granted to, as stored. -/
structure Binding where
  role : String
  members : List String := []
  deriving DecidableEq, Inhabited

/-- The members of a stored binding, order and repetition aside. -/
def Binding.memberSet (binding : Binding) : MemberSet :=
  .ofList binding.members

@[simp]
theorem Binding.mem_memberSet {binding : Binding} {member : String} :
    member ∈ binding.memberSet ↔ member ∈ binding.members :=
  MemberSet.mem_ofList

/-- The bindings of a resource and the etag they were read at. -/
structure Policy where
  etag : Etag := ⟨""⟩
  bindings : List Binding := []
  deriving DecidableEq, Inhabited

/-- The binding an operator asks for. -/
structure Declaration where
  role : String
  members : MemberSet
  deriving DecidableEq

/-- A declared binding in the form in which it is stored: its members in
increasing order. -/
def Declaration.toBinding (declaration : Declaration) : Binding :=
  ⟨declaration.role, declaration.members.toList⟩

namespace Policy

/-- The first entry for a role.  Roles are compared character by character. -/
def binding? (policy : Policy) (role : String) : Option Binding :=
  policy.bindings.find? (·.role = role)

def roleCount (policy : Policy) (role : String) : Nat :=
  policy.bindings.countP (·.role = role)

/-- Whether no entry has a role that was seen before it or in another list. -/
def rolesFresh (seen : List String) : List Binding → Bool
  | [] => true
  | binding :: rest =>
    binding.role ∉ seen && rolesFresh (binding.role :: seen) rest

/-- Whether every role has at most one entry, found in one pass over the
entries. -/
def hasUniqueRoles (policy : Policy) : Bool :=
  rolesFresh [] policy.bindings

end Policy

end AccessPolicy
