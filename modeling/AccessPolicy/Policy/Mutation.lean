import AccessPolicy.Error
import AccessPolicy.Policy.Merge

/-!
# Changes of a policy

The three changes that a declared binding can make.  Granting adds the declared
members to whatever the role grants already, assigning makes the role grant
exactly them, and revoking drops the role.  Granting never takes a member away:
what others granted stays until an assignment.

Each change ends with a check that its role has at most one entry, because a
lookup stops at the first one.  None of them touches the etag.
-/

namespace AccessPolicy

/-- A change of a policy that yields a value, or gives up and leaves no
policy behind. -/
abbrev Mutation (α : Type) := Policy → Except OperationError (α × Policy)

namespace Policy

def requireSingle (policy : Policy) (role : String) :
    Except OperationError Unit :=
  if policy.roleCount role ≤ 1 then .ok ()
  else .error (.mutation (.repeatedRole (policy.roleCount role) role))

/-- The bindings after the declared one was added to them and everything
was merged. -/
def grantedBindings (bindings : List Binding) (declaration : Declaration) :
    List Binding :=
  mergeBindings (bindings ++ [declaration.toBinding])

/-- The bindings with the first entry for the role replaced and its
further entries dropped, or with the declared binding behind the others if
the role has no entry. -/
def assignedBindings (declaration : Declaration) : List Binding → List Binding
  | [] => [declaration.toBinding]
  | entry :: rest =>
    if entry.role = declaration.role then
      declaration.toBinding :: rest.filter (·.role ≠ declaration.role)
    else entry :: assignedBindings declaration rest

def revokedBindings (role : String) (bindings : List Binding) : List Binding :=
  bindings.filter (·.role ≠ role)

/-- Add the declared members to the role, keeping every member it is
granted to already. -/
def grant (declaration : Declaration) : Mutation Unit := fun policy => do
  let granted :=
    { policy with bindings := grantedBindings policy.bindings declaration }
  granted.requireSingle declaration.role
  pure ((), granted)

/-- Make the role grant exactly the declared members. -/
def assign (declaration : Declaration) : Mutation Unit := fun policy => do
  let assigned :=
    { policy with bindings := assignedBindings declaration policy.bindings }
  assigned.requireSingle declaration.role
  pure ((), assigned)

/-- Drop the role, and tell how many entries it had. -/
def revoke (role : String) : Mutation Nat := fun policy => do
  let revoked :=
    { policy with bindings := revokedBindings role policy.bindings }
  revoked.requireSingle role
  pure (policy.bindings.length - revoked.bindings.length, revoked)

end Policy

end AccessPolicy
