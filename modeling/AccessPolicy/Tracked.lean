import AccessPolicy.Identity
import AccessPolicy.Policy.Basic

/-!
# Tracked bindings

What is known locally of one declared binding.  The role and the members are
what the operator asks for until a read replaces them by what the authority
stores; the identity is set once the binding has been written and cleared when a
read finds the role gone.
-/

namespace AccessPolicy

/-- The local state of one declared binding. -/
structure Tracked where
  /-- The identity, absent while the binding is not tracked. -/
  id : Option BindingId := none
  role : String
  /-- The declared members, or those last observed. -/
  members : MemberSet
  /-- The etag of the policy in which the binding was last observed. -/
  etag : Option Etag := none
  deriving DecidableEq

namespace Tracked

/-- The state of a binding that does not exist yet. -/
def declare (role : String) (members : List String) : Tracked :=
  { role, members := .ofList members }

/-- The state of a binding that exists under an identity.  Its members are
unknown until the first read. -/
def ofId (id : BindingId) : Tracked :=
  { id := some id, role := id.role, members := ∅ }

def setMembers (state : Tracked) (members : List String) : Tracked :=
  { state with members := .ofList members }

def setId (state : Tracked) (id : BindingId) : Tracked :=
  { state with id := some id }

def clearId (state : Tracked) : Tracked :=
  { state with id := none }

def observe (state : Tracked) (binding : Binding) (etag : Etag) : Tracked :=
  { state with
    role := binding.role, members := binding.memberSet, etag := some etag }

/-- The binding that a write would put into the policy. -/
def declaration (state : Tracked) : Except OperationError Declaration :=
  if state.role.isEmpty then .error (.invalidBinding .emptyRole)
  else .ok ⟨state.role, state.members⟩

end Tracked

end AccessPolicy
