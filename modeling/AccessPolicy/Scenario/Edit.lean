import AccessPolicy.Arena

/-!
# Edits

Small changes from which writes are put together: those that any writer can
make to a list of bindings, and those that only the change of a
read-modify-write cycle can make.
-/

namespace AccessPolicy

inductive BindingEdit where
  /-- Add a binding behind the others. -/
  | push (binding : Binding)
  /-- Drop every entry for a role. -/
  | removeRole (role : String)
  /-- Replace the members of the first entry for a role, if there is one. -/
  | setMembers (role : String) (members : List String)
  | clear
  | reverse

namespace BindingEdit

def replaceFirst (role : String) (members : List String) :
    List Binding → List Binding
  | [] => []
  | entry :: rest =>
    if entry.role = role then { entry with members } :: rest
    else entry :: replaceFirst role members rest

def apply (bindings : List Binding) : BindingEdit → List Binding
  | push binding => bindings ++ [binding]
  | removeRole role => Policy.revokedBindings role bindings
  | setMembers role members => replaceFirst role members bindings
  | clear => []
  | reverse => bindings.reverse

def applyAll (edits : List BindingEdit) (bindings : List Binding) :
    List Binding :=
  edits.foldl apply bindings

end BindingEdit

inductive PolicyEdit where
  /-- Change the bindings as any writer can. -/
  | editBindings (edit : BindingEdit)
  | setEtag (etag : Etag)
  | refuse (reason : String)
  /-- Let another actor act now. -/
  | interfere (changes : List Interference)
  | grant (declaration : Declaration)
  | assign (declaration : Declaration)
  | revoke (role : String)
  | requireSingle (role : String)

namespace PolicyEdit

def apply (resource : String) (policy : Policy) :
    PolicyEdit → Action Arena Policy
  | editBindings edit =>
    pure { policy with bindings := edit.apply policy.bindings }
  | setEtag etag => pure { policy with etag }
  | refuse reason => throw (.mutation (.refused reason))
  | interfere changes => do
    modify fun world =>
      { world with
        remote.authority :=
          Interference.applyAll resource world.remote.authority changes }
    pure policy
  | grant declaration => (·.2) <$> liftM (Policy.grant declaration policy)
  | assign declaration => (·.2) <$> liftM (Policy.assign declaration policy)
  | revoke role => (·.2) <$> liftM (Policy.revoke role policy)
  | requireSingle role => do
    liftM (policy.requireSingle role)
    pure policy

/-- Make several changes up to the first that fails, and yield the
number of bindings. -/
def applyAll (resource : String) (edits : List PolicyEdit) (policy : Policy) :
    Action Arena (Nat × Policy) := do
  let changed ← edits.foldlM (apply resource) policy
  pure (changed.bindings.length, changed)

end PolicyEdit

end AccessPolicy
