import AccessPolicy.Tracked

/-!
# Drift

How far the observed state of a binding is from its declaration.  After a grant
the role may hold members that others granted; they show up here as removals
that an assignment would make.
-/

namespace AccessPolicy

/-- What it takes to bring a tracked binding to its declaration. -/
inductive Plan where
  /-- State and declaration agree. -/
  | noChange
  /-- The binding is not tracked and must be written. -/
  | create
  /-- The role changed; a role is fixed for the life of a binding, so the
  binding is replaced. -/
  | replace (tracked declared : String)
  /-- The role stays and its members change. -/
  | update (added removed : MemberSet)
  deriving DecidableEq

def Plan.hasChanges : Plan → Bool
  | .noChange => false
  | _ => true

/-- Compare the observed state of a binding with its declaration. -/
def Tracked.plan (state : Tracked) (declaration : Declaration) : Plan :=
  if state.id.isNone then .create
  else if state.role ≠ declaration.role then
    .replace state.role declaration.role
  else
    let added := declaration.members \ state.members
    let removed := state.members \ declaration.members
    if added.isEmpty && removed.isEmpty then .noChange
    else .update added removed

end AccessPolicy
