import AccessPolicy.Error

/-!
# Identities of bindings

A tracked binding is named by its resource and its role, joined by a slash.
Both parts may hold slashes themselves, so a name is read back by looking for
the leftmost slash with a resource before it and the shape of a role behind it.
-/

namespace AccessPolicy

/-- The resource that holds a policy, and a role in it. -/
structure BindingId where
  resource : String
  role : String
  deriving DecidableEq, Inhabited

namespace BindingId

/-- Put a character in front of the first of some segments. -/
def extendFirst (c : Char) : List (List Char) → List (List Char)
  | [] => [[c]]
  | first :: rest => (c :: first) :: rest

/-- The parts of a text between its slashes. -/
def segments : List Char → List (List Char)
  | [] => [[]]
  | c :: rest =>
    if c = '/' then [] :: segments rest else extendFirst c (segments rest)

/-- Whether a text has the shape of a role: `roles/<name>` for a predefined
role, or the same below `projects/<project>/` or `organizations/<organization>/`
for a custom one. -/
def isRole (text : List Char) : Bool :=
  match segments text with
  | [marker, name] => marker = "roles".toList && !name.isEmpty
  | [parent, owner, marker, name] =>
    (parent = "projects".toList || parent = "organizations".toList) &&
      !owner.isEmpty && marker = "roles".toList && !name.isEmpty
  | _ => false

/-- Every way to cut a text at one of its slashes, leftmost first. -/
def cuts : List Char → List (List Char × List Char)
  | [] => []
  | c :: rest =>
    let later := (cuts rest).map fun (left, right) => (c :: left, right)
    if c = '/' then ([], rest) :: later else later

def split? (name : String) : Option BindingId :=
  ((cuts name.toList).find? fun (left, right) =>
    !left.isEmpty && isRole right).map
    fun (left, right) => ⟨String.ofList left, String.ofList right⟩

def parse (name : String) : Except OperationError BindingId :=
  match split? name with
  | some id => .ok id
  | none => .error (.invalidBinding (.unsplittable name))

def display (id : BindingId) : String :=
  id.resource ++ "/" ++ id.role

/-- Identities are ordered by resource, and by role on one resource. -/
def precedes (left right : BindingId) : Bool :=
  left.resource < right.resource ||
    left.resource = right.resource && left.role ≤ right.role

def sorted (ids : List BindingId) : List BindingId :=
  ids.eraseDups.mergeSort precedes

end BindingId

end AccessPolicy
