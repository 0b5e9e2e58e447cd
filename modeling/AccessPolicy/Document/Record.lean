import AccessPolicy.Document.Basic

/-!
# Records in documents

A record is written as a table of named fields or as an array of its fields in
their order.  In a table the order carries no meaning, names that the record
does not know are passed over, and a name it knows may occur once.  What a field
that is left out means is decided by the field: it may be required, it may have
a default, or it may be absent from a table only.
-/

namespace AccessPolicy

inductive Format where
  | json
  | toml
  deriving DecidableEq

/-- Whether an array that stands for a record may go on behind the
record's last field. -/
def Format.allowsSurplus : Format → Bool
  | json => false
  | toml => true

namespace Document

structure Field (α : Type) where
  name : String
  read? : Document → Option α
  /-- The value of a field that a table does not name. -/
  unnamed : Option α := none
  /-- The value of a field before which an array ends. -/
  unreached : Option α := none

namespace Field

def required {α : Type} (name : String) (read? : Document → Option α) :
    Field α :=
  { name, read? }

/-- A field with a value of its own where it is left out. -/
def defaulted {α : Type} (name : String) (read? : Document → Option α)
    (default : α) : Field α :=
  { name, read?, unnamed := some default, unreached := some default }

/-- A field that may be null, and may be left out of a table to the same
effect. -/
def nullable {α : Type} (name : String) (read? : Document → Option α) :
    Field (Option α) where
  name
  read?
    | .null => some none
    | document => (read? document).map some
  unnamed := some none

end Field

def valuesOf (name : String) (fields : List (String × Document)) :
    List Document :=
  (fields.filter (·.1 = name)).map (·.2)

/-- How a record is read: from the fields of a table, and from the items of an
array, of which it leaves those behind its last field. -/
structure Record (α : Type) where
  /-- The names of the record's fields, in their order. -/
  names : List String
  ofFields? : List (String × Document) → Option α
  ofItems? : List Document → Option (α × List Document)

namespace Record

def ofField {α : Type} (field : Field α) : Record α where
  names := [field.name]
  ofFields? fields :=
    match valuesOf field.name fields with
    | [] => field.unnamed
    | [value] => field.read? value
    | _ => none
  ofItems?
    | [] => field.unreached.map (·, [])
    | item :: rest => (field.read? item).map (·, rest)

def append {α β : Type} (first : Record α) (second : Record β) :
    Record (α × β) where
  names := first.names ++ second.names
  ofFields? fields := do
    let left ← first.ofFields? fields
    let right ← second.ofFields? fields
    pure (left, right)
  ofItems? items := do
    let (left, rest) ← first.ofItems? items
    let (right, rest) ← second.ofItems? rest
    pure ((left, right), rest)

instance {α β : Type} : HAppend (Record α) (Record β) (Record (α × β)) :=
  ⟨append⟩

def map {α β : Type} (form : α → β) (record : Record α) : Record β where
  names := record.names
  ofFields? fields := (record.ofFields? fields).map form
  ofItems? items := (record.ofItems? items).map fun (value, rest) =>
    (form value, rest)

/-- Read a record from a table or an array.  A date has fields of its own, none
of which a record knows, so it is read as a table that leaves out every
field. -/
def read? {α : Type} (record : Record α) (format : Format) : Document → Option α
  | .table fields => record.ofFields? fields
  | .moment => record.ofFields? []
  | .array items => do
    let (value, rest) ← record.ofItems? items
    if rest.isEmpty || format.allowsSurplus then some value else none
  | _ => none

end Record

def text? : Document → Option String
  | text value => some value
  | _ => none

def boolean? : Document → Option Bool
  | boolean value => some value
  | _ => none

def below? (bound : Nat) : Document → Option Nat
  | integer (.ofNat value) => if value < bound then some value else none
  | _ => none

def uint32? (document : Document) : Option UInt32 :=
  (document.below? UInt32.size).map UInt32.ofNat

def uint64? (document : Document) : Option UInt64 :=
  (document.below? UInt64.size).map UInt64.ofNat

def list? {α : Type} (read? : Document → Option α) : Document → Option (List α)
  | array items => items.mapM read?
  | _ => none

end Document

end AccessPolicy
