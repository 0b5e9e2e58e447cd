import AccessPolicy.Document.Record
import Mathlib.Data.List.Forall2
import Mathlib.Data.List.Nodup

/-!
# How records are read

A record is read part by part.  A table is read as a value exactly if each of
the record's fields is there once and read as its part of the value, or is left
out and stands for this part; and an array of the parts in their order is read
as the value.  Both laws hold of a single field and pass to records that are put
together from others.  The order of fields and fields of other names never
matter, because a field only looks at the values under its own name.
-/

namespace AccessPolicy.Document

section

variable {name : String} {document : Document}
    {fields before after : List (String × Document)}

@[simp]
theorem valuesOf_append (name : String)
    (before after : List (String × Document)) :
    valuesOf name (before ++ after) =
      valuesOf name before ++ valuesOf name after := by
  simp [valuesOf]

@[simp]
theorem valuesOf_cons_self (name : String) (document : Document)
    (fields : List (String × Document)) :
    valuesOf name ((name, document) :: fields) =
      document :: valuesOf name fields := by
  simp [valuesOf]

theorem valuesOf_cons_of_ne {other : String} (hne : other ≠ name)
    (document : Document) (fields : List (String × Document)) :
    valuesOf name ((other, document) :: fields) = valuesOf name fields := by
  simp [valuesOf, hne]

theorem valuesOf_insert_of_ne {other : String} (hne : other ≠ name)
    (document : Document) (before after : List (String × Document)) :
    valuesOf name (before ++ (other, document) :: after) =
      valuesOf name (before ++ after) := by
  rw [valuesOf_append, valuesOf_cons_of_ne hne, valuesOf_append]

theorem valuesOf_perm {first second : List (String × Document)}
    (hperm : first.Perm second) (name : String) :
    (valuesOf name first).Perm (valuesOf name second) :=
  (hperm.filter _).map _

theorem valuesOf_ne_nil (hname : name ∈ fields.map (·.1)) :
    valuesOf name fields ≠ [] := by
  obtain ⟨field, hfield, rfl⟩ := List.mem_map.1 hname
  rw [valuesOf, Ne, List.map_eq_nil_iff, List.filter_eq_nil_iff]
  exact fun hnone => hnone field hfield (decide_eq_true rfl)

end

namespace Field

variable {α : Type} (name : String) (read? : Document → Option α)

@[simp]
theorem required_name : (required name read?).name = name := rfl

@[simp]
theorem required_read? : (required name read?).read? = read? := rfl

@[simp]
theorem defaulted_name (default : α) :
    (defaulted name read? default).name = name := rfl

@[simp]
theorem defaulted_read? (default : α) :
    (defaulted name read? default).read? = read? := rfl

@[simp]
theorem nullable_name : (nullable name read?).name = name := rfl

end Field

namespace Record

variable {α β : Type}

@[simp]
theorem read?_table (record : Record α) (format : Format)
    (fields : List (String × Document)) :
    record.read? format (.table fields) = record.ofFields? fields := rfl

@[simp]
theorem ofFields?_map (form : α → β) (record : Record α)
    (fields : List (String × Document)) :
    (record.map form).ofFields? fields = (record.ofFields? fields).map form :=
  rfl

@[simp]
theorem ofFields?_append (first : Record α) (second : Record β)
    (fields : List (String × Document)) :
    (first ++ second).ofFields? fields =
      (first.ofFields? fields).bind fun left =>
        (second.ofFields? fields).map (left, ·) := by
  show ((first.ofFields? fields).bind fun left => _) = _
  cases first.ofFields? fields <;> cases second.ofFields? fields <;> rfl

@[simp]
theorem ofFields?_ofField (field : Field α)
    (fields : List (String × Document)) :
    (ofField field).ofFields? fields =
      match valuesOf field.name fields with
      | [] => field.unnamed
      | [value] => field.read? value
      | _ => none := rfl

/-- A field with a default is read as what is written under its name, if
anything is. -/
theorem ofFields?_defaulted {name : String} {read? : Document → Option α}
    {default : α} {write : α → Document} {value : Option α}
    {fields : List (String × Document)}
    (hvalues : valuesOf name fields = (value.map write).toList)
    (hread : ∀ value, read? (write value) = some value) :
    (ofField (.defaulted name read? default)).ofFields? fields =
      some (value.getD default) := by
  rw [ofFields?_ofField, Field.defaulted_name, hvalues]
  cases value with
  | none => rfl
  | some value => exact hread value

end Record

/-- A field of a record, with the part that it has in the record's values. -/
structure RecordPart (α : Type) where
  {Value : Type}
  field : Field Value
  get : α → Value

namespace RecordPart

variable {α β : Type}

def name (part : RecordPart α) : String := part.field.name

def within (form : β → α) (part : RecordPart α) : RecordPart β :=
  ⟨part.field, part.get ∘ form⟩

/-- The fields of a table are read as this part of a value. -/
def InTable (part : RecordPart α) (fields : List (String × Document))
    (value : α) : Prop :=
  (Record.ofField part.field).ofFields? fields = some (part.get value)

def InItem (part : RecordPart α) (item : Document) (value : α) : Prop :=
  part.field.read? item = some (part.get value)

variable {part : RecordPart α} {fields other : List (String × Document)}
    {value : α}

/-- A field is there once and read as its part, or is left out and
stands for it. -/
theorem inTable_iff :
    part.InTable fields value ↔
      (valuesOf part.name fields = [] ∧
        part.field.unnamed = some (part.get value)) ∨
        ∃ item, valuesOf part.name fields = [item] ∧
          part.InItem item value := by
  rw [InTable, Record.ofFields?_ofField, ← name]
  match valuesOf part.name fields with
  | [] => simp
  | [item] => simp [InItem]
  | _ :: _ :: _ => simp

theorem InTable.congr (htable : part.InTable fields value)
    (hvalues : valuesOf part.name other = valuesOf part.name fields) :
    part.InTable other value := by
  rw [inTable_iff, hvalues]
  exact inTable_iff.1 htable

theorem InTable.perm (htable : part.InTable fields value)
    (hperm : other.Perm fields) : part.InTable other value := by
  have hvalues := valuesOf_perm hperm part.name
  rw [inTable_iff]
  obtain ⟨hnone, hunnamed⟩ | ⟨item, honly, hitem⟩ := inTable_iff.1 htable
  · rw [hnone] at hvalues
    exact .inl ⟨hvalues.eq_nil, hunnamed⟩
  · rw [honly] at hvalues
    exact .inr ⟨item, hvalues.eq_singleton, hitem⟩

/-- A field that occurs must be the only one of its name, and is read
from its value. -/
theorem inTable_insert_iff {before after : List (String × Document)}
    {document : Document} :
    part.InTable (before ++ (part.name, document) :: after) value ↔
      valuesOf part.name (before ++ after) = [] ∧
        part.InItem document value := by
  rw [inTable_iff, valuesOf_append, valuesOf_cons_self, valuesOf_append]
  constructor
  · rintro (⟨hnone, -⟩ | ⟨item, honly, hitem⟩)
    · exact absurd hnone
        (List.append_ne_nil_of_right_ne_nil _ (List.cons_ne_nil _ _))
    · obtain ⟨hbefore, hlater⟩ | ⟨-, hlater⟩ :=
        List.append_eq_singleton_iff.1 honly
      · obtain ⟨rfl, hafter⟩ := List.cons.inj hlater
        exact ⟨by rw [hbefore, hafter]; rfl, hitem⟩
      · cases hlater
  · rintro ⟨hnone, hitem⟩
    obtain ⟨hbefore, hafter⟩ := List.append_eq_nil_iff.1 hnone
    rw [hbefore, hafter]
    exact .inr ⟨document, rfl, hitem⟩

theorem inTable_within {β : Type} {form : β → α} {value : β} :
    (part.within form).InTable fields value ↔
      part.InTable fields (form value) :=
  Iff.rfl

end RecordPart

def Lists {α : Type} (parts : List (RecordPart α)) (items : List Document)
    (value : α) : Prop :=
  List.Forall₂ (fun item part => part.InItem item value) items parts

namespace Record

variable {α β : Type}

/-- A record is read part by part. -/
structure Consists (record : Record α)
    (parts : List (RecordPart α)) : Prop where
  table : ∀ fields value, record.ofFields? fields = some value ↔
    ∀ part ∈ parts, part.InTable fields value
  array : ∀ {items value}, Lists parts items value →
    ∀ rest, record.ofItems? (items ++ rest) = some (value, rest)

theorem consists_ofField (field : Field α) :
    (ofField field).Consists [⟨field, id⟩] where
  table fields value := by
    rw [List.forall_mem_singleton]
    exact Iff.rfl
  array {items value} hitems rest := by
    obtain ⟨item, none, hitem, hnone, rfl⟩ :=
      List.forall₂_cons_right_iff.1 hitems
    obtain rfl := List.forall₂_nil_right_iff.1 hnone
    show (field.read? item).map (·, rest) = _
    rw [show field.read? item = some value from hitem, Option.map_some]

theorem Consists.append {first : Record α} {second : Record β}
    {left : List (RecordPart α)} {right : List (RecordPart β)}
    (hfirst : first.Consists left) (hsecond : second.Consists right) :
    (first ++ second).Consists
      (left.map (RecordPart.within Prod.fst) ++
        right.map (RecordPart.within Prod.snd)) where
  table fields := by
    rintro ⟨former, latter⟩
    rw [ofFields?_append]
    simp only [List.forall_mem_append, List.forall_mem_map,
      RecordPart.inTable_within, ← hfirst.table, ← hsecond.table,
      Option.bind_eq_some_iff, Option.map_eq_some_iff,
      Prod.mk.injEq]
    constructor
    · rintro ⟨_, hformer, _, hlatter, rfl, rfl⟩
      exact ⟨hformer, hlatter⟩
    · rintro ⟨hformer, hlatter⟩
      exact ⟨former, hformer, latter, hlatter, rfl, rfl⟩
  array {items value} hitems rest := by
    have hleft := List.forall₂_take_append _ _ _ hitems
    have hright := List.forall₂_drop_append _ _ _ hitems
    rw [List.length_map] at hleft hright
    have hformer := hfirst.array (List.forall₂_map_right_iff.1 hleft)
    have hlatter := hsecond.array (List.forall₂_map_right_iff.1 hright) rest
    show ((first.ofItems? (items ++ rest)).bind fun read => _) = _
    rw [← List.take_append_drop left.length items, List.append_assoc, hformer]
    show ((second.ofItems? (items.drop left.length ++ rest)).bind
      fun read => _) = _
    rw [hlatter]
    rfl

theorem Consists.map {record : Record α} {parts : List (RecordPart α)}
    (hrecord : record.Consists parts) {form : α → β} (inverse : β → α)
    (hleft : ∀ value, inverse (form value) = value)
    (hright : ∀ value, form (inverse value) = value) :
    (record.map form).Consists (parts.map (RecordPart.within inverse)) where
  table fields value := by
    rw [ofFields?_map, List.forall_mem_map]
    simp only [RecordPart.inTable_within, ← hrecord.table,
      Option.map_eq_some_iff]
    constructor
    · rintro ⟨inner, hinner, rfl⟩
      rwa [hleft]
    · intro hinner
      exact ⟨inverse value, hinner, hright value⟩
  array {items value} hitems rest := by
    have hinner : Lists parts items (inverse value) :=
      List.forall₂_map_right_iff.1 hitems
    show (record.ofItems? (items ++ rest)).map
        (fun read => (form read.1, read.2)) = _
    rw [hrecord.array hinner, Option.map_some, hright]

/-- An array of all parts is read as the value of these parts. -/
theorem Consists.read?_array {record : Record α} {parts : List (RecordPart α)}
    (hrecord : record.Consists parts) (format : Format) {items : List Document}
    {value : α} (hitems : Lists parts items value) :
    record.read? format (.array items) = some value := by
  have hread := hrecord.array hitems []
  rw [List.append_nil] at hread
  show ((record.ofItems? items).bind fun read => _) = _
  rw [hread]
  rfl

end Record

end AccessPolicy.Document
