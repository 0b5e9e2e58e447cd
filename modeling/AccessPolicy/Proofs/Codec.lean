import AccessPolicy.Codec
import AccessPolicy.Proofs.Document.Record
import AccessPolicy.Proofs.Json.Syntax

/-!
# Written values are read back

Every value of a stored or exchanged type has a document that can be written as
JSON, and reading this document, in either format, gives the value.  A type with
both properties is read back from its JSON text; those of records follow from
those of their fields.
-/

namespace AccessPolicy

open Document (Record Field)

/-- A type whose values are read back from the documents in which they
are written. -/
class LawfulCodec (α : Type) [Codec α] : Prop where
  written : ∀ value : α, Json.Written (Codec.toDocument value)
  read : ∀ (format : Format) (value : α),
    Codec.ofDocument? format (Codec.toDocument value) = some value

open LawfulCodec (written read)

attribute [simp] LawfulCodec.written LawfulCodec.read

/-- A value of such a type is read back from its JSON text. -/
theorem decode?_encode {α : Type} [Codec α] [LawfulCodec α] (value : α) :
    decode? .json (encode value) = some value := by
  rw [decode?, Format.parse?, encode, Json.parse?_render (written value)]
  exact read .json value

namespace Document

@[simp]
theorem uint32?_ofNat (value : UInt32) :
    uint32? (.integer value.toNat) = some value := by
  have hbound : value.toNat < UInt32.size := value.toNat_lt_size
  show ((below? UInt32.size (.integer (.ofNat value.toNat))).map
    UInt32.ofNat) = _
  rw [below?, if_pos hbound, Option.map_some, UInt32.ofNat_toNat]

@[simp]
theorem uint64?_ofNat (value : UInt64) :
    uint64? (.integer value.toNat) = some value := by
  have hbound : value.toNat < UInt64.size := value.toNat_lt_size
  show ((below? UInt64.size (.integer (.ofNat value.toNat))).map
    UInt64.ofNat) = _
  rw [below?, if_pos hbound, Option.map_some, UInt64.ofNat_toNat]

/-- A list is read back if its elements are. -/
theorem list?_map {α : Type} {read? : Document → Option α}
    {write : α → Document} (hread : ∀ value, read? (write value) = some value)
    (values : List α) :
    list? read? (.array (values.map write)) = some values := by
  have hcomp : read? ∘ write = fun value => pure value := funext hread
  rw [list?, List.mapM_map, hcomp, List.mapM_pure, List.map_id']
  rfl

@[simp]
theorem list?_ofTexts (texts : List String) :
    list? text? (ofTexts texts) = some texts := by
  have hread : ∀ value, text? (text value) = some value := fun _ => rfl
  exact list?_map hread texts

@[simp]
theorem written_array {α : Type} {write : α → Document}
    (hwrite : ∀ value, Json.Written (write value)) (values : List α) :
    Json.Written (.array (values.map write)) := by
  refine .array fun item hitem => ?_
  obtain ⟨value, _, rfl⟩ := List.mem_map.1 hitem
  exact hwrite value

@[simp]
theorem written_ofTexts (texts : List String) : Json.Written (ofTexts texts) :=
  written_array .text texts

/-- A value that may be absent is read back if its document is not null. -/
theorem read?_nullable {α : Type} [Codec α] [LawfulCodec α]
    (hnull : ∀ value : α, Codec.toDocument value ≠ .null) (name : String)
    (format : Format) (value : Option α) :
    (Field.nullable name (Codec.ofDocument? (α := α) format)).read?
      (.ofOption value) = some value := by
  cases value with
  | none => rfl
  | some value =>
      have hread := read format value
      have hvalue := hnull value
      simp only [ofOption, Field.nullable]
      generalize Codec.toDocument value = document at hread hvalue
      cases document with
      | null => exact absurd rfl hvalue
      | _ => simp [hread]

@[simp]
theorem written_ofOption {α : Type} [Codec α] [LawfulCodec α]
    (value : Option α) : Json.Written (ofOption value) := by
  cases value with
  | none => exact .null
  | some value => exact written value

end Document

section

open Document

instance : LawfulCodec Etag where
  written etag := .text etag.token
  read _ _ := rfl

instance : LawfulCodec MemberSet where
  written members := written_ofTexts members.toList
  read _ members := by
    show (list? text? (ofTexts members.toList)).map MemberSet.ofList = _
    rw [list?_ofTexts, Option.map_some, Option.some.injEq]
    ext member
    rw [MemberSet.mem_ofList, MemberSet.mem_toList]

instance : LawfulCodec Binding where
  written binding := .table <| by simp
  read _ binding := by
    show Binding.record.ofFields?
      [("role", .text binding.role), ("members", .ofTexts binding.members)] = _
    simp [Binding.record, valuesOf, text?]

instance : LawfulCodec Policy where
  written policy := .table <| by simp
  read format policy := by
    show (Policy.record format).ofFields?
      [("etag", Codec.toDocument policy.etag),
        ("bindings", .array (policy.bindings.map Codec.toDocument))] = _
    simp [Policy.record, valuesOf, list?_map (read format)]

instance : LawfulCodec Declaration where
  written declaration := .table <| by simp
  read format declaration := by
    show (Declaration.record format).ofFields?
      [("role", .text declaration.role),
        ("members", Codec.toDocument declaration.members)] = _
    simp [Declaration.record, valuesOf, text?]

instance : LawfulCodec BindingId where
  written id := .table <| by simp
  read _ id := by
    show BindingId.record.ofFields?
      [("resource_id", .text id.resource), ("role", .text id.role)] = _
    simp [BindingId.record, valuesOf, text?]

instance : LawfulCodec Tracked where
  written state := .table <| by simp
  read format state := by
    have hid :=
      read?_nullable (α := BindingId) (by rintro _ ⟨⟩) "id" format state.id
    have hetag :=
      read?_nullable (α := Etag) (by rintro _ ⟨⟩) "etag" format state.etag
    show (Tracked.record format).ofFields?
      [("id", .ofOption state.id), ("role", .text state.role),
        ("members", Codec.toDocument state.members),
        ("etag", .ofOption state.etag)] = _
    simp [Tracked.record, valuesOf, text?, hid, hetag]

instance : LawfulCodec Backoff where
  written backoff := .table <| by simp
  read _ backoff := by
    show Backoff.record.ofFields?
      [("max_attempts", .integer backoff.maxAttempts.toNat),
        ("initial_delay_ms", .integer backoff.initialDelayMs.toNat),
        ("max_delay_ms", .integer backoff.maxDelayMs.toNat)] = _
    simp [Backoff.record, valuesOf]

instance : LawfulCodec Settings where
  written settings := .table <| by simp
  read format settings := by
    show (Settings.record format).ofFields?
      [("conflict_retry", Codec.toDocument settings.backoff),
        ("log_policy_contents", .boolean settings.logPolicyContents)] = _
    simp [Settings.record, valuesOf, boolean?]

end

/-- Every value of a type that is stored or exchanged is what its JSON text is
read as, whatever its texts, lists and numbers hold. -/
theorem json_round_trip :
    (∀ etag : Etag, decode? .json (encode etag) = some etag) ∧
    (∀ binding : Binding, decode? .json (encode binding) = some binding) ∧
    (∀ policy : Policy, decode? .json (encode policy) = some policy) ∧
    (∀ declaration : Declaration,
      decode? .json (encode declaration) = some declaration) ∧
    (∀ id : BindingId, decode? .json (encode id) = some id) ∧
    (∀ state : Tracked, decode? .json (encode state) = some state) ∧
    (∀ backoff : Backoff, decode? .json (encode backoff) = some backoff) ∧
    (∀ settings : Settings, decode? .json (encode settings) = some settings) :=
  ⟨decode?_encode, decode?_encode, decode?_encode, decode?_encode,
    decode?_encode, decode?_encode, decode?_encode, decode?_encode⟩

end AccessPolicy
