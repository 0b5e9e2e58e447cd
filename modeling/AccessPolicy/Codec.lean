import AccessPolicy.Document.Record
import AccessPolicy.Json.Syntax
import AccessPolicy.Settings
import AccessPolicy.Toml.Syntax
import AccessPolicy.Tracked

/-!
# Written forms of the stored types

Each type that is stored or exchanged has one document in which it is written
and a rule by which it is read.  Writing names every field in its order; reading
is as lenient as the record rule.
-/

namespace AccessPolicy

open Document (Record Field)

/-- A type with a document in which its values are written, and a rule
for reading them. -/
class Codec (α : Type) where
  toDocument : α → Document
  ofDocument? : Format → Document → Option α

/-- The compact JSON text of a value. -/
def encode {α : Type} [Codec α] (value : α) : String :=
  Json.render (Codec.toDocument value)

def Format.parse? : Format → String → Option Document
  | .json => Json.parse?
  | .toml => Toml.parse?

def decode? {α : Type} [Codec α] (format : Format) (text : String) :
    Option α := do
  Codec.ofDocument? format (← format.parse? text)

def Document.ofTexts (texts : List String) : Document :=
  .array (texts.map .text)

instance : Codec Etag where
  toDocument etag := .text etag.token
  ofDocument? _ document := document.text?.map Etag.mk

def Binding.record : Record Binding :=
  (Record.ofField (.required "role" Document.text?) ++
    Record.ofField
      (.defaulted "members" (Document.list? Document.text?) [])).map
    fun (role, members) => ⟨role, members⟩

instance : Codec Binding where
  toDocument binding :=
    .table [("role", .text binding.role), ("members", .ofTexts binding.members)]
  ofDocument? format := Binding.record.read? format

def Policy.record (format : Format) : Record Policy :=
  (Record.ofField (.defaulted "etag" (Codec.ofDocument? format) ⟨""⟩) ++
    Record.ofField (.defaulted "bindings"
      (Document.list? (Codec.ofDocument? (α := Binding) format)) [])).map
    fun (etag, bindings) => ⟨etag, bindings⟩

instance : Codec Policy where
  toDocument policy :=
    .table [("etag", Codec.toDocument policy.etag),
      ("bindings", .array (policy.bindings.map Codec.toDocument))]
  ofDocument? format := (Policy.record format).read? format

/-- A set of principals is written as the array of its members in increasing
order; it is read from them in any order and with repetitions. -/
instance : Codec MemberSet where
  toDocument members := .ofTexts members.toList
  ofDocument? _ document := (document.list? Document.text?).map MemberSet.ofList

def Declaration.record (format : Format) : Record Declaration :=
  (Record.ofField (.required "role" Document.text?) ++
    Record.ofField (.required "members" (Codec.ofDocument? format))).map
    fun (role, members) => ⟨role, members⟩

instance : Codec Declaration where
  toDocument declaration :=
    .table [("role", .text declaration.role),
      ("members", Codec.toDocument declaration.members)]
  ofDocument? format := (Declaration.record format).read? format

def BindingId.record : Record BindingId :=
  (Record.ofField (.required "resource_id" Document.text?) ++
    Record.ofField (.required "role" Document.text?)).map
    fun (resource, role) => ⟨resource, role⟩

instance : Codec BindingId where
  toDocument id :=
    .table [("resource_id", .text id.resource), ("role", .text id.role)]
  ofDocument? format := BindingId.record.read? format

def Document.ofOption {α : Type} [Codec α] : Option α → Document
  | some value => Codec.toDocument value
  | none => .null

/-- The fields of a tracked binding.  Identity and etag may be null, and may be
left out of a table. -/
def Tracked.record (format : Format) : Record Tracked :=
  (Record.ofField
    (.nullable "id" (Codec.ofDocument? (α := BindingId) format)) ++
    Record.ofField (.required "role" Document.text?) ++
    Record.ofField
      (.required "members" (Codec.ofDocument? (α := MemberSet) format)) ++
    Record.ofField
      (.nullable "etag" (Codec.ofDocument? (α := Etag) format))).map
    fun (((id, role), members), etag) => ⟨id, role, members, etag⟩

instance : Codec Tracked where
  toDocument state :=
    .table [("id", .ofOption state.id), ("role", .text state.role),
      ("members", Codec.toDocument state.members),
      ("etag", .ofOption state.etag)]
  ofDocument? format := (Tracked.record format).read? format

def Backoff.record : Record Backoff :=
  let default : Backoff := {}
  (Record.ofField
      (.defaulted "max_attempts" Document.uint32? default.maxAttempts) ++
    Record.ofField
      (.defaulted "initial_delay_ms" Document.uint64? default.initialDelayMs) ++
    Record.ofField
      (.defaulted "max_delay_ms" Document.uint64? default.maxDelayMs)).map
    fun ((maxAttempts, initialDelayMs), maxDelayMs) =>
      ⟨maxAttempts, initialDelayMs, maxDelayMs⟩

instance : Codec Backoff where
  toDocument backoff :=
    .table [("max_attempts", .integer backoff.maxAttempts.toNat),
      ("initial_delay_ms", .integer backoff.initialDelayMs.toNat),
      ("max_delay_ms", .integer backoff.maxDelayMs.toNat)]
  ofDocument? format := Backoff.record.read? format

def Settings.record (format : Format) : Record Settings :=
  let default : Settings := {}
  (Record.ofField (.defaulted "conflict_retry" (Codec.ofDocument? format)
      default.backoff) ++
    Record.ofField (.defaulted "log_policy_contents" Document.boolean?
      default.logPolicyContents)).map
    fun (backoff, logPolicyContents) => ⟨backoff, logPolicyContents⟩

instance : Codec Settings where
  toDocument settings :=
    .table [("conflict_retry", Codec.toDocument settings.backoff),
      ("log_policy_contents", .boolean settings.logPolicyContents)]
  ofDocument? format := (Settings.record format).read? format

end AccessPolicy
