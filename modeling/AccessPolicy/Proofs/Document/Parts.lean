import AccessPolicy.Proofs.Codec

/-!
# Parts of the stored types

Each type that is stored or exchanged as a record is read part by part, in
either format, and its written form names its parts in their order.  The names
are distinct, so no two fields compete for one value of a table.
-/

namespace AccessPolicy

open Document (RecordPart Record Lists text? list? uint32? uint64? boolean?)

/-- Values of a type are read as these parts, and written by naming them
in their order. -/
structure ReadByParts (α : Type) [Codec α]
    (parts : Format → List (RecordPart α)) : Prop where
  nodup : ∀ format, ((parts format).map RecordPart.name).Nodup
  table : ∀ format fields value,
    Codec.ofDocument? format (.table fields) = some value ↔
    ∀ part ∈ parts format, part.InTable fields value
  array : ∀ {format items value}, Lists (parts format) items value →
    Codec.ofDocument? format (.array items) = some value
  written : ∀ format (value : α), ∃ items, Lists (parts format) items value ∧
    Codec.toDocument value =
      .table (((parts format).map RecordPart.name).zip items)

theorem ReadByParts.of_record {α : Type} [Codec α]
    {parts : Format → List (RecordPart α)} (record : Format → Record α)
    (hconsists : ∀ format, (record format).Consists (parts format))
    (hread : ∀ format document,
      Codec.ofDocument? format document = (record format).read? format document)
    (hnodup : ∀ format, ((parts format).map RecordPart.name).Nodup)
    (hwritten : ∀ format (value : α), ∃ items,
      Lists (parts format) items value ∧
      Codec.toDocument value =
        .table (((parts format).map RecordPart.name).zip items)) :
    ReadByParts α parts where
  nodup := hnodup
  table format fields value := by
    rw [hread]
    exact (hconsists format).table fields value
  array {format items value} hitems := by
    rw [hread]
    exact (hconsists format).read?_array format hitems
  written := hwritten

def Binding.parts : Format → List (RecordPart Binding) := fun _ =>
  [⟨.required "role" text?, Binding.role⟩,
    ⟨.defaulted "members" (list? text?) [], Binding.members⟩]

theorem Binding.readByParts : ReadByParts Binding Binding.parts := by
  refine .of_record (fun _ => Binding.record) ?consists
    (fun _ _ => rfl) ?nodup ?written
  case consists =>
    intro format
    exact ((Record.consists_ofField _).append (Record.consists_ofField _)).map
      (fun binding : Binding => (binding.role, binding.members))
        (fun _ => rfl) fun _ => rfl
  case nodup => exact fun _ => (by decide : ["role", "members"].Nodup)
  case written =>
    intro format binding
    refine ⟨[.text binding.role, .ofTexts binding.members], ?_, rfl⟩
    exact .cons rfl (.cons (Document.list?_ofTexts _) .nil)

def Policy.parts : Format → List (RecordPart Policy) := fun format =>
  [⟨.defaulted "etag" (Codec.ofDocument? format) ⟨""⟩, Policy.etag⟩,
    ⟨.defaulted "bindings" (list? (Codec.ofDocument? format)) [],
      Policy.bindings⟩]

theorem Policy.readByParts : ReadByParts Policy Policy.parts := by
  refine .of_record Policy.record ?consists (fun _ _ => rfl) ?nodup ?written
  case consists =>
    intro format
    exact ((Record.consists_ofField _).append (Record.consists_ofField _)).map
      (fun policy : Policy => (policy.etag, policy.bindings))
        (fun _ => rfl) fun _ => rfl
  case nodup => exact fun _ => (by decide : ["etag", "bindings"].Nodup)
  case written =>
    intro format policy
    refine ⟨[_, _], ?_, rfl⟩
    exact .cons (LawfulCodec.read format _)
      (.cons (Document.list?_map (LawfulCodec.read format) _) .nil)

def Declaration.parts : Format → List (RecordPart Declaration) := fun format =>
  [⟨.required "role" text?, Declaration.role⟩,
    ⟨.required "members" (Codec.ofDocument? format), Declaration.members⟩]

theorem Declaration.readByParts :
    ReadByParts Declaration Declaration.parts := by
  refine .of_record Declaration.record ?consists
    (fun _ _ => rfl) ?nodup ?written
  case consists =>
    intro format
    exact ((Record.consists_ofField _).append (Record.consists_ofField _)).map
      (fun declaration : Declaration => (declaration.role, declaration.members))
        (fun _ => rfl)
      fun _ => rfl
  case nodup => exact fun _ => (by decide : ["role", "members"].Nodup)
  case written =>
    intro format declaration
    refine ⟨[.text declaration.role, _], ?_, rfl⟩
    exact .cons rfl (.cons (LawfulCodec.read format _) .nil)

def BindingId.parts : Format → List (RecordPart BindingId) := fun _ =>
  [⟨.required "resource_id" text?, BindingId.resource⟩,
    ⟨.required "role" text?, BindingId.role⟩]

theorem BindingId.readByParts : ReadByParts BindingId BindingId.parts := by
  refine .of_record (fun _ => BindingId.record) ?consists
    (fun _ _ => rfl) ?nodup ?written
  case consists =>
    intro format
    exact ((Record.consists_ofField _).append (Record.consists_ofField _)).map
      (fun id : BindingId => (id.resource, id.role)) (fun _ => rfl) fun _ => rfl
  case nodup => exact fun _ => (by decide : ["resource_id", "role"].Nodup)
  case written =>
    intro format id
    refine ⟨[.text id.resource, .text id.role], ?_, rfl⟩
    exact .cons rfl (.cons rfl .nil)

def Tracked.parts : Format → List (RecordPart Tracked) := fun format =>
  [⟨.nullable "id" (Codec.ofDocument? (α := BindingId) format), Tracked.id⟩,
    ⟨.required "role" text?, Tracked.role⟩,
    ⟨.required "members" (Codec.ofDocument? format), Tracked.members⟩,
    ⟨.nullable "etag" (Codec.ofDocument? (α := Etag) format), Tracked.etag⟩]

theorem Tracked.readByParts : ReadByParts Tracked Tracked.parts := by
  refine .of_record Tracked.record ?consists (fun _ _ => rfl) ?nodup ?written
  case consists =>
    intro format
    exact ((((Record.consists_ofField _).append
      (Record.consists_ofField _)).append
      (Record.consists_ofField _)).append (Record.consists_ofField _)).map
      (fun state : Tracked =>
        (((state.id, state.role), state.members), state.etag))
      (fun _ => rfl) fun _ => rfl
  case nodup =>
    exact fun _ => (by decide : ["id", "role", "members", "etag"].Nodup)
  case written =>
    intro format state
    refine ⟨[_, .text state.role, _, _], ?_, rfl⟩
    exact .cons (Document.read?_nullable (by rintro _ ⟨⟩) "id" format state.id)
      (.cons rfl (.cons (LawfulCodec.read format _)
        (.cons
          (Document.read?_nullable (by rintro _ ⟨⟩) "etag" format state.etag)
          .nil)))

def Backoff.parts : Format → List (RecordPart Backoff) := fun _ =>
  [⟨.defaulted "max_attempts" uint32? 3, Backoff.maxAttempts⟩,
    ⟨.defaulted "initial_delay_ms" uint64? 100, Backoff.initialDelayMs⟩,
    ⟨.defaulted "max_delay_ms" uint64? 5000, Backoff.maxDelayMs⟩]

theorem Backoff.readByParts : ReadByParts Backoff Backoff.parts := by
  refine .of_record (fun _ => Backoff.record) ?consists
    (fun _ _ => rfl) ?nodup ?written
  case consists =>
    intro format
    exact (((Record.consists_ofField _).append
      (Record.consists_ofField _)).append
      (Record.consists_ofField _)).map
      (fun backoff : Backoff =>
        ((backoff.maxAttempts, backoff.initialDelayMs), backoff.maxDelayMs))
      (fun _ => rfl) fun _ => rfl
  case nodup =>
    exact fun _ =>
      (by decide : ["max_attempts", "initial_delay_ms", "max_delay_ms"].Nodup)
  case written =>
    intro format backoff
    refine ⟨[_, _, _], ?_, rfl⟩
    exact .cons (Document.uint32?_ofNat _)
      (.cons (Document.uint64?_ofNat _) (.cons (Document.uint64?_ofNat _) .nil))

def Settings.parts : Format → List (RecordPart Settings) := fun format =>
  [⟨.defaulted "conflict_retry" (Codec.ofDocument? format) {},
    Settings.backoff⟩,
    ⟨.defaulted "log_policy_contents" boolean? false,
      Settings.logPolicyContents⟩]

theorem Settings.readByParts : ReadByParts Settings Settings.parts := by
  refine .of_record Settings.record ?consists (fun _ _ => rfl) ?nodup ?written
  case consists =>
    intro format
    exact ((Record.consists_ofField _).append (Record.consists_ofField _)).map
      (fun settings : Settings =>
        (settings.backoff, settings.logPolicyContents)) (fun _ => rfl)
      fun _ => rfl
  case nodup =>
    exact fun _ => (by decide : ["conflict_retry", "log_policy_contents"].Nodup)
  case written =>
    intro format settings
    refine ⟨[_, .boolean settings.logPolicyContents], ?_, rfl⟩
    exact .cons (LawfulCodec.read format _) (.cons rfl .nil)

end AccessPolicy
