import AccessPolicy.Proofs.Document.Parts
import AccessPolicy.Proofs.Json.Expressible
import Mathlib.Logic.Relation

/-!
# The incidental shape of JSON objects

An object that is read as a value goes on to be read as this value when its
fields are put in another order, when fields of unknown names are added, and
when fields are left out that have their default values.  The array of its
values is read alike.  What matters is that each required field is there, and
that no known field is there twice.
-/

namespace AccessPolicy

open Document (RecordPart Lists)

section

variable {α : Type} [Codec α] {document : Document} {value : α}

/-- A document has JSON texts, and all of them are read as the value. -/
def ReadAs (document : Document) (value : α) : Prop :=
  (Json.textsOf document).Nonempty ∧
    ∀ text ∈ Json.textsOf document, decode? .json text = some value

/-- A document has JSON texts, and none of them is read as a value of the
type. -/
def Refused (α : Type) [Codec α] (document : Document) : Prop :=
  (Json.textsOf document).Nonempty ∧
    ∀ text ∈ Json.textsOf document, decode? (α := α) .json text = none

/-- A text is read as its document is. -/
theorem decode?_of_mem_textsOf {text : String}
    (htext : text ∈ Json.textsOf document) :
    decode? (α := α) .json text = Codec.ofDocument? .json document := by
  rw [decode?, Format.parse?, Json.mem_textsOf.1 htext]
  rfl

theorem readAs_of_ofDocument? (htexts : (Json.textsOf document).Nonempty)
    (hread : Codec.ofDocument? .json document = some value) :
    ReadAs document value :=
  ⟨htexts, fun _ htext => (decode?_of_mem_textsOf htext).trans hread⟩

theorem refused_of_ofDocument? (htexts : (Json.textsOf document).Nonempty)
    (hread : Codec.ofDocument? (α := α) .json document = none) :
    Refused α document :=
  ⟨htexts, fun _ htext => (decode?_of_mem_textsOf htext).trans hread⟩

end

/-- A table of fields comes from another one, which is read as a value of these
parts, by a change of its incidental shape. -/
inductive Reshaped {α : Type} (parts : List (RecordPart α)) (value : α) :
    List (String × Document) → List (String × Document) → Prop
  /-- The fields are put in another order. -/
  | reordered {fields other : List (String × Document)}
      (hperm : other.Perm fields) :
      Reshaped parts value fields other
  /-- A field of an unknown name is put in anywhere, with any value that
  has a text. -/
  | inserted (before after : List (String × Document)) {name : String}
      {document : Document}
      (hname : name ∉ parts.map RecordPart.name)
      (htexts : (Json.textsOf document).Nonempty) :
      Reshaped parts value (before ++ after)
        (before ++ (name, document) :: after)
  /-- A field is left out that stands for its part of the value where it
  is left out. -/
  | omitted (before after : List (String × Document)) (document : Document)
      {part : RecordPart α} (hpart : part ∈ parts)
      (hdefault : part.field.unnamed = some (part.get value)) :
      Reshaped parts value (before ++ (part.name, document) :: after)
        (before ++ after)
  /-- The value of a field is written in another way. -/
  | rewritten (before after : List (String × Document)) (document : Document)
      {part : RecordPart α} {other : Document} (hpart : part ∈ parts)
      (hother : part.InItem other value)
      (htexts : (Json.textsOf other).Nonempty) :
      Reshaped parts value (before ++ (part.name, document) :: after)
        (before ++ (part.name, other) :: after)

section

variable {α : Type} {parts : List (RecordPart α)} {value : α}
    {part : RecordPart α} {fields other before after : List (String × Document)}

/-- A change of the incidental shape of a table leaves each part to be
read as it was. -/
theorem Reshaped.inTable (hreshaped : Reshaped parts value fields other)
    (hnodup : (parts.map RecordPart.name).Nodup)
    (hfields : ∀ part ∈ parts, part.InTable fields value) :
    ∀ part ∈ parts, part.InTable other value := by
  intro known hknown
  have htable := hfields known hknown
  have hsame : ∀ part ∈ parts, part.name = known.name → part = known :=
    fun part hpart hname => List.inj_on_of_nodup_map hnodup hpart hknown hname
  cases hreshaped with
  | reordered hperm => exact htable.perm hperm
  | inserted before after hname =>
      apply htable.congr
      apply Document.valuesOf_insert_of_ne
      rintro rfl
      exact hname (List.mem_map_of_mem hknown)
  | @omitted before after document part hpart hdefault =>
      by_cases hname : part.name = known.name
      · obtain rfl := hsame part hpart hname
        exact RecordPart.inTable_iff.2
          (.inl ⟨(RecordPart.inTable_insert_iff.1 htable).1, hdefault⟩)
      · exact htable.congr
          (Document.valuesOf_insert_of_ne hname _ before after).symm
  | @rewritten before after document part other hpart hother =>
      by_cases hname : part.name = known.name
      · obtain rfl := hsame part hpart hname
        exact RecordPart.inTable_insert_iff.2
          ⟨(RecordPart.inTable_insert_iff.1 htable).1, hother⟩
      · apply htable.congr
        rw [Document.valuesOf_insert_of_ne hname,
          Document.valuesOf_insert_of_ne hname]

/-- It also leaves every value with a text. -/
theorem Reshaped.texts (hreshaped : Reshaped parts value fields other)
    (hfields : ∀ field ∈ fields, (Json.textsOf field.2).Nonempty) :
    ∀ field ∈ other, (Json.textsOf field.2).Nonempty := by
  cases hreshaped with
  | reordered hperm =>
      exact fun field hfield => hfields field (hperm.mem_iff.1 hfield)
  | inserted before after _ htexts =>
      rw [List.forall_mem_append] at hfields
      exact List.forall_mem_append.2
        ⟨hfields.1, List.forall_mem_cons.2 ⟨htexts, hfields.2⟩⟩
  | omitted before after document =>
      rw [List.forall_mem_append, List.forall_mem_cons] at hfields
      exact List.forall_mem_append.2 ⟨hfields.1, hfields.2.2⟩
  | rewritten before after document _ _ htexts =>
      rw [List.forall_mem_append, List.forall_mem_cons] at hfields
      exact List.forall_mem_append.2
        ⟨hfields.1, List.forall_mem_cons.2 ⟨htexts, hfields.2.2⟩⟩

/-- So do any number of changes, one after the other. -/
theorem preserved_of_reshaped
    (hreshaped : Relation.ReflTransGen (Reshaped parts value) fields other)
    (hnodup : (parts.map RecordPart.name).Nodup)
    (hfields : ∀ part ∈ parts, part.InTable fields value)
    (htexts : ∀ field ∈ fields, (Json.textsOf field.2).Nonempty) :
    (∀ part ∈ parts, part.InTable other value) ∧
      ∀ field ∈ other, (Json.textsOf field.2).Nonempty := by
  induction hreshaped with
  | refl => exact ⟨hfields, htexts⟩
  | tail _ hstep ih => exact ⟨hstep.inTable hnodup ih.1, hstep.texts ih.2⟩

end

/-- What a JSON text is read as, if at all, depends on its shape only so far as
these parts of a record demand. -/
structure ReadsAnyShape {α : Type} [Codec α]
    (parts : List (RecordPart α)) : Prop where
  /-- Every text of an object that comes from one that was read by changes of
  its shape is read as the same value. -/
  reshaped : ∀ {text fields value other}, text ∈ Json.textsOf (.table fields) →
    decode? (α := α) .json text = some value →
    Relation.ReflTransGen (Reshaped parts value) fields other →
      ReadAs (.table other) value
  /-- The array of all parts of a value, in their order, is read as the
  value. -/
  listed : ∀ {items} {value : α}, Lists parts items value →
    (∀ item ∈ items, (Json.textsOf item).Nonempty) → ReadAs (.array items) value
  /-- The written form of a value names its parts in their order, so they
  form such an array. -/
  written : ∀ value : α, ∃ items, Lists parts items value ∧
    (∀ item ∈ items, (Json.textsOf item).Nonempty) ∧
    Codec.toDocument value = .table ((parts.map RecordPart.name).zip items)
  /-- An object that was read is refused without one of its required fields. -/
  incomplete : ∀ {text before after document value} {part : RecordPart α},
    text ∈ Json.textsOf (.table (before ++ (part.name, document) :: after)) →
    decode? (α := α) .json text = some value → part ∈ parts →
      part.field.unnamed = none →
    Refused α (.table (before ++ after))
  /-- An object that was read is refused once one of its known fields is
  repeated, wherever this is and with whatever value. -/
  repeated : ∀ {text before after document} {value : α} {part : RecordPart α},
    text ∈ Json.textsOf (.table (before ++ after)) →
    decode? .json text = some value → part ∈ parts →
      part.name ∈ (before ++ after).map (·.1) →
    (Json.textsOf document).Nonempty →
    Refused α (.table (before ++ (part.name, document) :: after))

section

variable {α : Type} [Codec α] {parts : Format → List (RecordPart α)}

/-- A table is refused if one of its parts cannot be read. -/
theorem ReadByParts.ofDocument?_eq_none (hparts : ReadByParts α parts)
    {format : Format} {part : RecordPart α} (hpart : part ∈ parts format)
    {fields : List (String × Document)}
    (hnot : ∀ value, ¬part.InTable fields value) :
    Codec.ofDocument? (α := α) format (.table fields) = none := by
  rw [Option.eq_none_iff_forall_ne_some]
  intro value hread
  exact hnot value ((hparts.table format fields value).1 hread part hpart)

theorem ReadByParts.readsAnyShape [LawfulCodec α]
    (hparts : ReadByParts α parts) : ReadsAnyShape (parts .json) where
  reshaped {text fields value other} htext hread hreshaped := by
    rw [decode?_of_mem_textsOf htext, hparts.table] at hread
    have htexts := Json.nonempty_textsOf_table_iff.1 ⟨text, htext⟩
    obtain ⟨hother, hothers⟩ :=
      preserved_of_reshaped hreshaped (hparts.nodup .json) hread htexts
    exact readAs_of_ofDocument? (Json.nonempty_textsOf_table_iff.2 hothers)
      ((hparts.table .json other value).2 hother)
  listed {items value} hitems htexts :=
    readAs_of_ofDocument? (Json.nonempty_textsOf_array_iff.2 htexts)
      (hparts.array hitems)
  written value := by
    obtain ⟨items, hitems, hwritten⟩ := hparts.written .json value
    refine ⟨items, hitems, ?_, hwritten⟩
    have hexpressible := (LawfulCodec.written value).expressible
    rw [hwritten] at hexpressible
    have htexts :=
      Json.nonempty_textsOf_table_iff.1 hexpressible.nonempty_textsOf
    have hlength : items.length ≤
        ((parts .json).map RecordPart.name).length := by
      rw [List.length_map, hitems.length_eq]
    rw [← List.map_snd_zip hlength]
    exact List.forall_mem_map.2 htexts
  incomplete {text before after document value part} htext hread hpart
    hrequired := by
      rw [decode?_of_mem_textsOf htext, hparts.table] at hread
      have htexts := Json.nonempty_textsOf_table_iff.1 ⟨text, htext⟩
      rw [List.forall_mem_append, List.forall_mem_cons] at htexts
      have hnone := (RecordPart.inTable_insert_iff.1 (hread part hpart)).1
      refine refused_of_ofDocument? ?texts
        (hparts.ofDocument?_eq_none hpart ?not)
      case texts =>
        exact Json.nonempty_textsOf_table_iff.2
          (List.forall_mem_append.2 ⟨htexts.1, htexts.2.2⟩)
      case not =>
        intro other hother
        obtain ⟨-, hunnamed⟩ | ⟨item, honly, -⟩ :=
          RecordPart.inTable_iff.1 hother
        · cases hrequired.symm.trans hunnamed
        · cases hnone.symm.trans honly
  repeated {text before after document value part} htext hread hpart hname
    hdocument := by
      have htexts := Json.nonempty_textsOf_table_iff.1 ⟨text, htext⟩
      rw [List.forall_mem_append] at htexts
      refine refused_of_ofDocument? ?texts
        (hparts.ofDocument?_eq_none hpart ?not)
      case texts =>
        exact Json.nonempty_textsOf_table_iff.2
          (List.forall_mem_append.2
            ⟨htexts.1, List.forall_mem_cons.2 ⟨hdocument, htexts.2⟩⟩)
      case not =>
        intro other hother
        exact Document.valuesOf_ne_nil hname
          (RecordPart.inTable_insert_iff.1 hother).1

end

/-- For each type that is stored or exchanged as a record, what a JSON text is
read as does not depend on the order of its fields, on fields of unknown
names, or on whether fields with default values are written; the array of its
parts is read alike; and an object is refused without a required field, or
with a known field twice. -/
theorem decoding_ignores_shape :
    ReadsAnyShape (Binding.parts .json) ∧ ReadsAnyShape (Policy.parts .json) ∧
    ReadsAnyShape (Declaration.parts .json) ∧
      ReadsAnyShape (BindingId.parts .json) ∧
    ReadsAnyShape (Tracked.parts .json) ∧ ReadsAnyShape (Backoff.parts .json) ∧
    ReadsAnyShape (Settings.parts .json) :=
  ⟨Binding.readByParts.readsAnyShape, Policy.readByParts.readsAnyShape,
    Declaration.readByParts.readsAnyShape, BindingId.readByParts.readsAnyShape,
    Tracked.readByParts.readsAnyShape, Backoff.readByParts.readsAnyShape,
    Settings.readByParts.readsAnyShape⟩

/-- A binding without members is read from its role and a note that
precedes it, and from the array of both parts.  It is refused without its
role, and with two roles. -/
theorem decoding_ignores_shape_viewer :
    decode? .json "\x7b\"note\": [null], \"role\": \"viewer\"\x7d" =
      some (⟨"viewer", []⟩ : Binding) ∧
    decode? .json "[\"viewer\", []]" = some (⟨"viewer", []⟩ : Binding) ∧
    decode? (α := Binding) .json "\x7b\"members\": []\x7d" = none ∧
    decode? (α := Binding) .json
      "\x7b\"role\": null, \"role\": \"viewer\", \"members\": []\x7d" =
      none := by
  obtain ⟨hbinding, -⟩ := decoding_ignores_shape
  have hrole : (Binding.parts .json)[0] ∈ Binding.parts .json :=
    List.getElem_mem _
  have hmembers : (Binding.parts .json)[1] ∈ Binding.parts .json :=
    List.getElem_mem _
  have hwritten : encode (⟨"viewer", []⟩ : Binding) ∈
      Json.textsOf
        (.table ([] ++ [("role", .text "viewer"), ("members", .array [])])) :=
    Json.parse?_render (LawfulCodec.written _)
  have hread := decode?_encode (⟨"viewer", []⟩ : Binding)
  refine ⟨?reshaped, ?listed, ?incomplete, ?repeated⟩
  case reshaped =>
    have homitted : Reshaped (Binding.parts .json) ⟨"viewer", []⟩
        ([("role", .text "viewer")] ++ ("members", .array []) :: [])
        ([("role", .text "viewer")] ++ []) :=
      .omitted _ _ _ hmembers rfl
    have hnoted : Reshaped (Binding.parts .json) ⟨"viewer", []⟩
        ([] ++ [("role", .text "viewer")])
        ([] ++ ("note", .array [.null]) :: [("role", .text "viewer")]) :=
      .inserted _ _ (by decide) ⟨"[null]", Json.mem_textsOf.2 (by cbv)⟩
    apply (hbinding.reshaped hwritten hread
      (.tail (.tail .refl homitted) hnoted)).2
    exact Json.mem_textsOf.2 (by cbv)
  case listed =>
    have hitems : Lists (Binding.parts .json) [.text "viewer", .array []]
        ⟨"viewer", []⟩ :=
      .cons rfl (.cons rfl .nil)
    have htext : "[\"viewer\", []]" ∈
        Json.textsOf (.array [.text "viewer", .array []]) :=
      Json.mem_textsOf.2 (by cbv)
    exact (hbinding.listed hitems
      (Json.nonempty_textsOf_array_iff.1 ⟨_, htext⟩)).2 _ htext
  case incomplete =>
    apply (hbinding.incomplete hwritten hread hrole rfl).2
    exact Json.mem_textsOf.2 (by cbv)
  case repeated =>
    have hnull : (Json.textsOf .null).Nonempty :=
      ⟨"null", Json.mem_textsOf.2 (by cbv)⟩
    apply (hbinding.repeated hwritten hread hrole (by decide) hnull).2
    exact Json.mem_textsOf.2 (by cbv)

end AccessPolicy
