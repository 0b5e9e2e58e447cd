import AccessPolicy.Proofs.Json.Syntax
import Mathlib.Data.Set.Basic

/-!
# Documents that have JSON texts

Reading a JSON text yields every document without dates, and no other document.
In particular a table has a text exactly if the values of all its fields have
texts, so the fields of a table that was read may be put into any order, left
out, repeated and mixed with others.
-/

namespace AccessPolicy.Json

def textsOf (document : Document) : Set String :=
  {text | parse? text = some document}

theorem mem_textsOf {text : String} {document : Document} :
    text ∈ textsOf document ↔ parse? text = some document :=
  Iff.rfl

/-- Some tokens have a spelling that is read as them, whatever follows it. -/
def Spelled (written : List Token) : Prop :=
  ∃ spelling : List Char, ∀ rest, EndsNumeral rest →
    tokens (spelling ++ rest) = (tokens rest).map (written ++ ·)

theorem ReadBack.spelled {written : List Token} (hread : ReadBack written) :
    Spelled written :=
  ⟨written.flatMap Token.spell, hread⟩

/-- A numeral with a fraction is a leaf that no type is read from. -/
theorem spelled_unread : Spelled [.leaf .unread] := by
  refine ⟨['0', '.', '5'], fun rest hrest => ?_⟩
  have hchars : ∀ c ∈ ['0', '.', '5'], isNumeralChar c = true :=
    List.all_eq_true.1 rfl
  have hnumeral : numeral? ['0', '.', '5'] = some .unread := rfl
  rw [tokens_numeral hchars hrest, hnumeral]
  rfl

theorem composes_spelled : Composes Spelled where
  nil := readBack_nil.spelled
  text value := (readBack_text value).spelled
  delimited := by
    rintro first second delimiter ⟨spelling, hfirst⟩ hdelimiter ⟨later, hsecond⟩
    refine ⟨spelling ++ (delimiter.spell ++ later), fun rest hrest => ?_⟩
    obtain ⟨hends, hread⟩ := tokens_delimiter hdelimiter (later ++ rest)
    rw [List.append_assoc, List.append_assoc, hfirst _ hends, hread,
      hsecond rest hrest]
    simp [Function.comp_def]

theorem Expressible.spelled {document : Document}
    (hdocument : Expressible document) : Spelled (tokensOf document) := by
  induction hdocument with
  | null => exact readBack_null.spelled
  | boolean value => exact (readBack_boolean value).spelled
  | integer value => exact (readBack_integer value).spelled
  | text value => exact (readBack_text value).spelled
  | unread => exact spelled_unread
  | array _ ih => exact composes_spelled.array ih
  | table _ ih => exact composes_spelled.table ih

theorem Expressible.nonempty_textsOf {document : Document}
    (hdocument : Expressible document) : (textsOf document).Nonempty := by
  obtain ⟨spelling, hspelling⟩ := hdocument.spelled
  refine ⟨String.ofList spelling, hdocument.parse?_eq ?_⟩
  have hread := hspelling [] (by rintro c ⟨⟩)
  rw [List.append_nil] at hread
  rw [String.toList_ofList, hread, tokens]
  simp

def Token.IsExpressible : Token → Prop
  | leaf value => Expressible value
  | _ => True

theorem expressible_of_numeral? {numeral : List Char} {value : Document}
    (hnumeral : numeral? numeral = some value) : Expressible value := by
  have hunsigned : ∀ negative digits,
      unsignedNumeral negative digits = some value →
      Expressible value := by
    intro negative digits hvalue
    simp only [unsignedNumeral] at hvalue
    split at hvalue
    · split at hvalue
      · cases hvalue
        exact .unread
      · cases hvalue
        exact .integer _
    · cases hvalue
  unfold numeral? at hnumeral
  split at hnumeral
  · exact hunsigned _ _ hnumeral
  · exact hunsigned _ _ hnumeral

theorem isExpressible_map_cons {token : Token} {found : Option (List Token)}
    (htoken : token.IsExpressible)
    (hfound : ∀ read ∈ found, ∀ other ∈ read, other.IsExpressible) :
    ∀ read ∈ found.map (token :: ·), ∀ other ∈ read, other.IsExpressible := by
  intro read hread
  obtain ⟨later, hlater, rfl⟩ := Option.map_eq_some_iff.1 hread
  exact List.forall_mem_cons.2 ⟨htoken, hfound later hlater⟩

theorem isExpressible_tokens (text : List Char) :
    ∀ read ∈ tokens text, ∀ token ∈ read, token.IsExpressible := by
  fun_induction tokens text with
  | case1 => rintro read ⟨⟩ token ⟨⟩
  | case2 _ ih | case3 _ ih | case4 _ ih | case5 _ ih | case6 _ ih
  | case7 _ ih =>
      exact isExpressible_map_cons trivial ih
  | case8 _ ih => exact isExpressible_map_cons .null ih
  | case9 _ ih | case10 _ ih => exact isExpressible_map_cons (.boolean _) ih
  | case12 _ _ _ _ ih => exact isExpressible_map_cons trivial ih
  | case13 => assumption
  | case15 _ _ _ _ _ _ _ _ _ _ _ _ _ _ _ hvalue ih =>
      exact isExpressible_map_cons (expressible_of_numeral? hvalue) ih
  | case11 | case14 | case16 => rintro read ⟨⟩

def Frame.IsExpressible : Frame → Prop
  | array before => ∀ item ∈ before, Expressible item
  | table before _ => ∀ fields ∈ before, ∀ field ∈ fields, Expressible field.2

def Reading.IsExpressible : Reading → Prop
  | value stack | arrayOpened stack | tableOpened stack =>
    ∀ frame ∈ stack, frame.IsExpressible
  | afterItem items stack =>
    (∀ item ∈ items, Expressible item) ∧ ∀ frame ∈ stack, frame.IsExpressible
  | name before stack | colon before _ stack | afterField before stack =>
    (∀ fields ∈ before, ∀ field ∈ fields, Expressible field.2) ∧
      ∀ frame ∈ stack, frame.IsExpressible
  | complete document => Expressible document

section

variable {value : Document} {stack : List Frame}

theorem isExpressible_addField {before : FieldsSoFar} {name : Option String}
    (hbefore : ∀ fields ∈ before, ∀ field ∈ fields, Expressible field.2)
    (hvalue : Expressible value) :
    ∀ fields ∈ addField before name value, ∀ field ∈ fields,
      Expressible field.2 := by
  unfold addField
  split
  · rintro _ ⟨⟩
    exact List.forall_mem_cons.2 ⟨hvalue, hbefore _ rfl⟩
  · rintro _ ⟨⟩

theorem expressible_closeTable {before : FieldsSoFar}
    (hbefore : ∀ fields ∈ before, ∀ field ∈ fields, Expressible field.2) :
    Expressible (closeTable before) := by
  cases before with
  | none => exact .unread
  | some fields =>
      refine .table fun field hfield => ?_
      exact hbefore fields rfl field (List.mem_reverse.1 hfield)

theorem isExpressible_deliver (hvalue : Expressible value)
    (hstack : ∀ frame ∈ stack, frame.IsExpressible) :
    (deliver value stack).IsExpressible := by
  match stack, hstack with
  | [], _ => exact hvalue
  | .array before :: stack, hstack =>
      obtain ⟨hbefore, hrest⟩ := List.forall_mem_cons.1 hstack
      exact ⟨List.forall_mem_cons.2 ⟨hvalue, hbefore⟩, hrest⟩
  | .table before name :: stack, hstack =>
      obtain ⟨hbefore, hrest⟩ := List.forall_mem_cons.1 hstack
      exact ⟨isExpressible_addField hbefore hvalue, hrest⟩

theorem isExpressible_beginValue {token : Token} {next : Reading}
    (htoken : token.IsExpressible)
    (hstack : ∀ frame ∈ stack, frame.IsExpressible)
    (hnext : beginValue stack token = some next) : next.IsExpressible := by
  unfold beginValue at hnext
  split at hnext
  all_goals cases hnext
  · exact isExpressible_deliver htoken hstack
  · exact isExpressible_deliver (.text _) hstack
  · exact isExpressible_deliver .unread hstack
  · exact hstack
  · exact hstack

end

/-- A token takes a reading to one that holds expressible documents only,
if it did before. -/
theorem isExpressible_step {reading next : Reading} {token : Token}
    (hreading : reading.IsExpressible) (htoken : token.IsExpressible)
    (hnext : reading.step token = some next) : next.IsExpressible := by
  unfold Reading.step at hnext
  split at hnext
  case h_1 => exact isExpressible_beginValue htoken hreading hnext
  case h_3 =>
    have hopened : Frame.IsExpressible (.array []) := nofun
    exact isExpressible_beginValue htoken
      (List.forall_mem_cons.2 ⟨hopened, hreading⟩) hnext
  all_goals cases hnext
  case h_2 => exact isExpressible_deliver (.array nofun) hreading
  case h_4 => exact List.forall_mem_cons.2 hreading
  case h_5 =>
    obtain ⟨hitems, hstack⟩ := hreading
    exact isExpressible_deliver (.array fun item hitem =>
      hitems item (List.mem_reverse.1 hitem))
      hstack
  case h_6 => exact isExpressible_deliver (.table nofun) hreading
  case h_7 => exact ⟨by rintro _ ⟨⟩ _ ⟨⟩, hreading⟩
  case h_8 => exact hreading
  case h_9 => exact List.forall_mem_cons.2 hreading
  case h_10 => exact hreading
  case h_11 =>
    exact isExpressible_deliver (expressible_closeTable hreading.1) hreading.2

theorem isExpressible_run {reading final : Reading} {read : List Token}
    (hreading : reading.IsExpressible)
    (hread : ∀ token ∈ read, token.IsExpressible)
    (hfinal : reading.run read = some final) : final.IsExpressible := by
  induction read generalizing reading with
  | nil =>
      cases hfinal
      exact hreading
  | cons token later ih =>
      obtain ⟨htoken, hlater⟩ := List.forall_mem_cons.1 hread
      obtain ⟨next, hnext, hfinal⟩ := Option.bind_eq_some_iff.1 hfinal
      exact ih (isExpressible_step hreading htoken hnext) hlater hfinal

theorem expressible_of_parse? {text : String} {document : Document}
    (hparse : parse? text = some document) : Expressible document := by
  obtain ⟨read, hread, hparse⟩ := Option.bind_eq_some_iff.1 hparse
  obtain ⟨final, hfinal, hcomplete⟩ := Option.bind_eq_some_iff.1 hparse
  have hstart : (Reading.value []).IsExpressible := nofun
  have hexpressible :=
    isExpressible_run hstart (isExpressible_tokens _ read hread) hfinal
  split at hcomplete
  · cases hcomplete
    exact hexpressible
  · cases hcomplete

/-- The documents that JSON texts stand for are the expressible ones. -/
theorem nonempty_textsOf_iff {document : Document} :
    (textsOf document).Nonempty ↔ Expressible document :=
  ⟨fun ⟨_, hparse⟩ =>
    expressible_of_parse? hparse, Expressible.nonempty_textsOf⟩

/-- A table has a text exactly if all its values have texts. -/
theorem nonempty_textsOf_table_iff {fields : List (String × Document)} :
    (textsOf (.table fields)).Nonempty ↔
      ∀ field ∈ fields, (textsOf field.2).Nonempty := by
  simp only [nonempty_textsOf_iff]
  constructor
  · rintro (_ | _ | _ | _ | _ | _ | hfields)
    exact hfields
  · exact .table

/-- So has an array. -/
theorem nonempty_textsOf_array_iff {items : List Document} :
    (textsOf (.array items)).Nonempty ↔
      ∀ item ∈ items, (textsOf item).Nonempty := by
  simp only [nonempty_textsOf_iff]
  constructor
  · rintro (_ | _ | _ | _ | _ | hitems)
    exact hitems
  · exact .array

end AccessPolicy.Json
