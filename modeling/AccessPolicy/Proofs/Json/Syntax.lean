import AccessPolicy.Json.Syntax
import AccessPolicy.Proofs.Json.Token

/-!
# Reading written documents back

A document without dates and unread leaves has a JSON text, and reading this
text gives the document.  Both halves of reading follow the structure of the
document: the text is taken apart into the document's tokens, and from any
state in which a value is awaited, these tokens hand the document to
whatever waits for it.
-/

namespace AccessPolicy.Json

/-- The documents that have a JSON text. -/
inductive Written : Document → Prop where
  | null : Written .null
  | boolean (value : Bool) : Written (.boolean value)
  | integer (value : Int) : Written (.integer value)
  | text (value : String) : Written (.text value)
  | array {items : List Document} (hitems : ∀ item ∈ items, Written item) :
      Written (.array items)
  | table {fields : List (String × Document)}
      (hfields : ∀ field ∈ fields, Written field.2) :
      Written (.table fields)

attribute [simp] Written.null Written.boolean Written.integer Written.text

/-- The documents that some JSON text stands for: leaves of all kinds but dates,
and what is put together from them. -/
inductive Expressible : Document → Prop where
  | null : Expressible .null
  | boolean (value : Bool) : Expressible (.boolean value)
  | integer (value : Int) : Expressible (.integer value)
  | text (value : String) : Expressible (.text value)
  | unread : Expressible .unread
  | array {items : List Document} (hitems : ∀ item ∈ items, Expressible item) :
      Expressible (.array items)
  | table {fields : List (String × Document)}
      (hfields : ∀ field ∈ fields, Expressible field.2) :
      Expressible (.table fields)

theorem Written.expressible {document : Document}
    (hwritten : Written document) : Expressible document := by
  induction hwritten with
  | null => exact .null
  | boolean value => exact .boolean value
  | integer value => exact .integer value
  | text value => exact .text value
  | array _ ih => exact .array ih
  | table _ ih => exact .table ih

/-- A property of sequences of tokens that passes from parts of a document to
the whole: it holds of the empty sequence, of a text, and of two sequences with
a delimiter between them. -/
structure Composes (property : List Token → Prop) : Prop where
  nil : property []
  text : ∀ value, property [.text (some value)]
  delimited : ∀ {first second : List Token} {delimiter : Token},
    property first →
    delimiter.isDelimiter = true → property second →
      property (first ++ delimiter :: second)

theorem composes_readBack : Composes ReadBack :=
  ⟨readBack_nil, readBack_text, ReadBack.delimited⟩

namespace Composes

variable {property : List Token → Prop}

theorem items (hproperty : Composes property) {items : List Document}
    (hitems : ∀ item ∈ items, property (tokensOf item)) :
    property (tokensOfItems items) := by
  induction items with
  | nil => exact hproperty.nil
  | cons item later ih =>
      have hitem := hitems item List.mem_cons_self
      have hlater := ih fun other hother =>
        hitems other (List.mem_cons_of_mem item hother)
      cases later with
      | nil => exact hitem
      | cons next later => exact hproperty.delimited hitem rfl hlater

theorem fields (hproperty : Composes property)
    {fields : List (String × Document)}
    (hfields : ∀ field ∈ fields, property (tokensOf field.2)) :
    property (tokensOfFields fields) := by
  induction fields with
  | nil => exact hproperty.nil
  | cons field later ih =>
      obtain ⟨name, value⟩ := field
      have hfield : property (.text (some name) :: .colon :: tokensOf value) :=
        hproperty.delimited (hproperty.text name) rfl
          (hfields (name, value) List.mem_cons_self)
      have hlater := ih fun other hother =>
        hfields other (List.mem_cons_of_mem _ hother)
      cases later with
      | nil => exact hfield
      | cons next later => exact hproperty.delimited hfield rfl hlater

theorem array (hproperty : Composes property) {items : List Document}
    (hitems : ∀ item ∈ items, property (tokensOf item)) :
    property (tokensOf (.array items)) := by
  rw [tokensOf]
  exact hproperty.delimited
    (hproperty.delimited hproperty.nil rfl (hproperty.items hitems)) rfl
    hproperty.nil

theorem table (hproperty : Composes property)
    {fields : List (String × Document)}
    (hfields : ∀ field ∈ fields, property (tokensOf field.2)) :
    property (tokensOf (.table fields)) := by
  rw [tokensOf]
  exact hproperty.delimited
    (hproperty.delimited hproperty.nil rfl (hproperty.fields hfields)) rfl
    hproperty.nil

end Composes

theorem Written.readBack {document : Document} (hwritten : Written document) :
    ReadBack (tokensOf document) := by
  induction hwritten with
  | null => exact readBack_null
  | boolean value => exact readBack_boolean value
  | integer value => exact readBack_integer value
  | text value => exact readBack_text value
  | array _ ih => exact composes_readBack.array ih
  | table _ ih => exact composes_readBack.table ih

/-- Where a value is awaited, these tokens hand a document to whatever
waits for it. -/
def Delivers (written : List Token) (document : Document) : Prop :=
  ∀ stack rest,
    (Reading.value stack).run (written ++ rest) =
      (deliver document stack).run rest

/-- Behind the opening of an array, a first item is read as it is behind
a comma. -/
theorem run_arrayOpened (item : Document) (stack : List Frame)
    (rest : List Token) :
    (Reading.arrayOpened stack).run (tokensOf item ++ rest) =
      (Reading.value (.array [] :: stack)).run (tokensOf item ++ rest) := by
  cases item <;> rfl

/-- Behind the opening of a table, a first field is read as it is behind
a comma. -/
theorem run_tableOpened (field : String × Document)
    (later : List (String × Document)) (stack : List Frame)
    (rest : List Token) :
    (Reading.tableOpened stack).run (tokensOfFields (field :: later) ++ rest) =
      (Reading.name (some []) stack).run
        (tokensOfFields (field :: later) ++ rest) := by
  cases later <;> rfl

/-- The items still to come join those that were read before. -/
theorem run_items {item : Document} {later : List Document}
    (hitems : ∀ other ∈ item :: later, Delivers (tokensOf other) other)
    (before : List Document) (stack : List Frame) (rest : List Token) :
    (Reading.value (.array before :: stack)).run
        (tokensOfItems (item :: later) ++ .closeArray :: rest) =
      (deliver (.array (before.reverse ++ item :: later)) stack).run rest := by
  have hitem := hitems item List.mem_cons_self
  induction later generalizing item before with
  | nil =>
      rw [tokensOfItems, hitem, ← List.reverse_cons]
      rfl
  | cons next later ih =>
      have hlater : ∀ other ∈ next :: later, Delivers (tokensOf other) other :=
        fun other hother => hitems other (List.mem_cons_of_mem item hother)
      have hread := ih hlater (item :: before) (hlater next List.mem_cons_self)
      rw [List.reverse_cons, List.append_assoc] at hread
      simp only [tokensOfItems, List.cons_append, List.append_assoc]
      rw [hitem]
      exact hread

theorem run_field {value : Document} (hvalue : Delivers (tokensOf value) value)
    (name : String) (before : List (String × Document)) (stack : List Frame)
    (rest : List Token) :
    (Reading.name (some before) stack).run
        (.text (some name) :: .colon :: (tokensOf value ++ rest)) =
      (Reading.afterField (some ((name, value) :: before)) stack).run rest :=
  hvalue (.table (some before) (some name) :: stack) rest

/-- The fields still to come join those that were read before. -/
theorem run_fields {field : String × Document}
    {later : List (String × Document)}
    (hfields : ∀ other ∈ field :: later, Delivers (tokensOf other.2) other.2)
    (before : List (String × Document)) (stack : List Frame)
    (rest : List Token) :
    (Reading.name (some before) stack).run
        (tokensOfFields (field :: later) ++ .closeTable :: rest) =
      (deliver (.table (before.reverse ++ field :: later)) stack).run rest := by
  have hfield :=
    run_field (hfields field List.mem_cons_self) field.1 before stack
  induction later generalizing field before with
  | nil =>
      rw [tokensOfFields, List.cons_append, List.cons_append, hfield,
        ← List.reverse_cons]
      rfl
  | cons next later ih =>
      have hlater : ∀ other ∈ next :: later,
          Delivers (tokensOf other.2) other.2 :=
        fun other hother => hfields other (List.mem_cons_of_mem field hother)
      have hread := ih hlater (field :: before)
        (run_field (hlater next List.mem_cons_self) next.1
          (field :: before) stack)
      rw [List.reverse_cons, List.append_assoc] at hread
      simp only [tokensOfFields, List.cons_append, List.append_assoc, hfield]
      exact hread

theorem Expressible.delivers {document : Document}
    (hdocument : Expressible document) :
    Delivers (tokensOf document) document := by
  induction hdocument with
  | null | boolean | integer | text | unread => exact fun stack rest => rfl
  | @array items _ ih =>
      intro stack rest
      rw [tokensOf, List.cons_append, List.cons_append, List.append_assoc]
      show (Reading.arrayOpened stack).run
          (tokensOfItems items ++ .closeArray :: rest) = _
      cases items with
      | nil => rfl
      | cons item later =>
          have hopened : (Reading.arrayOpened stack).run
              (tokensOfItems (item :: later) ++ .closeArray :: rest) =
              (Reading.value (.array [] :: stack)).run
                (tokensOfItems (item :: later) ++ .closeArray :: rest) := by
            cases later with
            | nil => exact run_arrayOpened item stack (.closeArray :: rest)
            | cons next later =>
                rw [tokensOfItems, List.append_assoc, run_arrayOpened]
                simp
          rw [hopened, run_items ih]
          rfl
  | @table fields _ ih =>
      intro stack rest
      rw [tokensOf, List.cons_append, List.cons_append, List.append_assoc]
      show (Reading.tableOpened stack).run
          (tokensOfFields fields ++ .closeTable :: rest) = _
      cases fields with
      | nil => rfl
      | cons field later =>
          rw [run_tableOpened, run_fields ih]
          rfl

/-- A text that is taken apart into the tokens of a document stands for
the document. -/
theorem Expressible.parse?_eq {document : Document}
    (hdocument : Expressible document) {text : String}
    (htokens : tokens text.toList = some (tokensOf document)) :
    parse? text = some document := by
  have hrun := hdocument.delivers [] []
  rw [List.append_nil] at hrun
  rw [parse?, htokens]
  show ((Reading.value []).run (tokensOf document)).bind _ = _
  rw [hrun]
  rfl

/-- Reading the text of a document gives the document. -/
theorem parse?_render {document : Document} (hwritten : Written document) :
    parse? (render document) = some document := by
  apply hwritten.expressible.parse?_eq
  have hread := hwritten.readBack [] (by rintro c ⟨⟩)
  rw [List.append_nil] at hread
  rw [render, String.toList_ofList, hread, tokens]
  simp

end AccessPolicy.Json
