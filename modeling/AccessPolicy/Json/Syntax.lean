import AccessPolicy.Json.Token

/-!
# The syntax of JSON

A text is read by taking its tokens one after another.  What has been begun and
not yet closed lies on a stack, innermost first, so reading needs one pass and
no bound on nesting.  Writing goes the other way: a document has one sequence of
tokens, and a token has one spelling.
-/

namespace AccessPolicy.Json

/-- Fields read so far, latest first; none once a name without value was
among them. -/
abbrev FieldsSoFar := Option (List (String × Document))

/-- Something that was begun and waits for a value. -/
inductive Frame where
  /-- An array, with its items so far, latest first. -/
  | array (before : List Document)
  /-- A table, with its fields so far and the name of the field whose
  value is awaited. -/
  | table (before : FieldsSoFar) (name : Option String)

/-- How far a text has been read. -/
inductive Reading where
  /-- A value must follow. -/
  | value (stack : List Frame)
  /-- An array was opened: a value or the end of the array must follow. -/
  | arrayOpened (stack : List Frame)
  /-- An item was read: a comma or the end of the array must follow. -/
  | afterItem (items : List Document) (stack : List Frame)
  /-- A table was opened: a name or the end of the table must follow. -/
  | tableOpened (stack : List Frame)
  /-- A comma was read in a table: a name must follow. -/
  | name (fields : FieldsSoFar) (stack : List Frame)
  /-- A name was read: a colon must follow. -/
  | colon (fields : FieldsSoFar) (name : Option String) (stack : List Frame)
  /-- A field was read: a comma or the end of the table must follow. -/
  | afterField (fields : FieldsSoFar) (stack : List Frame)
  /-- The text is complete. -/
  | complete (document : Document)

def addField (fields : FieldsSoFar) (name : Option String)
    (value : Document) : FieldsSoFar :=
  match fields, name with
  | some fields, some name => some ((name, value) :: fields)
  | _, _ => none

/-- The table with the given fields.  A table with a name that has no
value is not read. -/
def closeTable : FieldsSoFar → Document
  | some fields => .table fields.reverse
  | none => .unread

/-- Hand a finished value to whatever waits for one. -/
def deliver (value : Document) : List Frame → Reading
  | [] => .complete value
  | .array before :: stack => .afterItem (value :: before) stack
  | .table before name :: stack =>
    .afterField (addField before name value) stack

def beginValue (stack : List Frame) : Token → Option Reading
  | .leaf value => some (deliver value stack)
  | .text (some value) => some (deliver (.text value) stack)
  | .text none => some (deliver .unread stack)
  | .openArray => some (.arrayOpened stack)
  | .openTable => some (.tableOpened stack)
  | _ => none

def Reading.step : Reading → Token → Option Reading
  | .value stack, token => beginValue stack token
  | .arrayOpened stack, .closeArray => some (deliver (.array []) stack)
  | .arrayOpened stack, token => beginValue (.array [] :: stack) token
  | .afterItem items stack, .comma => some (.value (.array items :: stack))
  | .afterItem items stack, .closeArray =>
    some (deliver (.array items.reverse) stack)
  | .tableOpened stack, .closeTable => some (deliver (.table []) stack)
  | .tableOpened stack, .text key => some (.colon (some []) key stack)
  | .name fields stack, .text key => some (.colon fields key stack)
  | .colon fields key stack, .colon =>
    some (.value (.table fields key :: stack))
  | .afterField fields stack, .comma => some (.name fields stack)
  | .afterField fields stack, .closeTable =>
    some (deliver (closeTable fields) stack)
  | _, _ => none

def Reading.run (reading : Reading) (tokens : List Token) : Option Reading :=
  tokens.foldlM Reading.step reading

def parse? (text : String) : Option Document := do
  match ← (Reading.value []).run (← tokens text.toList) with
  | .complete document => some document
  | _ => none

mutual

def tokensOf : Document → List Token
  | .array items => .openArray :: tokensOfItems items ++ [.closeArray]
  | .table fields => .openTable :: tokensOfFields fields ++ [.closeTable]
  | .text value => [.text (some value)]
  | leaf => [.leaf leaf]

def tokensOfItems : List Document → List Token
  | [] => []
  | [item] => tokensOf item
  | item :: rest => tokensOf item ++ .comma :: tokensOfItems rest

def tokensOfFields : List (String × Document) → List Token
  | [] => []
  | [(name, value)] => .text (some name) :: .colon :: tokensOf value
  | (name, value) :: rest =>
    .text (some name) :: .colon :: tokensOf value ++
      .comma :: tokensOfFields rest

end

/-- The compact JSON text of a document: no blanks, fields in their order. -/
def render (document : Document) : String :=
  String.ofList ((tokensOf document).flatMap Token.spell)

end AccessPolicy.Json
