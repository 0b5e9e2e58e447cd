import AccessPolicy.Document.Basic

/-!
# Building tables of TOML

The parts of a TOML text build one tree of tables.  A table comes into being in
one of three ways: it is defined by a header of its own, it is implied by the
header of a table inside it, or it is made by a dotted key.  A header may define
a table that was only implied, and a dotted key may go on in tables that dotted
keys have made; everything else would define something twice and is refused.
-/

namespace AccessPolicy.Toml

/-- How a table came into being. -/
inductive Origin where
  /-- By a header of its own. -/
  | defined
  /-- By the header of a table inside it. -/
  | implied
  /-- By a dotted key. -/
  | dotted
  deriving DecidableEq

/-- What stands under a name while a text is being read. -/
inductive Node where
  /-- A finished value. -/
  | value (document : Document)
  | table (origin : Origin) (entries : List (String × Node))
  /-- An array of tables: those that are finished, latest first, and the
  one that is open. -/
  | tables (finished : List Document) (current : List (String × Node))

abbrev Entries := List (String × Node)

/-- A key: the names that lead to a table, and the name of an entry in it. -/
structure Key where
  path : List String
  name : String

/-- Change what stands under a name, or put something there. -/
def Entries.alter (name : String) (change : Option Node → Option Node) :
    Entries → Option Entries
  | [] => (change none).map fun node => [(name, node)]
  | (key, node) :: rest =>
    if key = name then (change (some node)).map fun node => (key, node) :: rest
    else (Entries.alter name change rest).map ((key, node) :: ·)

mutual

def Node.document : Node → Document
  | .value document => document
  | .table _ entries => .table (documents entries)
  | .tables finished current =>
    .array (finished.reverse ++ [.table (documents current)])

def documents : Entries → List (String × Document)
  | [] => []
  | (name, node) :: rest => (name, node.document) :: documents rest

end

def Entries.put (name : String) (value : Document) : Entries → Option Entries :=
  Entries.alter name fun
    | none => some (.value value)
    | some _ => none

/-- Put an entry into the table that a dotted key leads to from a table.
A key that goes through existing tables must end in a table that dotted
keys have made. -/
def Entries.insertDotted (origin : Origin) (path : List String) (name : String)
    (value : Document) (entries : Entries) : Option Entries :=
  match path with
  | [] => if origin = .dotted then entries.put name value else none
  | step :: path =>
    entries.alter step fun
      | none =>
        (Entries.insertDotted .dotted path name value []).map (.table .dotted)
      | some (.value _) => none
      | some (.table .defined _) => none
      | some (.table origin inner) =>
        (Entries.insertDotted origin path name value inner).map (.table origin)
      | some (.tables finished current) =>
        (Entries.insertDotted .defined path name value current).map
          (.tables finished)

def Entries.insert (key : Key) (value : Document) (entries : Entries) :
    Option Entries :=
  match key.path with
  | [] => entries.put key.name value
  | path => entries.insertDotted .defined path key.name value

def Entries.insertAll (pairs : List (Key × Document)) (entries : Entries) :
    Option Entries :=
  pairs.foldlM (fun entries (key, value) => entries.insert key value) entries

def inlineTable? (pairs : List (Key × Document)) : Option Document :=
  (Entries.insertAll pairs []).map fun entries => .table (documents entries)

/-- Change the entries of the table that the names of a header lead to.  Tables
on the way that do not exist yet are implied, and the way through an array of
tables goes through its last one. -/
def Entries.follow (change : Entries → Option Entries) (path : List String)
    (entries : Entries) : Option Entries :=
  match path with
  | [] => change entries
  | step :: path =>
    entries.alter step fun
      | none => (Entries.follow change path []).map (.table .implied)
      | some (.value _) => none
      | some (.table origin inner) =>
        (Entries.follow change path inner).map (.table origin)
      | some (.tables finished current) =>
        (Entries.follow change path current).map (.tables finished)

/-- A header with the key-value pairs behind it. -/
structure Section where
  key : Key
  /-- Whether the header adds a table to an array of tables. -/
  isArray : Bool
  pairs : List (Key × Document)

/-- Define the table of a header.  It may have been implied before, and nothing
else may stand under its name. -/
def defineTable (name : String) (pairs : List (Key × Document)) :
    Entries → Option Entries :=
  Entries.alter name fun
    | none => (Entries.insertAll pairs []).map (.table .defined)
    | some (.table .implied inner) =>
      (Entries.insertAll pairs inner).map (.table .defined)
    | some _ => none

def extendTables (name : String) (pairs : List (Key × Document)) :
    Entries → Option Entries :=
  Entries.alter name fun
    | none => (Entries.insertAll pairs []).map (.tables [])
    | some (.tables finished current) =>
      (Entries.insertAll pairs []).map
        (.tables (.table (documents current) :: finished))
    | some _ => none

def Section.apply (part : Section) : Entries → Option Entries :=
  Entries.follow
    ((if part.isArray then extendTables else defineTable)
      part.key.name part.pairs)
    part.key.path

/-- The whole text as a table: the pairs before the first header, and
the sections. -/
def rootTable? (pairs : List (Key × Document)) (sections : List Section) :
    Option Document := do
  let entries ← Entries.insertAll pairs []
  let entries ← sections.foldlM (fun entries part => part.apply entries) entries
  pure (.table (documents entries))

end AccessPolicy.Toml
