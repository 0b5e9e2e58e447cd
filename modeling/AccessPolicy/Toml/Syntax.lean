import AccessPolicy.Toml.Lexical
import AccessPolicy.Toml.Moment
import AccessPolicy.Toml.Numeral
import AccessPolicy.Toml.Quotation
import AccessPolicy.Toml.Table

/-!
# The syntax of TOML

A TOML text is a sequence of lines: key-value pairs, headers, comments and
blank lines.  Only arrays and texts of several lines let a pair run over more
than one line.  Arrays and inline tables nest less than eighty deep, and a key
has fewer than eighty parts.
-/

namespace AccessPolicy.Toml

/-- The bound below which values nest and keys have parts. -/
def nestingBound : Nat := 80

def isBareKeyChar (c : Char) : Bool :=
  'a' ≤ c && c ≤ 'z' || 'A' ≤ c && c ≤ 'Z' || '0' ≤ c && c ≤ '9' ||
    c = '_' || c = '-'

def keyPart? : List Char → Option (String × List Char)
  | '"' :: rest =>
    (basic? rest).map fun (name, rest) => (String.ofList name, rest)
  | '\'' :: rest =>
    (literal? rest).map fun (name, rest) => (String.ofList name, rest)
  | text =>
    let name := text.takeWhile isBareKeyChar
    if name.isEmpty then none
    else some (String.ofList name, text.dropWhile isBareKeyChar)

/-- The parts of a key, which dots separate, and what follows the blanks
behind it. -/
def keyParts? (text : List Char) : Option (List String × List Char) :=
  match keyPart? (skipBlanks text) with
  | none => none
  | some (part, rest) =>
    match skipBlanks rest with
    | '.' :: later =>
      if later.length < text.length then
        (keyParts? later).map fun (parts, rest) => (part :: parts, rest)
      else none
    | rest => some ([part], rest)
termination_by text.length

def key? (text : List Char) : Option (Key × List Char) := do
  let (parts, rest) ← keyParts? text
  let name ← parts.getLast?
  if parts.length < nestingBound then some (⟨parts.dropLast, name⟩, rest)
  else none

/-- The items of an array behind its opening bracket, and what follows its
closing bracket.  A comma may stand behind the last item. -/
def arrayItems? (value? : List Char → Option (Document × List Char))
    (text : List Char) : Option (List Document × List Char) :=
  match skipTrivia text with
  | ']' :: rest => some ([], rest)
  | start =>
    match value? start with
    | none => none
    | some (item, rest) =>
      match skipTrivia rest with
      | ']' :: rest => some ([item], rest)
      | ',' :: rest =>
        if rest.length < text.length then
          (arrayItems? value? rest).map fun (items, rest) =>
            (item :: items, rest)
        else none
      | _ => none
termination_by text.length

def pair? (value? : List Char → Option (Document × List Char))
    (text : List Char) : Option ((Key × Document) × List Char) :=
  match key? text with
  | some (key, '=' :: rest) =>
    (value? (skipBlanks rest)).map fun (value, rest) => ((key, value), rest)
  | _ => none

/-- The pairs of an inline table from one of them on, and what follows its
closing brace.  No comma may stand behind the last pair. -/
def inlinePairs? (value? : List Char → Option (Document × List Char))
    (text : List Char) : Option (List (Key × Document) × List Char) :=
  match pair? value? text with
  | none => none
  | some (pair, rest) =>
    match skipBlanks rest with
    | '\x7d' :: rest => some ([pair], rest)
    | ',' :: rest =>
      if rest.length < text.length then
        (inlinePairs? value? rest).map fun (pairs, rest) =>
          (pair :: pairs, rest)
      else none
    | _ => none
termination_by text.length

/-- An inline table behind its opening brace, and what follows its
closing brace. -/
def inline? (value? : List Char → Option (Document × List Char))
    (text : List Char) : Option (Document × List Char) :=
  match skipBlanks text with
  | '\x7d' :: rest => some (.table [], rest)
  | start => do
    let (pairs, rest) ← inlinePairs? value? start
    let table ← inlineTable? pairs
    pure (table, rest)

/-- A value that is no text, array or inline table, and what follows it. -/
def plainValue? (text : List Char) : Option (Document × List Char) :=
  match text with
  | 't' :: 'r' :: 'u' :: 'e' :: rest => some (.boolean true, rest)
  | 'f' :: 'a' :: 'l' :: 's' :: 'e' :: rest => some (.boolean false, rest)
  | _ =>
    match moment? text with
    | some rest => some (.moment, rest)
    | none =>
      match float? text with
      | some rest => some (.unread, rest)
      | none => (integer? text).map fun (value, rest) => (.integer value, rest)

/-- A value in which arrays and inline tables nest at most so deep, and
what follows it. -/
def value? : (depth : Nat) → List Char → Option (Document × List Char)
  | 0, '[' :: _ => none
  | depth + 1, '[' :: rest =>
    (arrayItems? (value? depth) rest).map fun (items, rest) =>
      (.array items, rest)
  | 0, '\x7b' :: _ => none
  | depth + 1, '\x7b' :: rest => inline? (value? depth) rest
  | _, '"' :: rest =>
    (quotation? ('"' :: rest)).map fun (text, rest) =>
      (.text (String.ofList text), rest)
  | _, '\'' :: rest =>
    (quotation? ('\'' :: rest)).map fun (text, rest) =>
      (.text (String.ofList text), rest)
  | _, text => plainValue? text

inductive Line where
  | pair (key : Key) (value : Document)
  | header (key : Key) (isArray : Bool)

def header? : List Char → Option (Line × List Char)
  | '[' :: '[' :: rest =>
    match key? rest with
    | some (key, ']' :: ']' :: rest) => some (.header key true, rest)
    | _ => none
  | '[' :: rest =>
    match key? rest with
    | some (key, ']' :: rest) => some (.header key false, rest)
    | _ => none
  | _ => none

/-- The content of a line that is neither blank nor a comment, and what
follows it. -/
def line? : List Char → Option (Line × List Char)
  | '[' :: rest => header? ('[' :: rest)
  | text =>
    (pair? (value? (nestingBound - 1)) text).map fun ((key, value), rest) =>
      (.pair key value, rest)

/-- The lines of a text, leaving out those that say nothing. -/
def lines? (text : List Char) : Option (List Line) :=
  match skipBlanks text with
  | [] => some []
  | start =>
    match lineEnd? start with
    | some rest => if rest.length < text.length then lines? rest else none
    | none => do
      let (line, rest) ← line? start
      let rest ← lineEnd? rest
      if rest.length < text.length then (lines? rest).map (line :: ·) else none
termination_by text.length

/-- The pairs before the first header, and the sections. -/
def sections : List Line → List (Key × Document) × List Section
  | [] => ([], [])
  | .pair key value :: rest =>
    let (pairs, parts) := sections rest
    ((key, value) :: pairs, parts)
  | .header key isArray :: rest =>
    let (pairs, parts) := sections rest
    ([], ⟨key, isArray, pairs⟩ :: parts)

def skipMark : List Char → List Char
  | '\ufeff' :: rest => rest
  | text => text

/-- The document that a TOML text stands for, which is always a table. -/
def parse? (text : String) : Option Document := do
  let (pairs, parts) := sections (← lines? (skipMark text.toList))
  rootTable? pairs parts

end AccessPolicy.Toml
