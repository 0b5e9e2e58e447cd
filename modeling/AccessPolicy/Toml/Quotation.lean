import AccessPolicy.Text.Hex
import AccessPolicy.Toml.Lexical

/-!
# Quoted text in TOML

There are four kinds of quoted text: basic and literal, each on one line or over
several lines.  Basic text has escapes, literal text has none.  Text over
several lines is set between three quotes; up to two more quotes in front of the
closing ones belong to the text.  An end of a line in it is always read as a
line feed, and one right behind the opening quotes is dropped.
-/

namespace AccessPolicy.Toml

def scalar? (codePoint : Nat) : Option Char :=
  if codePoint < 0xd800 || 0xe000 ≤ codePoint && codePoint < 0x110000 then
    some (Char.ofNat codePoint)
  else none

def codePoint? (digits : Nat) (text : List Char) : Option (Char × List Char) :=
  if digits ≤ text.length then
    ((Text.readHex? (text.take digits)).bind scalar?).map (·, text.drop digits)
  else none

def escaped? : Char → Option Char
  | '"' => some '"'
  | '\\' => some '\\'
  | 'b' => some '\x08'
  | 'f' => some '\x0c'
  | 'n' => some '\n'
  | 'r' => some '\r'
  | 't' => some '\t'
  | _ => none

/-- The character that an escape stands for, and what follows it.  The
backslash has been passed. -/
def escape? : List Char → Option (Char × List Char)
  | [] => none
  | 'u' :: rest => codePoint? 4 rest
  | 'U' :: rest => codePoint? 8 rest
  | letter :: rest => (escaped? letter).map (·, rest)

theorem length_escape? {text : List Char} {result : Char × List Char}
    (hescape : escape? text = some result) : result.2.length < text.length := by
  have hcodePoint : ∀ {digits : Nat} {rest : List Char},
      codePoint? digits rest = some result → result.2.length ≤ rest.length := by
    intro digits rest hresult
    unfold codePoint? at hresult
    split at hresult
    · obtain ⟨_, _, rfl⟩ := Option.map_eq_some_iff.1 hresult
      simp only [List.length_drop]
      omega
    · simp at hresult
  unfold escape? at hescape
  split at hescape
  · simp at hescape
  · have := hcodePoint hescape
    simp only [List.length_cons]
    omega
  · have := hcodePoint hescape
    simp only [List.length_cons]
    omega
  · obtain ⟨_, _, rfl⟩ := Option.map_eq_some_iff.1 hescape
    simp

/-- Basic text behind its opening quote, and what follows its closing quote. -/
def basic? (text : List Char) : Option (List Char × List Char) :=
  match text with
  | [] => none
  | '"' :: rest => some ([], rest)
  | '\\' :: rest =>
    match _hescape : escape? rest with
    | none => none
    | some (c, later) =>
      (basic? later).map fun (found, after) => (c :: found, after)
  | c :: rest =>
    if isPlain c then
      (basic? rest).map fun (found, after) => (c :: found, after)
    else none
termination_by text.length
decreasing_by
  · have := length_escape? _hescape
    simp only [List.length_cons] at this ⊢
    omega
  · simp

/-- Literal text behind its opening quote, and what follows its closing
quote. -/
def literal? : List Char → Option (List Char × List Char)
  | [] => none
  | c :: rest =>
    if c = '\'' then some ([], rest)
    else if isPlain c then (literal? rest).map fun (found, after) =>
      (c :: found, after)
    else none

/-- The quotes that belong to a text which ends here, and what follows
its closing quotes. -/
def close? (quote : Char) (text : List Char) : Option (List Char × List Char) :=
  let quotes := (text.takeWhile (· = quote)).length
  if 3 ≤ quotes then
    let extra := min (quotes - 3) 2
    some (List.replicate extra quote, text.drop (3 + extra))
  else none

/-- Pass over the end of a line that a backslash joins to the next one,
together with all blanks and further ends of lines behind it.  The
backslash has been passed. -/
def joinLines? (text : List Char) : Option (List Char) :=
  (newline? (skipBlanks text)).map skipSpace

theorem length_newline? {text rest : List Char}
    (hnewline : newline? text = some rest) : rest.length < text.length := by
  unfold newline? at hnewline
  split at hnewline
  · cases hnewline
    simp
  · cases hnewline
    simp only [List.length_cons]
    omega
  · simp at hnewline

theorem length_joinLines? {text rest : List Char}
    (hjoin : joinLines? text = some rest) : rest.length < text.length := by
  obtain ⟨found, hfound, rfl⟩ := Option.map_eq_some_iff.1 hjoin
  have hnewline := length_newline? hfound
  have hblanks := (List.dropWhile_sublist (l := text) isBlank).length_le
  have hspace := length_skipSpace found
  unfold skipBlanks at hnewline
  omega

def basicLines? (text : List Char) : Option (List Char × List Char) :=
  match close? '"' text with
  | some closed => some closed
  | none =>
    match _hnewline : newline? text with
    | some later =>
      (basicLines? later).map fun (found, after) => ('\n' :: found, after)
    | none =>
      match text with
      | [] => none
      | c :: rest =>
        if c = '\\' then
          match _hjoin : joinLines? rest with
          | some later => basicLines? later
          | none =>
            match _hescape : escape? rest with
            | none => none
            | some (c, later) =>
              (basicLines? later).map fun (found, after) => (c :: found, after)
        else if isPlain c then (basicLines? rest).map fun (found, after) =>
          (c :: found, after)
        else none
termination_by text.length
decreasing_by
  · exact length_newline? _hnewline
  · have := length_joinLines? _hjoin
    simp only [List.length_cons]
    omega
  · have := length_escape? _hescape
    simp only [List.length_cons] at this ⊢
    omega
  · simp

def literalLines? (text : List Char) : Option (List Char × List Char) :=
  match close? '\'' text with
  | some closed => some closed
  | none =>
    match _hnewline : newline? text with
    | some later =>
      (literalLines? later).map fun (found, after) => ('\n' :: found, after)
    | none =>
      match text with
      | [] => none
      | c :: rest =>
        if isPlain c then (literalLines? rest).map fun (found, after) =>
          (c :: found, after)
        else none
termination_by text.length
decreasing_by
  · exact length_newline? _hnewline
  · simp

def skipNewline (text : List Char) : List Char := (newline? text).getD text

/-- Quoted text of any kind, and what follows it. -/
def quotation? : List Char → Option (List Char × List Char)
  | '"' :: '"' :: '"' :: rest => basicLines? (skipNewline rest)
  | '"' :: rest => basic? rest
  | '\'' :: '\'' :: '\'' :: rest => literalLines? (skipNewline rest)
  | '\'' :: rest => literal? rest
  | _ => none

end AccessPolicy.Toml
