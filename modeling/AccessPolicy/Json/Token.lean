import AccessPolicy.Document.Basic
import AccessPolicy.Text.Hex

/-!
# Tokens of JSON

A JSON text is a sequence of tokens with blanks between them.  Brackets, commas
and colons are tokens of one character; a numeral extends as far as its
characters go, and a text up to its closing quote.  Every token has one spelling
in which it is written, and reading the spellings one after another gives the
tokens back as long as no two numerals or words touch.
-/

namespace AccessPolicy.Json

inductive Token where
  | openArray
  | closeArray
  | openTable
  | closeTable
  | comma
  | colon
  /-- A text; none if its escapes name one half of a surrogate pair alone. -/
  | text (value : Option String)
  /-- A numeral or one of the words `null`, `true` and `false`. -/
  | leaf (value : Document)
  deriving Inhabited

def isNumeralChar (c : Char) : Bool :=
  c.isDigit || c = '-' || c = '+' || c = '.' || c = 'e' || c = 'E'

def spanDigits (text : List Char) : List Char × List Char :=
  (text.takeWhile Char.isDigit, text.dropWhile Char.isDigit)

/-- The exponent at the end of a numeral: nothing, or a mark, a sign if
need be, and digits. -/
def isExponent : List Char → Bool
  | [] => true
  | mark :: rest =>
    (mark = 'e' || mark = 'E') &&
      match rest with
      | '+' :: digits | '-' :: digits =>
        !digits.isEmpty && digits.all Char.isDigit
      | digits => !digits.isEmpty && digits.all Char.isDigit

/-- The end of a numeral behind its integer part: a fraction if need be,
then an exponent. -/
def isFraction : List Char → Bool
  | '.' :: rest =>
    let (digits, exponent) := spanDigits rest
    !digits.isEmpty && isExponent exponent
  | exponent => isExponent exponent

/-- The integer part of a numeral: a zero, or digits that begin with no zero. -/
def isIntegerPart : List Char → Bool
  | [] => false
  | ['0'] => true
  | '0' :: _ => false
  | _ => true

/-- The number of an unsigned numeral.  A negative zero is no integer. -/
def unsignedNumeral (negative : Bool) (numeral : List Char) : Option Document :=
  let (digits, rest) := spanDigits numeral
  if isIntegerPart digits && isFraction rest then
    let value := Nat.ofDigitChars 10 digits 0
    if !rest.isEmpty || negative && value = 0 then some .unread
    else some (.integer (if negative then -value else value))
  else none

def numeral? : List Char → Option Document
  | '-' :: unsigned => unsignedNumeral true unsigned
  | unsigned => unsignedNumeral false unsigned

/-- A piece of a text: a character, or a sixteen-bit unit given by its
number. -/
inductive Piece where
  | char (value : Char)
  | unit (value : Nat)

/-- The character of an escape of one letter. -/
def escaped? : Char → Option Char
  | '"' => some '"'
  | '\\' => some '\\'
  | '/' => some '/'
  | 'b' => some '\x08'
  | 'f' => some '\x0c'
  | 'n' => some '\n'
  | 'r' => some '\r'
  | 't' => some '\t'
  | _ => none

/-- The pieces of a text behind its opening quote, and what follows its
closing quote. -/
def pieces : List Char → Option (List Piece × List Char)
  | [] => none
  | '"' :: rest => some ([], rest)
  | '\\' :: 'u' :: first :: second :: third :: fourth :: rest => do
    let value ← Text.readHex? [first, second, third, fourth]
    let (later, rest) ← pieces rest
    pure (.unit value :: later, rest)
  | '\\' :: letter :: rest => do
    let value ← escaped? letter
    let (later, rest) ← pieces rest
    pure (.char value :: later, rest)
  | c :: rest =>
    if c.toNat < 0x20 || c = '\\' then none
    else do
      let (later, rest) ← pieces rest
      pure (.char c :: later, rest)

/-- The characters that pieces stand for.  A unit of the first half of a
surrogate pair stands for a character together with a unit of the second half
behind it, and for none alone. -/
def resolve : List Piece → Option (List Char)
  | [] => some []
  | .char c :: rest => (resolve rest).map (c :: ·)
  | .unit high :: .unit low :: rest =>
    if 0xd800 ≤ high && high < 0xdc00 && 0xdc00 ≤ low && low < 0xe000 then
      (resolve rest).map
        (Char.ofNat (0x10000 + (high - 0xd800) * 0x400 + (low - 0xdc00)) :: ·)
    else if 0xd800 ≤ high && high < 0xe000 then none
    else (resolve (.unit low :: rest)).map (Char.ofNat high :: ·)
  | .unit value :: rest =>
    if 0xd800 ≤ value && value < 0xe000 then none
    else (resolve rest).map (Char.ofNat value :: ·)

def isBlank (c : Char) : Bool :=
  c = ' ' || c = '\n' || c = '\t' || c = '\r'

/-- A piece in front of others leaves as much of the text unread as they do. -/
theorem unread_of_cons {piece : Piece} {found : Option (List Piece × List Char)}
    {result : List Piece × List Char}
    (hextended : (do let (later, rest) ← found; pure (piece :: later, rest)) =
      some result) :
    ∃ later, found = some later ∧ result.2 = later.2 := by
  obtain ⟨later, hlater, hcons⟩ := Option.bind_eq_some_iff.1 hextended
  have hresult : (piece :: later.1, later.2) = result := Option.some.inj hcons
  exact ⟨later, hlater, by rw [← hresult]⟩

theorem length_pieces {text : List Char} {result : List Piece × List Char}
    (hpieces : pieces text = some result) : result.2.length < text.length := by
  fun_induction pieces text generalizing result with
  | case1 => simp at hpieces
  | case2 rest =>
      simp only [Option.some.injEq] at hpieces
      subst hpieces
      simp
  | case3 first second third fourth rest ih =>
      obtain ⟨_, _, hrest⟩ := Option.bind_eq_some_iff.1 hpieces
      obtain ⟨later, hlater, hunread⟩ := unread_of_cons hrest
      have hshorter := ih hlater
      simp only [hunread, List.length_cons]
      omega
  | case4 letter rest _ ih =>
      obtain ⟨_, _, hrest⟩ := Option.bind_eq_some_iff.1 hpieces
      obtain ⟨later, hlater, hunread⟩ := unread_of_cons hrest
      have hshorter := ih hlater
      simp only [hunread, List.length_cons]
      omega
  | case5 => simp at hpieces
  | case6 c rest _ _ _ _ ih =>
      obtain ⟨later, hlater, hunread⟩ := unread_of_cons hpieces
      have hshorter := ih hlater
      simp only [hunread, List.length_cons]
      omega

def tokens (text : List Char) : Option (List Token) :=
  match text with
  | [] => some []
  | '[' :: rest => (tokens rest).map (.openArray :: ·)
  | ']' :: rest => (tokens rest).map (.closeArray :: ·)
  | '\x7b' :: rest => (tokens rest).map (.openTable :: ·)
  | '\x7d' :: rest => (tokens rest).map (.closeTable :: ·)
  | ',' :: rest => (tokens rest).map (.comma :: ·)
  | ':' :: rest => (tokens rest).map (.colon :: ·)
  | 'n' :: 'u' :: 'l' :: 'l' :: rest => (tokens rest).map (.leaf .null :: ·)
  | 't' :: 'r' :: 'u' :: 'e' :: rest =>
    (tokens rest).map (.leaf (.boolean true) :: ·)
  | 'f' :: 'a' :: 'l' :: 's' :: 'e' :: rest =>
    (tokens rest).map (.leaf (.boolean false) :: ·)
  | '"' :: rest =>
    match _hfound : pieces rest with
    | none => none
    | some (found, later) =>
      (tokens later).map (.text ((resolve found).map String.ofList) :: ·)
  | c :: rest =>
    if isBlank c then tokens rest
    else if isNumeralChar c then
      match numeral? (c :: rest.takeWhile isNumeralChar) with
      | none => none
      | some value =>
        (tokens (rest.dropWhile isNumeralChar)).map (.leaf value :: ·)
    else none
termination_by text.length
decreasing_by
  all_goals simp only [List.length_cons]
  all_goals try omega
  · have := length_pieces _hfound
    simp only at this
    omega
  · have := (List.dropWhile_sublist (l := rest) isNumeralChar).length_le
    omega

/-! ## Writing tokens -/

def escapeChar (c : Char) : List Char :=
  if c = '"' then ['\\', '"']
  else if c = '\\' then ['\\', '\\']
  else if c = '\x08' then ['\\', 'b']
  else if c = '\x0c' then ['\\', 'f']
  else if c = '\n' then ['\\', 'n']
  else if c = '\r' then ['\\', 'r']
  else if c = '\t' then ['\\', 't']
  else if c.toNat < 0x20 then '\\' :: 'u' :: Text.hexDigits 4 c.toNat
  else [c]

def spellInteger : Int → List Char
  | .ofNat value => Nat.toDigits 10 value
  | .negSucc value => '-' :: Nat.toDigits 10 (value + 1)

/-- The spelling of a token.  A text without value and a leaf without spelling
are written as `null`. -/
def Token.spell : Token → List Char
  | openArray => ['[']
  | closeArray => [']']
  | openTable => ['\x7b']
  | closeTable => ['\x7d']
  | comma => [',']
  | colon => [':']
  | text (some value) => '"' :: value.toList.flatMap escapeChar ++ ['"']
  | leaf (.boolean true) => ['t', 'r', 'u', 'e']
  | leaf (.boolean false) => ['f', 'a', 'l', 's', 'e']
  | leaf (.integer value) => spellInteger value
  | text none | leaf _ => ['n', 'u', 'l', 'l']

end AccessPolicy.Json
