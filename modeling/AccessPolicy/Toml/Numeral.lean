import AccessPolicy.Text.Hex

/-!
# Numerals of TOML

Integers are signed words of sixty-four bits, in decimal or with a base mark in
hexadecimal, octal or binary.  Single underscores may stand between digits.  A
decimal integer begins with a zero only if it is zero.  Floating-point numerals
are checked but not evaluated; a positive one must not be so great that it
would round to infinity.
-/

namespace AccessPolicy.Toml

/-- Whether each underscore in a run of digits stands between two digits, and
there is a digit. -/
def wellSpaced : List Char → Bool
  | [] => false
  | '_' :: _ => false
  | [_] => true
  | _ :: '_' :: rest => wellSpaced rest
  | _ :: rest => wellSpaced rest

/-- The digits at the front of a text without the underscores between them,
and what follows. -/
def digitRun? (isDigit : Char → Bool) (text : List Char) :
    Option (List Char × List Char) :=
  let run := text.takeWhile fun c => isDigit c || c = '_'
  if wellSpaced run then
    some (run.filter (· ≠ '_'), text.dropWhile fun c => isDigit c || c = '_')
  else none

/-- Decimal digits that do not begin with a needless zero. -/
def decimalRun? (text : List Char) : Option (List Char × List Char) :=
  match digitRun? Char.isDigit text with
  | some ('0' :: _ :: _, _) => none
  | run => run

def sign : List Char → Bool × List Char
  | '-' :: rest => (true, rest)
  | '+' :: rest => (false, rest)
  | rest => (false, rest)

def ofDigits (base : Nat) (digits : List Char) : Nat :=
  digits.foldl (fun number c => base * number + (Text.hexValue? c).getD 0) 0

def isDigitIn (base : Nat) (c : Char) : Bool :=
  match Text.hexValue? c with
  | some value => value < base
  | none => false

/-- A number below the bound of positive words. -/
def positive? (number : Nat) : Option Int :=
  if number < Nat.pow 2 63 then some number else none

/-- An integer behind the mark of its base, and what follows it. -/
def based? (base : Nat) (text : List Char) : Option (Int × List Char) := do
  let (digits, rest) ← digitRun? (isDigitIn base) text
  let value ← positive? (ofDigits base digits)
  pure (value, rest)

def integer? : List Char → Option (Int × List Char)
  | '0' :: 'x' :: rest => based? 16 rest
  | '0' :: 'o' :: rest => based? 8 rest
  | '0' :: 'b' :: rest => based? 2 rest
  | text => do
    let (negative, unsigned) := sign text
    let (digits, rest) ← decimalRun? unsigned
    let value := Nat.ofDigitChars 10 digits 0
    if negative then
      if value ≤ Nat.pow 2 63 then some (-value, rest) else none
    else
      (positive? value).map (·, rest)

/-- The least number that rounds to infinity: half a unit above the
greatest finite one. -/
def infinityBound : Nat := Nat.pow 2 1024 - Nat.pow 2 970

/-- Whether a decimal significand at a decimal exponent is so great that it
rounds to infinity.  Numbers of clearly more or fewer digits than the bound are
told apart by their number of digits alone. -/
def roundsToInfinity (significand : Nat) (exponent : Int) : Bool :=
  let places := (Nat.toDigits 10 significand).length + exponent
  if significand = 0 || places < 309 then false
  else if 309 < places then true
  else significand * Nat.pow 10 exponent.toNat ≥
    infinityBound * Nat.pow 10 (-exponent).toNat

def fraction? : List Char → Option (List Char × List Char)
  | '.' :: rest => digitRun? Char.isDigit rest
  | _ => none

def exponent? : List Char → Option (Int × List Char)
  | mark :: rest =>
    if mark = 'e' || mark = 'E' then do
      let (negative, unsigned) := sign rest
      let (digits, rest) ← digitRun? Char.isDigit unsigned
      let value := Nat.ofDigitChars 10 digits 0
      pure (if negative then -value else value, rest)
    else none
  | [] => none

/-- Pass over a floating-point numeral, which has a fraction, an
exponent or both. -/
def finite? (text : List Char) : Option (List Char) := do
  let (negative, unsigned) := sign text
  let (whole, rest) ← decimalRun? unsigned
  let (digits, exponent, rest) ←
    match fraction? rest with
    | some (fraction, rest) =>
      match exponent? rest with
      | some (exponent, rest) => some (fraction, exponent, rest)
      | none => some (fraction, 0, rest)
    | none => (exponent? rest).map fun (exponent, rest) => ([], exponent, rest)
  let significand := Nat.ofDigitChars 10 (whole ++ digits) 0
  if !negative && roundsToInfinity significand (exponent - digits.length) then
    none
  else some rest

def float? (text : List Char) : Option (List Char) :=
  match (sign text).2 with
  | 'i' :: 'n' :: 'f' :: rest => some rest
  | 'n' :: 'a' :: 'n' :: rest => some rest
  | _ => finite? text

end AccessPolicy.Toml
