/-!
# Hexadecimal text

Lower-case hexadecimal digits of a fixed width, most significant first, and
their reading back.  The width is part of the number's spelling, so two numbers
below `16 ^ width` are spelled alike only if they are equal.
-/

namespace AccessPolicy.Text

/-- The lower-case digit of a value below sixteen. -/
def hexDigit (value : Nat) : Char :=
  if value < 10 then Char.ofNat (48 + value) else Char.ofNat (87 + value)

/-- The last `width` hexadecimal digits of a number. -/
def hexDigits : (width : Nat) → (number : Nat) → List Char
  | 0, _ => []
  | width + 1, number =>
    hexDigits width (number / 16) ++ [hexDigit (number % 16)]

/-- The value of a hexadecimal digit in either case. -/
def hexValue? (c : Char) : Option Nat :=
  if '0' ≤ c ∧ c ≤ '9' then some (c.toNat - 48)
  else if 'a' ≤ c ∧ c ≤ 'f' then some (c.toNat - 87)
  else if 'A' ≤ c ∧ c ≤ 'F' then some (c.toNat - 55)
  else none

def readHex? (digits : List Char) : Option Nat :=
  digits.foldlM (fun number c => (hexValue? c).map (16 * number + ·)) 0

@[simp]
theorem length_hexDigits (width number : Nat) :
    (hexDigits width number).length = width := by
  induction width generalizing number with
  | zero => rfl
  | succ width ih => simp [hexDigits, ih]

theorem hexValue?_hexDigit {value : Nat} (hvalue : value < 16) :
    hexValue? (hexDigit value) = some value := by
  have hall : ∀ value, value < 16 →
      hexValue? (hexDigit value) = some value := by decide
  exact hall value hvalue

end AccessPolicy.Text
