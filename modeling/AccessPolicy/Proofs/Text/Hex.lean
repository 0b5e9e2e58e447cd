import AccessPolicy.Text.Hex
import Mathlib.Algebra.Group.Nat.Defs

/-!
# Numbers in hexadecimal text

Digits of a fixed width are read back as the number they spell.  What the width
cuts off is lost, so numbers below `16 ^ width` are told apart by their digits.
Texts of one width are also in the order of what they spell: the most
significant digit comes first, and digits are in the order of their values.
-/

namespace AccessPolicy.Text

/-- Reading fixed-width digits gives back the number, up to the digits that
the width cut off. -/
theorem readHex?_hexDigits (width number : Nat) :
    readHex? (hexDigits width number) = some (number % 16 ^ width) := by
  induction width generalizing number with
  | zero => simp [hexDigits, readHex?, Nat.mod_one]
  | succ width ih =>
      have hdigit : number % 16 < 16 := Nat.mod_lt _ (by decide)
      have hrest := ih (number / 16)
      simp only [readHex?] at hrest ⊢
      simp only [hexDigits, List.foldlM_append, hrest, Option.bind_eq_bind,
        Option.bind_some, List.foldlM_cons, List.foldlM_nil,
        hexValue?_hexDigit hdigit, Option.map_some]
      have hsplit : number % 16 ^ (width + 1) =
          16 * (number / 16 % 16 ^ width) + number % 16 := by
        rw [Nat.pow_succ, Nat.mul_comm (16 ^ width) 16, Nat.mod_mul]
        omega
      simp [hsplit]

theorem hexDigits_injOn {width first second : Nat} (hfirst : first < 16 ^ width)
    (hsecond : second < 16 ^ width)
    (hdigits : hexDigits width first = hexDigits width second) :
    first = second := by
  have hread := congrArg readHex? hdigits
  rw [readHex?_hexDigits, readHex?_hexDigits, Nat.mod_eq_of_lt hfirst,
    Nat.mod_eq_of_lt hsecond] at hread
  exact Option.some.inj hread

theorem hexDigits_append (leading trailing number : Nat) :
    hexDigits (leading + trailing) number =
      hexDigits leading (number / 16 ^ trailing) ++
        hexDigits trailing number := by
  induction trailing generalizing number with
  | zero => simp [hexDigits]
  | succ trailing ih =>
      rw [← Nat.add_assoc, hexDigits, hexDigits, ih, Nat.div_div_eq_div_mul,
        ← Nat.pow_succ', List.append_assoc]

/-- A text begins with its most significant digit, although it is built
from the last one. -/
theorem hexDigits_eq_cons (width number : Nat) :
    hexDigits (width + 1) number =
      hexDigit (number / 16 ^ width % 16) :: hexDigits width number := by
  rw [Nat.add_comm, hexDigits_append]
  rfl

theorem lowerCase_of_mem_hexDigits {width number : Nat} {c : Char}
    (hc : c ∈ hexDigits width number) :
    '0' ≤ c ∧ c ≤ '9' ∨ 'a' ≤ c ∧ c ≤ 'f' := by
  have hall : ∀ value < 16, '0' ≤ hexDigit value ∧ hexDigit value ≤ '9' ∨
      'a' ≤ hexDigit value ∧ hexDigit value ≤ 'f' := by decide
  induction width with
  | zero => cases hc
  | succ width ih =>
      rw [hexDigits_eq_cons] at hc
      cases hc with
      | head => exact hall _ (Nat.mod_lt _ (by decide))
      | tail _ hrest => exact ih hrest

theorem hexDigit_lt_iff {left right : Nat} (hleft : left < 16)
    (hright : right < 16) : hexDigit left < hexDigit right ↔ left < right := by
  have hall : ∀ left < 16, ∀ right < 16, hexDigit left < hexDigit right ↔
      left < right := by
    decide
  exact hall left hleft right hright

theorem hexDigit_inj {left right : Nat} (hleft : left < 16)
    (hright : right < 16) : hexDigit left = hexDigit right ↔ left = right := by
  refine ⟨fun hdigit => ?_, congrArg hexDigit⟩
  have hvalue := congrArg hexValue? hdigit
  rw [hexValue?_hexDigit hleft, hexValue?_hexDigit hright] at hvalue
  exact Option.some.inj hvalue

/-- Numbers compare as their quotients do, and where these are equal, as
their remainders. -/
theorem lt_iff_div_mod_lt (unit first second : Nat) :
    first < second ↔
      first / unit < second / unit ∨
        first / unit = second / unit ∧ first % unit < second % unit := by
  have hfirst := Nat.div_add_mod first unit
  have hsecond := Nat.div_add_mod second unit
  constructor
  · intro hlt
    have hle : first / unit ≤ second / unit :=
      Nat.div_le_div_right (Nat.le_of_lt hlt)
    rcases Nat.lt_or_eq_of_le hle with hquotient | hquotient
    · exact .inl hquotient
    · rw [hquotient] at hfirst
      exact .inr ⟨hquotient, by omega⟩
  · rintro (hquotient | ⟨hquotient, hremainder⟩)
    · exact Nat.lt_of_div_lt_div hquotient
    · rw [hquotient] at hfirst
      omega

/-- Texts of one width are in the order of what they spell. -/
theorem hexDigits_lt_iff (width first second : Nat) :
    hexDigits width first < hexDigits width second ↔
      first % 16 ^ width < second % 16 ^ width := by
  induction width with
  | zero => simp [hexDigits, Nat.mod_one]
  | succ width ih =>
      have hdigit (number : Nat) : number / 16 ^ width % 16 < 16 :=
        Nat.mod_lt _ (by decide)
      rw [hexDigits_eq_cons, hexDigits_eq_cons, List.cons_lt_cons_iff,
        hexDigit_lt_iff (hdigit first) (hdigit second),
        hexDigit_inj (hdigit first) (hdigit second),
        ih, lt_iff_div_mod_lt (16 ^ width) (first % 16 ^ (width + 1))]
      simp only [Nat.pow_succ, Nat.mod_mul_right_div_self,
        Nat.mod_mul_right_mod]

end AccessPolicy.Text
