import AccessPolicy.Proofs.Authority.Version
import Mathlib.Data.String.Basic

/-!
# What an etag spells

An etag can be worked out in two stages: the version counter is cut into its
eight bytes, the most significant one first, and each byte is written with two
digits, its upper half first.  Together they are the sixteen digits of the
counter.  So an etag is as good as the version that it names: it reads back as
the version, it differs where the version does, and etags sort as versions do.
-/

namespace AccessPolicy

/-- The byte of a word that has the given number of bytes below it. -/
def byteAt (word : UInt64) (place : Nat) : UInt8 :=
  (word >>> UInt64.ofNat (8 * place)).toUInt8

def bigEndian (word : UInt64) : List UInt8 :=
  (List.range 8).reverse.map (byteAt word)

/-- The two digits of a byte, its upper half first. -/
def spelledByte (byte : UInt8) : List Char :=
  [Text.hexDigit (byte >>> 4).toNat, Text.hexDigit (byte &&& 15).toNat]

theorem toNat_byteAt (word : UInt64) {place : Nat} (hplace : place < 8) :
    (byteAt word place).toNat = word.toNat / 16 ^ (2 * place) % 256 := by
  have hbits : (UInt64.ofNat (8 * place)).toNat % 64 = 8 * place := by
    rw [UInt64.toNat_ofNat', Nat.mod_eq_of_lt (by omega),
      Nat.mod_eq_of_lt (by omega)]
  have hunit : 2 ^ (8 * place) = 16 ^ (2 * place) := by
    rw [Nat.pow_mul, Nat.pow_mul]
  rw [byteAt, UInt64.toNat_toUInt8, UInt64.toNat_shiftRight, hbits,
    Nat.shiftRight_eq_div_pow, hunit]

/-- The digits of a byte are the last two digits of every number that
ends with this byte. -/
theorem spelledByte_eq_hexDigits {byte : UInt8} {number : Nat}
    (hbyte : byte.toNat = number % 256) :
    spelledByte byte = Text.hexDigits 2 number := by
  have hupper : (byte >>> 4).toNat = number / 16 % 16 := by
    rw [UInt8.toNat_shiftRight, Nat.shiftRight_eq_div_pow, hbyte]
    exact Nat.mod_mul_right_div_self number 16 16
  have hlower : (byte &&& 15).toNat = number % 16 := by
    rw [UInt8.toNat_and, hbyte]
    calc number % 256 &&& 15
      _ = number % 256 % 16 := Nat.and_two_pow_sub_one_eq_mod _ 4
      _ = number % 16 := Nat.mod_mul_right_mod number 16 16
  rw [spelledByte, hupper, hlower]
  rfl

/-- Each of the lowest bytes of a word is spelled by two of its last digits. -/
theorem hexDigits_eq_flatMap_byteAt (word : UInt64) {count : Nat}
    (hcount : count ≤ 8) :
    Text.hexDigits (2 * count) word.toNat =
      ((List.range count).reverse.map (byteAt word)).flatMap spelledByte := by
  induction count with
  | zero => rfl
  | succ count ih =>
      have hbyte := spelledByte_eq_hexDigits (toNat_byteAt word hcount)
      rw [Nat.mul_succ, Nat.add_comm, Text.hexDigits_append,
        ih (Nat.le_of_lt hcount), ← hbyte, List.range_succ, List.reverse_concat,
        List.map_cons, List.flatMap_cons]

namespace Stored

theorem token_etagOf (version : UInt64) :
    (etagOf version).token =
      String.ofList ((bigEndian version).flatMap spelledByte) := by
  have hdigits := hexDigits_eq_flatMap_byteAt version (Nat.le_refl 8)
  exact congrArg String.ofList hdigits

theorem toList_token_etagOf (version : UInt64) :
    (etagOf version).token.toList = Text.hexDigits 16 version.toNat :=
  String.toList_ofList

theorem toNat_mod_sixteen_digits (version : UInt64) :
    version.toNat % 16 ^ 16 = version.toNat :=
  Nat.mod_eq_of_lt version.toNat_lt

theorem etagOf_lt_iff (first second : UInt64) :
    (etagOf first).token < (etagOf second).token ↔ first < second := by
  rw [String.lt_iff_toList_lt, toList_token_etagOf, toList_token_etagOf,
    Text.hexDigits_lt_iff, toNat_mod_sixteen_digits, toNat_mod_sixteen_digits,
    UInt64.lt_iff_toNat_lt]

/-- An etag is the version in sixteen lower-case hexadecimal digits, two for
each byte with the most significant ones first.  It reads back as the version;
two etags are equal exactly if the versions are, and one comes before another
exactly if its version does. -/
theorem etags_name_versions (stored other : Stored) :
    stored.etag.token =
      String.ofList ((bigEndian stored.version).flatMap spelledByte) ∧
    stored.etag.token.length = 16 ∧
    (∀ c ∈ stored.etag.token.toList, '0' ≤ c ∧ c ≤ '9' ∨ 'a' ≤ c ∧ c ≤ 'f') ∧
    Text.readHex? stored.etag.token.toList = some stored.version.toNat ∧
    (stored.etag = other.etag ↔ stored.version = other.version) ∧
    (stored.etag.token < other.etag.token ↔
      stored.version < other.version) := by
  have hdigits : stored.etag.token.toList =
      Text.hexDigits 16 stored.version.toNat :=
    toList_token_etagOf stored.version
  refine ⟨token_etagOf _, ?length, ?digits, ?value, etagOf_injective.eq_iff,
    etagOf_lt_iff _ _⟩
  case length => rw [← String.length_toList, hdigits, Text.length_hexDigits]
  case digits =>
    intro c hc
    rw [hdigits] at hc
    exact Text.lowerCase_of_mem_hexDigits hc
  case value => rw [hdigits, Text.readHex?_hexDigits, toNat_mod_sixteen_digits]

/-- Where the last byte runs over its digits start again from zero, and the
etags stay in order. -/
theorem etags_name_versions_carry :
    (etag ⟨255, []⟩).token = "00000000000000ff" ∧
      (etag ⟨256, []⟩).token = "0000000000000100" ∧
      'f' ∈ (etag ⟨255, []⟩).token.toList ∧
        ('0' ≤ 'f' ∧ 'f' ≤ '9' ∨ 'a' ≤ 'f' ∧ 'f' ≤ 'f') ∧
      (etag ⟨255, []⟩).token < (etag ⟨256, []⟩).token := by
  have hletter : 'f' ∈ (etag ⟨255, []⟩).token.toList := by decide +kernel
  obtain ⟨-, -, hdigits, -, -, horder⟩ :=
    etags_name_versions ⟨255, []⟩ ⟨256, []⟩
  exact ⟨by decide +kernel, by decide +kernel, hletter, hdigits _ hletter,
    horder.2 (by decide +kernel)⟩

end Stored

end AccessPolicy
