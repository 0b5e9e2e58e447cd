import AccessPolicy.Settings
import Mathlib.Data.UInt

/-!
# Arithmetic of delays

A delay is worked out in words, by a shift and a product that saturates.  The
shift is by fewer bits than a word has, and where the product saturates, the cap
is smaller anyway.  So a delay is the smaller of the cap and the first delay
doubled, with at most thirty-two doublings.  Leaving out the limit on the
doublings makes a difference exactly if the first delay is not zero and the cap
lies beyond thirty-two doublings of it.
-/

namespace AccessPolicy

/-- The difference of two words, or zero if the second one is larger. -/
def saturatingSub (left right : UInt32) : UInt32 :=
  if right ≤ left then left - right else 0

theorem toNat_saturatingSub (left right : UInt32) :
    (saturatingSub left right).toNat = left.toNat - right.toNat := by
  rw [saturatingSub]
  split
  · next hle => exact UInt32.toNat_sub_of_le _ _ hle
  · next hgt =>
      have hlt : left.toNat < right.toNat := Nat.lt_of_not_le hgt
      exact (Nat.sub_eq_zero_of_le (Nat.le_of_lt hlt)).symm

/-- The word one, shifted to the left by fewer bits than a word has. -/
def shiftedOne? (bits : UInt32) : Option UInt64 :=
  if bits.toNat < 64 then some (1 <<< bits.toUInt64) else none

theorem shiftedOne?_eq_some {bits : UInt32} (hbits : bits.toNat < 64) :
    ∃ factor, shiftedOne? bits = some factor ∧
      factor.toNat = 2 ^ bits.toNat := by
  refine ⟨1 <<< bits.toUInt64, if_pos hbits, ?_⟩
  have hword : 2 ^ bits.toNat < 2 ^ 64 := Nat.pow_lt_pow_right (by decide) hbits
  rw [UInt64.toNat_shiftLeft, UInt32.toNat_toUInt64, Nat.mod_eq_of_lt hbits,
    UInt64.toNat_one, Nat.one_shiftLeft, Nat.mod_eq_of_lt hword]

def saturatingMul (left right : UInt64) : UInt64 :=
  if left.toNat * right.toNat < UInt64.size then left * right else maxDelay

theorem toNat_saturate (milliseconds : Nat) :
    (saturate milliseconds).toNat = min milliseconds maxDelay.toNat := by
  rw [saturate]
  split
  · next hle =>
      have hsize : maxDelay.toNat < UInt64.size := maxDelay.toNat_lt
      rw [Nat.min_eq_left hle]
      exact UInt64.toNat_ofNat_of_lt (Nat.lt_of_le_of_lt hle hsize)
  · next hgt => exact (Nat.min_eq_right (Nat.le_of_not_le hgt)).symm

theorem saturatingMul_eq_saturate (left right : UInt64) :
    saturatingMul left right = saturate (left.toNat * right.toNat) := by
  have hlargest : maxDelay.toNat + 1 = UInt64.size := rfl
  apply UInt64.toNat_inj.1
  rw [toNat_saturate, saturatingMul]
  split
  · next hword =>
      rw [UInt64.toNat_mul, Nat.min_eq_left (by omega)]
      exact Nat.mod_eq_of_lt hword
  · next hlarge => rw [Nat.min_eq_right (by omega)]

namespace Backoff

variable (backoff : Backoff)

/-- The delay before a retry, worked out in words.  It has no value if
the shift overflows. -/
def delayInWords? (retry : UInt32) : Option UInt64 := do
  let factor ← shiftedOne? (min (saturatingSub retry 1) 32)
  pure (min (saturatingMul backoff.initialDelayMs factor) backoff.maxDelayMs)

theorem toNat_shift (retry : UInt32) :
    (min (saturatingSub retry 1) 32).toNat = doublings retry := by
  rw [UInt32.toNat_min, toNat_saturatingSub]
  rfl

theorem delayInWords?_eq_some (retry : UInt32) :
    backoff.delayInWords? retry = some (backoff.delayFor retry) := by
  have hbits := toNat_shift retry
  have hfew : doublings retry ≤ 32 := Nat.min_le_right _ 32
  obtain ⟨factor, hfactor, hvalue⟩ := shiftedOne?_eq_some (by rw [hbits]; omega)
  rw [hbits] at hvalue
  rw [delayInWords?, hfactor, Option.bind_eq_bind, Option.bind_some,
    saturatingMul_eq_saturate, hvalue]
  rfl

/-- Where the product saturates, the cap is smaller anyway. -/
theorem toNat_delayFor (retry : UInt32) :
    (backoff.delayFor retry).toNat =
      min (backoff.initialDelayMs.toNat * 2 ^ doublings retry)
        backoff.maxDelayMs.toNat := by
  have hcap : backoff.maxDelayMs.toNat ≤ maxDelay.toNat :=
    Nat.le_of_lt_succ backoff.maxDelayMs.toNat_lt
  rw [delayFor, UInt64.toNat_min, toNat_saturate, Nat.min_assoc,
    Nat.min_eq_right hcap]
  rfl

theorem doubled_mono {fewer more : Nat} (hle : fewer ≤ more) :
    backoff.initialDelayMs.toNat * 2 ^ fewer ≤
      backoff.initialDelayMs.toNat * 2 ^ more :=
  Nat.mul_le_mul_left _ (Nat.pow_le_pow_right (by decide) hle)

theorem delayFor_le_cap (retry : UInt32) :
    backoff.delayFor retry ≤ backoff.maxDelayMs := by
  rw [UInt64.le_iff_toNat_le, toNat_delayFor]
  exact Nat.min_le_right _ _

theorem delayFor_mono {earlier later : UInt32} (hle : earlier ≤ later) :
    backoff.delayFor earlier ≤ backoff.delayFor later := by
  have hretries : earlier.toNat ≤ later.toNat := hle
  have hdoublings : doublings earlier ≤ doublings later := by
    rw [doublings, doublings]
    omega
  have hdoubled := backoff.doubled_mono hdoublings
  rw [UInt64.le_iff_toNat_le, toNat_delayFor, toNat_delayFor]
  omega

/-- From one retry to the next there is at most one more doubling. -/
theorem delayFor_next_le {retry next : UInt32}
    (hnext : next.toNat = retry.toNat + 1) :
    (backoff.delayFor next).toNat ≤ 2 * (backoff.delayFor retry).toNat := by
  have hdoublings : doublings next ≤ doublings retry + 1 := by
    rw [doublings, doublings]
    omega
  have hdoubled := backoff.doubled_mono hdoublings
  rw [Nat.pow_succ, ← Nat.mul_assoc] at hdoubled
  rw [toNat_delayFor, toNat_delayFor]
  omega

/-- The delay before a retry if there were no limit on the doublings. -/
def unlimitedDelay (retry : UInt32) : Nat :=
  min (backoff.initialDelayMs.toNat * 2 ^ (retry.toNat - 1))
    backoff.maxDelayMs.toNat

theorem delayFor_eq_unlimited {retry : UInt32}
    (hcap : backoff.initialDelayMs = 0 ∨
      backoff.maxDelayMs.toNat ≤ backoff.initialDelayMs.toNat * 2 ^ 32) :
    (backoff.delayFor retry).toNat = backoff.unlimitedDelay retry := by
  rw [toNat_delayFor, unlimitedDelay]
  obtain hzero | hcap := hcap
  · rw [hzero, UInt64.toNat_zero, Nat.zero_mul, Nat.zero_mul]
  · by_cases hfew : retry.toNat - 1 ≤ 32
    · rw [doublings, Nat.min_eq_left hfew]
    · -- Thirty-two doublings reach the cap, so that it makes no difference that
      -- there are no more.
      have hmany : 32 ≤ retry.toNat - 1 := by omega
      have hdoubled := backoff.doubled_mono hmany
      rw [doublings, Nat.min_eq_right hmany, Nat.min_eq_right hcap,
        Nat.min_eq_right (by omega)]

/-- The thirty-third doubling is the first one that is left out. -/
theorem delayFor_lt_unlimited (hinitial : backoff.initialDelayMs ≠ 0)
    (hcap : backoff.initialDelayMs.toNat * 2 ^ 32 < backoff.maxDelayMs.toNat) :
    (backoff.delayFor 34).toNat < backoff.unlimitedDelay 34 := by
  have hpos : 0 < backoff.initialDelayMs.toNat := by
    apply Nat.pos_of_ne_zero
    intro hzero
    exact hinitial (UInt64.toNat_inj.1 hzero)
  rw [toNat_delayFor, unlimitedDelay]
  change min (backoff.initialDelayMs.toNat * 2 ^ 32) _ <
    min (backoff.initialDelayMs.toNat * 2 ^ 33) _
  omega

theorem delayFor_eq_unlimited_iff :
    (∀ retry : UInt32, 1 ≤ retry →
      (backoff.delayFor retry).toNat = backoff.unlimitedDelay retry) ↔
      backoff.initialDelayMs = 0 ∨
        backoff.maxDelayMs.toNat ≤ backoff.initialDelayMs.toNat * 2 ^ 32 := by
  constructor
  · intro hall
    by_cases hinitial : backoff.initialDelayMs = 0
    · exact .inl hinitial
    · refine .inr (Nat.le_of_not_lt fun hcap => ?_)
      have hlt := backoff.delayFor_lt_unlimited hinitial hcap
      rw [hall 34 (by decide)] at hlt
      exact absurd hlt (Nat.lt_irrefl _)
  · intro hcap retry _
    exact backoff.delayFor_eq_unlimited hcap

def InRange (backoff : Backoff) : Prop :=
  1 ≤ backoff.maxAttempts ∧ backoff.initialDelayMs ≤ backoff.maxDelayMs

instance : Decidable backoff.InRange :=
  inferInstanceAs (Decidable (_ ∧ _))

theorem validate_eq_ok_iff : backoff.validate = .ok () ↔ backoff.InRange := by
  have hpositive : 1 ≤ backoff.maxAttempts ↔ backoff.maxAttempts ≠ 0 :=
    UInt32.pos_iff_ne_zero
  rw [validate, InRange, hpositive, ← UInt64.not_lt]
  split
  case isTrue hnone => exact ⟨nofun, fun hrange => absurd hnone hrange.1⟩
  case isFalse hsome =>
    split
    case isTrue hlt => exact ⟨nofun, fun hrange => absurd hlt hrange.2⟩
    case isFalse hle => exact ⟨fun _ => ⟨hsome, hle⟩, fun _ => rfl⟩

/-- A valid schedule starts with its first delay, because the cap is not
below it. -/
theorem delayFor_one_of_valid (hvalid : backoff.validate = .ok ()) :
    backoff.delayFor 1 = backoff.initialDelayMs := by
  have hle : backoff.initialDelayMs.toNat ≤ backoff.maxDelayMs.toNat :=
    (backoff.validate_eq_ok_iff.1 hvalid).2
  apply UInt64.toNat_inj.1
  rw [toNat_delayFor]
  change min (backoff.initialDelayMs.toNat * 2 ^ 0) _ = _
  rw [Nat.pow_zero, Nat.mul_one, Nat.min_eq_left hle]

/-- Delays are worked out without overflow.  They never exceed the cap, never
decrease, and at most double from one retry to the next.  Exactly if the
first delay is zero or the cap within thirty-two doublings of it, they are
what they would be without a limit on the doublings.  A valid schedule starts
with its first delay. -/
theorem delays_double_up_to_cap (backoff : Backoff) :
    (∀ retry, backoff.delayInWords? retry = some (backoff.delayFor retry)) ∧
    (∀ retry, backoff.delayFor retry ≤ backoff.maxDelayMs) ∧
    (∀ earlier later, earlier ≤ later →
      backoff.delayFor earlier ≤ backoff.delayFor later) ∧
    (∀ retry next : UInt32, next.toNat = retry.toNat + 1 →
      (backoff.delayFor next).toNat ≤ 2 * (backoff.delayFor retry).toNat) ∧
    ((∀ retry : UInt32, 1 ≤ retry →
      (backoff.delayFor retry).toNat =
        min (backoff.initialDelayMs.toNat * 2 ^ (retry.toNat - 1))
          backoff.maxDelayMs.toNat) ↔
      backoff.initialDelayMs = 0 ∨
        backoff.maxDelayMs.toNat ≤ backoff.initialDelayMs.toNat * 2 ^ 32) ∧
    (backoff.validate = .ok () → backoff.delayFor 1 = backoff.initialDelayMs) :=
  ⟨backoff.delayInWords?_eq_some, backoff.delayFor_le_cap, fun _ _ =>
    backoff.delayFor_mono,
      fun _ _ => backoff.delayFor_next_le, backoff.delayFor_eq_unlimited_iff,
      backoff.delayFor_one_of_valid⟩

theorem delays_double_up_to_cap_default :
    delayFor {} 1 = 100 ∧ delayFor {} 2 ≤ delayFor {} 3 ∧
      (delayFor {} 3).toNat ≤ 2 * (delayFor {} 2).toNat ∧
        (delayFor {} 40).toNat = 5000 := by
  obtain ⟨-, -, hmono, hnext, hunlimited, hfirst⟩ := delays_double_up_to_cap {}
  have hlast := hunlimited.2 (.inr (by decide)) 40 (by decide)
  refine ⟨hfirst rfl, hmono 2 3 (by decide), hnext 2 3 rfl, ?_⟩
  rw [hlast]
  decide

end Backoff

end AccessPolicy
