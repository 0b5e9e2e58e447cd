import AccessPolicy.Authority
import AccessPolicy.Proofs.Text.Hex
import Mathlib.Logic.Function.Basic

/-!
# Versions of stored policies

An authority tells versions of a policy apart by their etags.  An etag spells
the version counter in full, so it is repeated only when the counter has come
full circle.  A policy that was fetched some writes ago can therefore be
recognised: its etag is the current one exactly if the number of these writes is
a multiple of `2 ^ 64`, and with fewer writes only if there were none.
-/

namespace AccessPolicy

namespace Stored

theorem etagOf_injective : Function.Injective etagOf := by
  intro first second heq
  have hdigits : Text.hexDigits 16 first.toNat =
      Text.hexDigits 16 second.toNat :=
    String.ofList_injective (congrArg Etag.token heq)
  exact UInt64.toNat_inj.1
    (Text.hexDigits_injOn first.toNat_lt second.toNat_lt hdigits)

/-- A policy as it was shown when the given number of writes had not
been accepted yet. -/
structure Shown (stored : Stored) (policy : Policy) (writes : Nat) : Prop where
  etag : ∃ version,
    policy.etag = etagOf version ∧
      stored.version = version + UInt64.ofNat writes
  bindings : writes = 0 → policy.bindings = stored.bindings

theorem shown_policy (stored : Stored) : stored.Shown stored.policy 0 where
  etag := ⟨stored.version, rfl, (UInt64.add_zero _).symm⟩
  bindings := fun _ => rfl

variable {stored : Stored} {policy : Policy} {writes : Nat}

/-- Every write makes a policy that was shown before it one write older. -/
theorem Shown.write (hshown : stored.Shown policy writes)
    (bindings : List Binding) :
    (stored.write bindings).Shown policy (writes + 1) where
  etag := by
    obtain ⟨version, hetag, hversion⟩ := hshown.etag
    refine ⟨version, hetag, ?_⟩
    show stored.version + 1 = version + UInt64.ofNat (writes + 1)
    rw [hversion, UInt64.ofNat_add, UInt64.add_assoc]
    rfl
  bindings := fun hzero => absurd hzero (Nat.succ_ne_zero writes)

/-- The etag of an older policy is current again only when the counter
came full circle. -/
theorem Shown.etag_eq_iff (hshown : stored.Shown policy writes) :
    policy.etag = stored.etag ↔ 2 ^ 64 ∣ writes := by
  obtain ⟨version, hetag, hversion⟩ := hshown.etag
  have hsame : policy.etag = stored.etag ↔
      version = version + UInt64.ofNat writes := by
    rw [hetag, Stored.etag, hversion]
    exact etagOf_injective.eq_iff
  rw [hsame, eq_comm, UInt64.add_eq_left, ← UInt64.toNat_inj,
    UInt64.toNat_ofNat']
  exact Nat.dvd_iff_mod_eq_zero.symm

/-- With fewer writes than the counter has values, the current etag proves
that there were none. -/
theorem Shown.eq_policy (hshown : stored.Shown policy writes)
    (hwrites : writes < 2 ^ 64) (hetag : policy.etag = stored.etag) :
    policy = stored.policy := by
  have hzero : writes = 0 :=
    Nat.eq_zero_of_dvd_of_lt (hshown.etag_eq_iff.1 hetag) hwrites
  have hbindings := hshown.bindings hzero
  cases policy
  simp only at hetag hbindings
  rw [hetag, hbindings]
  rfl

end Stored

end AccessPolicy
