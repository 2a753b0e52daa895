import LicenseGate.Proofs.SampleOrder

/-!
Times at a whole number of samples a second, however large: what comes out of two rounded steps is
the exact product rounded once, to the nearest thousand and halves upward.
-/

namespace LicenseGate

open Numeric

theorem whole_rate_count (rate : Binary64) (whole : Nat) (positive : 0 < whole)
    (exact : rate.value = whole) :
    ∃ shift : Nat, ∀ millis, sampleCount millis rate.mantissa rate.exponent =
      sampleCount millis (whole * 2 ^ shift) (-(shift : Int)) := by
  have above : 0 < rate.value := by
    rw [exact]
    exact_mod_cast positive
  rw [Binary64.value_of_positive rate above] at exact
  rcases Int.le_total rate.exponent 0 with fraction | scaled
  · obtain ⟨shift, same⟩ := Int.eq_ofNat_of_zero_le (Int.neg_nonneg_of_nonpos fraction)
    have negated : rate.exponent = -(shift : Int) := by omega
    rw [negated, zpow_neg, zpow_natCast, ← div_eq_mul_inv, div_eq_iff (by positivity)] at exact
    have mantissa : rate.mantissa = whole * 2 ^ shift := by exact_mod_cast exact
    exact ⟨shift, fun millis => by rw [negated, mantissa]⟩
  · obtain ⟨shift, same⟩ := Int.eq_ofNat_of_zero_le scaled
    rw [same, zpow_natCast] at exact
    have product : rate.mantissa * 2 ^ shift = whole := by exact_mod_cast exact
    refine ⟨0, fun millis => ?_⟩
    have rescaled := sample_count_rescaled millis rate.mantissa shift 0
      (rate.mantissa_filled (by omega))
    rw [same, Nat.pow_zero, Nat.mul_one, Int.ofNat_zero, Int.neg_zero, ← product, rescaled,
      Int.zero_add]

/-- At a whole rate a time comes to its exact number of samples, rounded to the nearest whole one
with halves upward and held at the last position, though the product and its thousandth are rounded
on the way. -/
theorem whole_rate_exact (graceMillis fadeMillis : UInt32) (rate : Binary64) (whole : Nat)
    (finite : rate.isFinite = true) (positive : 0 < whole) (exact : rate.value = whole) :
    ∃ timing, GateTiming.ofMillis graceMillis fadeMillis rate = .ok timing ∧
      timing.grace.toNat = min ((graceMillis.toNat * whole + 500) / 1000) lastPosition ∧
      timing.fade.toNat = min ((fadeMillis.toNat * whole + 500) / 1000) lastPosition := by
  have above : 0 < rate.value := by
    rw [exact]
    exact_mod_cast positive
  obtain ⟨shift, count⟩ := whole_rate_count rate whole positive exact
  have counted (millis : UInt32) :
      (samplesIn millis rate).toNat = min ((millis.toNat * whole + 500) / 1000) lastPosition := by
    rw [samples_in_count, count, sample_count_exact, toNat_saturate]
  exact ⟨_, of_millis_usable graceMillis fadeMillis rate ((usable_rate_iff rate).mpr ⟨finite, above⟩),
    counted graceMillis, counted fadeMillis⟩

theorem whole_rate_exact_half :
    (⟨0x40e5888000000000⟩ : Binary64).isFinite = true ∧
      (⟨0x40e5888000000000⟩ : Binary64).value = (44100 : Nat) ∧
      ∃ timing, GateTiming.ofMillis 5 4294967295 ⟨0x40e5888000000000⟩ = .ok timing ∧
        timing.grace.toNat = 221 ∧ timing.fade.toNat = lastPosition := by
  have finite : (⟨0x40e5888000000000⟩ : Binary64).isFinite = true := by decide
  have positive : 0 < (⟨0x40e5888000000000⟩ : Binary64).value :=
    (Binary64.value_positive_iff _).mpr (by decide)
  have whole : (⟨0x40e5888000000000⟩ : Binary64).value = (44100 : Nat) := by
    have mantissa : (⟨0x40e5888000000000⟩ : Binary64).mantissa = 44100 * 2 ^ 37 := by decide
    have exponent : (⟨0x40e5888000000000⟩ : Binary64).exponent = -37 := by decide
    rw [Binary64.value_of_positive _ positive, mantissa, exponent]
    norm_num
  obtain ⟨timing, resolved, grace, fade⟩ :=
    whole_rate_exact 5 4294967295 ⟨0x40e5888000000000⟩ 44100 finite (by decide) whole
  exact ⟨finite, whole, timing, resolved, grace.trans (by decide), fade.trans (by decide)⟩

end LicenseGate
