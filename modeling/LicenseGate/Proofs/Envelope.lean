import LicenseGate.Gate.Timing
import LicenseGate.Proofs.Rounding

/-!
The envelope at every position and for every timing: it never rises above one, and it is shut past
the grace period and the ramp. Both hold of the rounded envelope, not only of the exact one.
-/

namespace LicenseGate

open Numeric

theorem gain_mantissa_lt (units : Nat) :
    (if units.log2 ≤ 23 then units <<< (23 - units.log2) else units >>> (units.log2 - 23)) <
      2 ^ 24 := by
  have above : units < 2 ^ (units.log2 + 1) := Nat.lt_log2_self
  split
  next few =>
    have whole : (2 : Nat) ^ 24 = 2 ^ (units.log2 + 1) * 2 ^ (23 - units.log2) := by
      rw [← Nat.pow_add]
      congr 1
      omega
    rw [Nat.shiftLeft_eq, whole]
    exact Nat.mul_lt_mul_of_pos_right above (Nat.pow_pos (by decide))
  next many =>
    have whole : (2 : Nat) ^ (units.log2 + 1) = 2 ^ 24 * 2 ^ (units.log2 - 23) := by
      rw [← Nat.pow_add]
      congr 1
      omega
    rw [Nat.shiftRight_eq_div_pow]
    rw [whole] at above
    exact Nat.div_lt_of_lt_mul (by rwa [Nat.mul_comm])

theorem gain_sample_le (units : Nat) (below : units ≤ 2 ^ gainShift) :
    (gainSample units).bits.toNat ≤ Sample.one.bits.toNat := by
  simp only [gainSample]
  split
  next => decide
  next present =>
    have least := Nat.log2_self_le present
    have mantissa := gain_mantissa_lt units
    simp only [Sample.one, UInt32.toNat_ofNat', Nat.shiftLeft_eq (_ + 126 - _)]
    rcases Nat.lt_or_eq_of_le (log2_le units gainShift below) with short | full
    -- Below the full size the exponent is below that of one, whatever the mantissa holds.
    · simp only [gainShift] at short ⊢
      refine Nat.le_trans (Nat.mod_le _ _) ?_
      change _ ≤ 1065353216
      omega
    · have whole : units = 2 ^ gainShift := by
        rw [full] at least
        exact Nat.le_antisymm below least
      rw [whole]
      decide

theorem ramp_units_le (step length : Nat) : rampUnits step length ≤ 2 ^ gainShift := by
  simp only [rampUnits, Nat.one_shiftLeft]
  exact significant_le_two_pow 24 _ gainShift (by decide) (Nat.sub_le _ _)

namespace GateTiming

/-- The bits of the envelope are those of a number from zero to one: the sign is never set. -/
theorem gain_at_le_one (timing : GateTiming) (position : UInt32) :
    (timing.gainAt position).bits.toNat ≤ Sample.one.bits.toNat := by
  simp only [gainAt]
  split
  next => exact Nat.le_refl _
  split
  next => decide
  next => exact gain_sample_le _ (ramp_units_le _ _)

theorem gain_at_silent (timing : GateTiming) (position : UInt32)
    (past : timing.grace.toNat + timing.fade.toNat ≤ position.toNat) :
    timing.gainAt position = Sample.zero := by
  have begun : ¬ position < timing.grace := by
    rw [UInt32.lt_iff_toNat_lt]
    omega
  have done : timing.fade.toNat ≤ position.toNat - timing.grace.toNat := by omega
  simp [gainAt, begun, done]

end GateTiming

end LicenseGate
