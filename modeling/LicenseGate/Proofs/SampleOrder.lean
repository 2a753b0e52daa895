import LicenseGate.Proofs.SampleCount

/-!
The order of sample counts: a longer time and a higher rate never come to fewer samples. The count
follows from the number that a rate stands for, whatever the exponent it is written with.
-/

namespace LicenseGate

open Numeric

theorem sample_count_none (mantissa : Nat) (exponent : Int) :
    sampleCount 0 mantissa exponent = 0 := by
  have product : significant 53 0 1 = 0 := by decide
  have thousandth : significant 53 (0 <<< 64) 1000 = 0 := by decide
  rw [sampleCount, Nat.zero_mul, product, thousandth, scale_half_up_zero]

/-- A mantissa that fills its bits may be doubled in place of raising the exponent. -/
theorem sample_count_double (millis mantissa : Nat) (exponent : Int)
    (filled : 2 ^ 52 ≤ mantissa) :
    sampleCount millis (2 * mantissa) exponent = sampleCount millis mantissa (exponent + 1) := by
  rcases Nat.eq_zero_or_pos millis with none | present
  · rw [none, sample_count_none, sample_count_none]
  have wide : 2 ^ 52 ≤ millis * mantissa :=
    Nat.le_trans filled (Nat.le_mul_of_pos_left _ present)
  have product : significant 53 (millis * (2 * mantissa)) 1 =
      2 * significant 53 (millis * mantissa) 1 := by
    rw [Nat.mul_left_comm]
    exact significant_double 53 _ 1 (by decide) Nat.one_pos (by rwa [Nat.div_one])
  have least : 1 * 2 ^ 52 ≤ significant 53 (millis * mantissa) 1 :=
    le_significant 53 _ 1 1 52 (by decide) Nat.one_pos (by decide) (by omega)
  have thousandth : significant 53 ((2 * significant 53 (millis * mantissa) 1) <<< 64) 1000 =
      2 * significant 53 (significant 53 (millis * mantissa) 1 <<< 64) 1000 := by
    rw [Nat.shiftLeft_eq, Nat.shiftLeft_eq, Nat.mul_assoc]
    apply significant_double 53 _ 1000 (by decide) (by decide)
    rw [Nat.le_div_iff_mul_le (by decide)]
    omega
  have scale : exponent - 64 + 1 = exponent + 1 - 64 := by omega
  rw [sampleCount, product, thousandth, scale_half_up_double, scale, sampleCount]

theorem sample_count_rescaled (millis mantissa shift : Nat) (exponent : Int)
    (filled : 2 ^ 52 ≤ mantissa) :
    sampleCount millis (mantissa * 2 ^ shift) exponent =
      sampleCount millis mantissa (exponent + shift) := by
  induction shift generalizing exponent with
  | zero => rw [Nat.pow_zero, Nat.mul_one, Int.ofNat_zero, Int.add_zero]
  | succ shift ih =>
      have wide : 2 ^ 52 ≤ mantissa * 2 ^ shift :=
        Nat.le_trans filled (Nat.le_mul_of_pos_right _ (Nat.pow_pos (by decide)))
      have double : mantissa * 2 ^ (shift + 1) = 2 * (mantissa * 2 ^ shift) := by
        rw [Nat.pow_succ]
        ring
      have scale : exponent + 1 + (shift : Int) = exponent + ((shift + 1 : Nat) : Int) := by
        push_cast
        ring
      rw [double, sample_count_double millis _ exponent wide, ih, scale]

namespace Numeric.Binary64

theorem mantissa_lt (x : Binary64) : x.mantissa < 2 ^ 53 := by
  have fraction : x.fraction < fractionSize := Nat.mod_lt _ (by decide)
  simp only [fractionSize] at fraction
  simp only [mantissa, fractionSize]
  split <;> omega

theorem least_exponent (x : Binary64) : -1074 ≤ x.exponent := by
  simp only [exponent]
  omega

theorem mantissa_filled (x : Binary64) (above : -1074 < x.exponent) : 2 ^ 52 ≤ x.mantissa := by
  simp only [exponent] at above
  have normal : x.exponentField ≠ 0 := by omega
  rw [mantissa, if_neg normal]
  exact Nat.le_add_right _ _

theorem scaled_raise (mantissa shift : Nat) (exponent : Int) :
    (mantissa : ℚ) * 2 ^ (exponent + shift) =
      ((mantissa * 2 ^ shift : Nat) : ℚ) * 2 ^ exponent := by
  rw [zpow_add₀ (by norm_num), zpow_natCast]
  push_cast
  ring

/-- Of two positive numbers the greater has the greater exponent, or the same and no smaller
mantissa. -/
theorem value_le_cases (x y : Binary64) (positive : 0 < x.value) (order : x.value ≤ y.value) :
    ∃ shift : Nat, y.exponent = x.exponent + shift ∧ x.mantissa ≤ y.mantissa * 2 ^ shift ∧
      (shift = 0 ∨ 2 ^ 52 ≤ y.mantissa) := by
  have later := positive.trans_le order
  rw [value_of_positive x positive, value_of_positive y later] at order
  rcases Int.le_total x.exponent y.exponent with up | down
  · obtain ⟨shift, apart⟩ := Int.eq_ofNat_of_zero_le (Int.sub_nonneg_of_le up)
    have scale : y.exponent = x.exponent + shift := by omega
    refine ⟨shift, scale, ?_, ?_⟩
    · rwa [scale, scaled_raise, mul_le_mul_iff_of_pos_right (by positivity), Nat.cast_le] at order
    · rcases Nat.eq_zero_or_pos shift with zero | raised
      · exact .inl zero
      · have least := x.least_exponent
        exact .inr (y.mantissa_filled (by omega))
  · obtain ⟨shift, apart⟩ := Int.eq_ofNat_of_zero_le (Int.sub_nonneg_of_le down)
    have scale : x.exponent = y.exponent + shift := by omega
    rw [scale, scaled_raise, mul_le_mul_iff_of_pos_right (by positivity), Nat.cast_le] at order
    rcases Nat.eq_zero_or_pos shift with zero | raised
    · subst zero
      exact ⟨0, by omega, by simpa using order, .inl rfl⟩
    -- The leading bit of the first, raised once, is out of reach for the second.
    · have least := y.least_exponent
      have filled := x.mantissa_filled (by omega)
      have high : 2 ^ 53 ≤ x.mantissa * 2 ^ shift :=
        calc 2 ^ 53 = 2 ^ 52 * 2 ^ 1 := by norm_num
          _ ≤ x.mantissa * 2 ^ shift :=
            Nat.mul_le_mul filled (Nat.pow_le_pow_right (by decide) raised)
      have bounded := y.mantissa_lt
      omega

end Numeric.Binary64

theorem samples_in_longer (millis longer : UInt32) (rate : Binary64) (order : millis ≤ longer) :
    samplesIn millis rate ≤ samplesIn longer rate :=
  saturate_mono _ _ (sample_count_mono _ _ _ _ _ (UInt32.le_iff_toNat_le.mp order) (Nat.le_refl _))

theorem samples_in_faster (millis : UInt32) (rate faster : Binary64) (positive : 0 < rate.value)
    (order : rate.value ≤ faster.value) : samplesIn millis rate ≤ samplesIn millis faster := by
  obtain ⟨shift, scale, below, filled⟩ := rate.value_le_cases faster positive order
  apply saturate_mono
  have rescaled : sampleCount millis.toNat (faster.mantissa * 2 ^ shift) rate.exponent =
      sampleCount millis.toNat faster.mantissa faster.exponent := by
    rcases filled with zero | filled
    · rw [scale, zero, Nat.pow_zero, Nat.mul_one, Int.ofNat_zero, Int.add_zero]
    · rw [scale, sample_count_rescaled _ _ _ _ filled]
  calc sampleCount millis.toNat rate.mantissa rate.exponent
      ≤ sampleCount millis.toNat (faster.mantissa * 2 ^ shift) rate.exponent :=
        sample_count_mono _ _ _ _ _ (Nat.le_refl _) below
    _ = sampleCount millis.toNat faster.mantissa faster.exponent := rescaled

end LicenseGate
