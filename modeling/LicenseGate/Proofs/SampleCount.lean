import LicenseGate.Gate.Timing
import LicenseGate.Proofs.Rounding

/-!
How many samples a time comes to, against the number that a rate stands for. The product with the
rate and its thousandth are rounded, but neither rounding passes a bound that has few enough bits to
be a double itself, and such bounds stand closer together than the counts that a word can hold.
-/

namespace LicenseGate

namespace Numeric.Binary64

def value (x : Binary64) : ℚ := (if x.isNegative then -1 else 1) * x.mantissa * 2 ^ x.exponent

theorem value_positive_iff (x : Binary64) :
    0 < x.value ↔ x.isNegative = false ∧ x.mantissa ≠ 0 := by
  have scale : (0 : ℚ) < 2 ^ x.exponent := by positivity
  have size : (0 : ℚ) ≤ x.mantissa := Nat.cast_nonneg _
  rw [value, mul_pos_iff_of_pos_right scale]
  cases x.isNegative with
  | true =>
      constructor
      · intro positive
        simp only [↓reduceIte, neg_mul, one_mul, Left.neg_pos_iff] at positive
        exact absurd positive (not_lt.mpr size)
      · exact fun ⟨signed, _⟩ => absurd signed nofun
  | false =>
      simp only [Bool.false_eq_true, ↓reduceIte, one_mul, Nat.cast_pos, true_and]
      exact Nat.pos_iff_ne_zero

theorem value_of_positive (x : Binary64) (positive : 0 < x.value) :
    x.value = x.mantissa * 2 ^ x.exponent := by
  rw [value, ((value_positive_iff x).mp positive).1]
  simp

/-- A double below `2 ^ 52` is a fraction of a power of two. -/
theorem mantissa_le (x : Binary64) (bound : Nat) (small : bound < fractionSize)
    (positive : 0 < x.value) (below : x.value ≤ bound) :
    ∃ shift : Nat, x.exponent = -(shift : Int) ∧ x.mantissa ≤ bound * 2 ^ shift := by
  rw [value_of_positive x positive] at below
  rcases Int.le_total x.exponent 0 with fraction | whole
  · obtain ⟨shift, same⟩ := Int.eq_ofNat_of_zero_le (Int.neg_nonneg_of_nonpos fraction)
    have negated : x.exponent = -(shift : Int) := by omega
    refine ⟨shift, negated, ?_⟩
    rw [negated, zpow_neg, zpow_natCast, ← div_eq_mul_inv, div_le_iff₀ (by positivity)] at below
    exact_mod_cast below
  -- The leading bit alone would pass the bound.
  · have large : fractionSize ≤ x.mantissa := by
      simp only [exponent] at whole
      have normal : x.exponentField ≠ 0 := by omega
      simp only [mantissa, if_neg normal]
      omega
    have least : (x.mantissa : ℚ) ≤ x.mantissa * 2 ^ x.exponent :=
      le_mul_of_one_le_right (Nat.cast_nonneg _) (one_le_zpow₀ (by norm_num) whole)
    have passed : x.mantissa ≤ bound := by exact_mod_cast least.trans below
    omega

end Numeric.Binary64

open Numeric

theorem usable_rate_iff (rate : Binary64) :
    isUsableRate rate = true ↔ rate.isFinite = true ∧ 0 < rate.value := by
  rw [Binary64.value_positive_iff]
  simp [isUsableRate, and_assoc]

theorem of_millis_usable (graceMillis fadeMillis : UInt32) (rate : Binary64)
    (usable : isUsableRate rate = true) :
    GateTiming.ofMillis graceMillis fadeMillis rate =
      .ok ⟨samplesIn graceMillis rate, samplesIn fadeMillis rate⟩ := if_pos usable

def sampleCount (millis mantissa : Nat) (exponent : Int) : Nat :=
  scaleHalfUp (significant 53 (significant 53 (millis * mantissa) 1 <<< 64) 1000) (exponent - 64)

theorem samples_in_count (millis : UInt32) (rate : Binary64) :
    samplesIn millis rate = saturate (sampleCount millis.toNat rate.mantissa rate.exponent) := rfl

theorem sample_count_mono (millis longer mantissa larger : Nat) (exponent : Int)
    (time : millis ≤ longer) (rate : mantissa ≤ larger) :
    sampleCount millis mantissa exponent ≤ sampleCount longer larger exponent := by
  have product : significant 53 (millis * mantissa) 1 ≤ significant 53 (longer * larger) 1 := by
    apply significant_mono 53 _ 1 _ 1 (by decide) Nat.one_pos Nat.one_pos
    rw [Nat.mul_one, Nat.mul_one]
    exact Nat.mul_le_mul time rate
  apply scale_half_up_mono
  apply significant_mono 53 _ 1000 _ 1000 (by decide) (by decide) (by decide)
  rw [Nat.shiftLeft_eq, Nat.shiftLeft_eq]
  exact Nat.mul_le_mul_right _ (Nat.mul_le_mul_right _ product)

/-- Up to a remainder of 499 thousandths the count is not raised: between there and the half lies a
number with ten bits past the point, and rounding does not pass it. -/
theorem sample_count_le (millis whole shift count : Nat) (counted : count ≤ lastPosition)
    (below : millis * whole ≤ 1000 * count + 499) :
    sampleCount millis (whole * 2 ^ shift) (-(shift : Int)) ≤ count := by
  simp only [lastPosition] at counted
  have product : significant 53 (millis * (whole * 2 ^ shift)) 1 ≤
      (1000 * count + 499) * 2 ^ shift := by
    apply significant_le 53 _ 1 _ shift (by decide) Nat.one_pos (by omega)
    rw [Nat.mul_one, ← Nat.mul_assoc]
    exact Nat.mul_le_mul_right _ below
  have thousandth :
      significant 53 (significant 53 (millis * (whole * 2 ^ shift)) 1 <<< 64) 1000 ≤
        (1024 * count + 511) * 2 ^ (shift + 54) := by
    apply significant_le 53 _ 1000 _ _ (by decide) (by decide) (by omega)
    rw [Nat.shiftLeft_eq]
    calc significant 53 (millis * (whole * 2 ^ shift)) 1 * 2 ^ 64
        ≤ (1000 * count + 499) * 2 ^ shift * 2 ^ 64 := Nat.mul_le_mul_right _ product
      _ = (1000 * count + 499) * 1024 * 2 ^ (shift + 54) := by ring
      _ ≤ (1024 * count + 511) * 1000 * 2 ^ (shift + 54) := Nat.mul_le_mul_right _ (by omega)
      _ = (1024 * count + 511) * 2 ^ (shift + 54) * 1000 := by ring
  have units : -(shift : Int) - 64 = -((shift + 63 + 1 : Nat) : Int) := by omega
  by_contra passed
  rw [sampleCount, units, not_le] at passed
  have reached := (le_scale_half_up_iff _ _ _).mp (Nat.succ_le_of_lt passed)
  generalize significant 53 (significant 53 (millis * (whole * 2 ^ shift)) 1 <<< 64) 1000 = rounded
    at thousandth reached
  have whole : (count + 1) * 2 ^ (shift + 63 + 1) = (1024 * count + 1024) * 2 ^ (shift + 54) := by
    ring
  have half : 2 ^ (shift + 63) = 512 * 2 ^ (shift + 54) := by ring
  have unit : 0 < 2 ^ (shift + 54) := Nat.pow_pos (by decide)
  rw [Nat.succ_eq_add_one, whole, half] at reached
  have short :=
    calc (1024 * count + 1024) * 2 ^ (shift + 54)
        ≤ rounded + 512 * 2 ^ (shift + 54) := reached
      _ ≤ (1024 * count + 511) * 2 ^ (shift + 54) + 512 * 2 ^ (shift + 54) :=
          Nat.add_le_add_right thousandth _
      _ = (1024 * count + 1023) * 2 ^ (shift + 54) := by ring
  have least := Nat.le_of_mul_le_mul_right short unit
  omega

/-- From half a sample on the count is raised: the half is a number that both steps keep. -/
theorem le_sample_count (millis whole shift count : Nat) (counted : count ≤ lastPosition)
    (above : 1000 * count ≤ millis * whole + 500) :
    count ≤ sampleCount millis (whole * 2 ^ shift) (-(shift : Int)) := by
  simp only [lastPosition] at counted
  cases count with
  | zero => exact Nat.zero_le _
  | succ count =>
      have product : (2 * count + 1) * 500 * 2 ^ shift ≤
          significant 53 (millis * (whole * 2 ^ shift)) 1 := by
        apply le_significant 53 _ 1 _ shift (by decide) Nat.one_pos (by omega)
        rw [Nat.mul_one, ← Nat.mul_assoc]
        exact Nat.mul_le_mul_right _ (by omega)
      have thousandth : (2 * count + 1) * 2 ^ (shift + 63) ≤
          significant 53 (significant 53 (millis * (whole * 2 ^ shift)) 1 <<< 64) 1000 := by
        apply le_significant 53 _ 1000 _ _ (by decide) (by decide) (by omega)
        rw [Nat.shiftLeft_eq]
        calc (2 * count + 1) * 2 ^ (shift + 63) * 1000
            = (2 * count + 1) * 500 * 2 ^ shift * 2 ^ 64 := by ring
          _ ≤ significant 53 (millis * (whole * 2 ^ shift)) 1 * 2 ^ 64 :=
              Nat.mul_le_mul_right _ product
      have units : -(shift : Int) - 64 = -((shift + 63 + 1 : Nat) : Int) := by omega
      rw [sampleCount, units, le_scale_half_up_iff]
      have whole : (count + 1) * 2 ^ (shift + 63 + 1) =
          (2 * count + 1) * 2 ^ (shift + 63) + 2 ^ (shift + 63) := by ring
      rw [whole]
      exact Nat.add_le_add_right thousandth _

theorem sample_count_exact (millis whole shift : Nat) :
    saturate (sampleCount millis (whole * 2 ^ shift) (-(shift : Int))) =
      saturate ((millis * whole + 500) / 1000) := by
  have parts := Nat.div_add_mod (millis * whole + 500) 1000
  have rest := Nat.mod_lt (millis * whole + 500) (by decide : 0 < 1000)
  apply UInt32.toNat_inj.mp
  rw [toNat_saturate, toNat_saturate]
  rcases Nat.le_total ((millis * whole + 500) / 1000) lastPosition with fits | past
  · have same : sampleCount millis (whole * 2 ^ shift) (-(shift : Int)) =
        (millis * whole + 500) / 1000 :=
      Nat.le_antisymm (sample_count_le millis whole shift _ fits (by omega))
        (le_sample_count millis whole shift _ fits (by omega))
    rw [same]
  · have reached := le_sample_count millis whole shift lastPosition (Nat.le_refl _) (by omega)
    rw [Nat.min_eq_right reached, Nat.min_eq_right past]

theorem samples_in_le (millis : UInt32) (rate : Binary64) (perMilli : Nat)
    (small : perMilli * 1000 < Binary64.fractionSize) (positive : 0 < rate.value)
    (below : rate.value ≤ perMilli * 1000) :
    (samplesIn millis rate).toNat ≤ millis.toNat * perMilli := by
  rcases Nat.le_total (millis.toNat * perMilli) lastPosition with counted | past
  · obtain ⟨shift, scale, mantissa⟩ :=
      rate.mantissa_le (perMilli * 1000) small positive (by exact_mod_cast below)
    have whole : millis.toNat * (perMilli * 1000) ≤ 1000 * (millis.toNat * perMilli) + 499 := by
      rw [← Nat.mul_assoc]
      omega
    rw [samples_in_count, toNat_saturate, scale]
    calc min (sampleCount millis.toNat rate.mantissa (-(shift : Int))) lastPosition
        ≤ sampleCount millis.toNat rate.mantissa (-(shift : Int)) := Nat.min_le_left _ _
      _ ≤ sampleCount millis.toNat (perMilli * 1000 * 2 ^ shift) (-(shift : Int)) :=
          sample_count_mono _ _ _ _ _ (Nat.le_refl _) mantissa
      _ ≤ millis.toNat * perMilli := sample_count_le _ _ shift _ counted whole
  · exact Nat.le_trans (word_counted _) past

theorem samples_in_default (millis : UInt32) :
    samplesIn millis GateTiming.defaultRate = saturate (millis.toNat * 48) := by
  have mantissa : GateTiming.defaultRate.mantissa = 48000 * 2 ^ 37 := by decide
  have exponent : GateTiming.defaultRate.exponent = -((37 : Nat) : Int) := by decide
  have whole : (millis.toNat * 48000 + 500) / 1000 = millis.toNat * 48 := by omega
  rw [samples_in_count, mantissa, exponent, sample_count_exact, whole]

end LicenseGate
