import LicenseGate.Proofs.SampleLimit

/-!
The number that a sample stands for. Signed magnitudes are ordered as the numbers are, so what is
said of bits is said of loudness.
-/

namespace LicenseGate.Sample

/-- The number of steps of `2 ^ -149` in a magnitude; the leading bit is implied in all but the
smallest. Infinity stands where the next number would. -/
def steps (magnitude : Nat) : Nat :=
  if magnitude / fractionSize = 0 then magnitude
  else (fractionSize + magnitude % fractionSize) * 2 ^ (magnitude / fractionSize - 1)

def value (sample : Sample) : ℚ :=
  (if sample.isNegative then -1 else 1) * (steps sample.magnitude / 2 ^ 149)

theorem steps_small (magnitude : Nat) (small : magnitude / fractionSize = 0) :
    steps magnitude = magnitude := if_pos small

theorem steps_large (magnitude : Nat) (large : magnitude / fractionSize ≠ 0) :
    steps magnitude =
      (fractionSize + magnitude % fractionSize) * 2 ^ (magnitude / fractionSize - 1) := if_neg large

theorem steps_lt_next (magnitude : Nat) :
    steps magnitude < fractionSize * 2 ^ (magnitude / fractionSize) := by
  have fraction : magnitude % fractionSize < fractionSize := Nat.mod_lt _ (by decide)
  by_cases small : magnitude / fractionSize = 0
  · rw [steps_small magnitude small, small, Nat.pow_zero, Nat.mul_one]
    rwa [Nat.div_eq_zero_iff_lt (by decide)] at small
  · obtain ⟨field, same⟩ := Nat.exists_eq_succ_of_ne_zero small
    rw [steps_large magnitude small, same, Nat.succ_sub_one, Nat.pow_succ, Nat.mul_comm (2 ^ field),
      ← Nat.mul_assoc]
    exact Nat.mul_lt_mul_of_pos_right (by omega) (Nat.pow_pos (by decide))

theorem le_steps (magnitude : Nat) (large : magnitude / fractionSize ≠ 0) :
    fractionSize * 2 ^ (magnitude / fractionSize - 1) ≤ steps magnitude := by
  rw [steps_large magnitude large]
  exact Nat.mul_le_mul_right _ (Nat.le_add_right _ _)

/-- Above a change of the exponent the steps are longer, and within one exponent the fraction
counts them. -/
theorem steps_strict_mono : StrictMono steps := by
  intro less more below
  have order : less / fractionSize ≤ more / fractionSize := Nat.div_le_div_right (Nat.le_of_lt below)
  rcases Nat.lt_or_eq_of_le order with apart | same
  · calc steps less
        < fractionSize * 2 ^ (less / fractionSize) := steps_lt_next less
      _ ≤ fractionSize * 2 ^ (more / fractionSize - 1) :=
          Nat.mul_le_mul_left _ (Nat.pow_le_pow_right (by decide) (by omega))
      _ ≤ steps more := le_steps more (Nat.ne_zero_of_lt apart)
  by_cases small : less / fractionSize = 0
  · rwa [steps_small less small, steps_small more (same ▸ small)]
  · have fractions : less % fractionSize < more % fractionSize := by
      have lessParts := Nat.div_add_mod less fractionSize
      have moreParts := Nat.div_add_mod more fractionSize
      rw [same] at lessParts
      omega
    rw [steps_large less small, steps_large more (same ▸ small), same]
    exact Nat.mul_lt_mul_of_pos_right (by omega) (Nat.pow_pos (by decide))

theorem steps_le_iff (first second : Nat) : steps first ≤ steps second ↔ first ≤ second :=
  steps_strict_mono.le_iff_le

theorem steps_eq_zero_iff (magnitude : Nat) : steps magnitude = 0 ↔ magnitude = 0 := by
  have silent : steps 0 = 0 := rfl
  rw [← silent]
  exact steps_strict_mono.injective.eq_iff

theorem value_signed (sample : Sample) :
    sample.value =
      ((if sample.isNegative then -(steps sample.magnitude : Int) else steps sample.magnitude :
        Int) : ℚ) / 2 ^ 149 := by
  rw [value]
  split <;> push_cast <;> ring

theorem value_le_iff (first second : Sample) :
    first.value ≤ second.value ↔ first.level ≤ second.level := by
  have forward := steps_le_iff first.magnitude second.magnitude
  have backward := steps_le_iff second.magnitude first.magnitude
  have firstSilent := steps_eq_zero_iff first.magnitude
  have secondSilent := steps_eq_zero_iff second.magnitude
  rw [value_signed, value_signed, div_le_div_iff_of_pos_right (by positivity), Int.cast_le]
  simp only [level]
  cases first.isNegative <;> cases second.isNegative <;>
    simp only [Bool.false_eq_true, ↓reduceIte] <;> omega

theorem abs_value (sample : Sample) : |sample.value| = steps sample.magnitude / 2 ^ 149 := by
  have size : (0 : ℚ) ≤ steps sample.magnitude / 2 ^ 149 := by positivity
  rw [value]
  split
  next => rw [neg_one_mul, abs_neg, abs_of_nonneg size]
  next => rw [one_mul, abs_of_nonneg size]

theorem abs_value_le_iff (first second : Sample) :
    |first.value| ≤ |second.value| ↔ first.magnitude ≤ second.magnitude := by
  rw [abs_value, abs_value, div_le_div_iff_of_pos_right (by positivity), Nat.cast_le, steps_le_iff]

/-- How loud a sample is. What is no number is louder than any number. -/
def loudness (sample : Sample) : WithTop ℚ := if sample.isNaN then ⊤ else (|sample.value| : ℚ)

theorem loudness_le (first second : Sample) (below : first.magnitude ≤ second.magnitude) :
    first.loudness ≤ second.loudness := by
  cases noise : second.isNaN with
  | true =>
      rw [loudness, loudness, if_pos noise]
      exact le_top
  | false =>
      have number : first.isNaN = false := by
        simp only [isNaN, decide_eq_false_iff_not] at noise ⊢
        omega
      rw [loudness, loudness, if_neg (by simp [number]), if_neg (by simp [noise]),
        WithTop.coe_le_coe]
      exact (abs_value_le_iff first second).mpr below

end LicenseGate.Sample
