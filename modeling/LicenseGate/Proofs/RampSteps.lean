import LicenseGate.Proofs.Leniency

/-!
The ramp from step to step. Each rounded step of the computation is off by half a unit of its last
bit at most, which is less than what one sample adds to a ramp of ordinary length, so no two
neighbours fall together.
-/

namespace LicenseGate

open Numeric

/-- Past the middle of a ramp what is left of the envelope is not rounded again. -/
theorem rest_exact (quotient : Nat) (late : 2 ^ 55 ≤ quotient) (fine : 2 ^ 32 ∣ quotient) :
    significant 24 (1 <<< gainShift - quotient) 1 = 1 <<< gainShift - quotient := by
  obtain ⟨units, rfl⟩ := fine
  have rest : 1 <<< gainShift - 2 ^ 32 * units = (2 ^ 24 - units) * 2 ^ 32 := by
    simp only [gainShift, Nat.one_shiftLeft]
    omega
  rw [rest]
  exact significant_exact 24 _ 1 (2 ^ 24 - units) 32 (by decide) Nat.one_pos (by omega) (by simp)

/-- The envelope is no further than three quarters of `2 ^ -24` from the ramp that it stands for. -/
theorem ramp_units_within (step length : Nat) (begun : 0 < step) (before : step < length)
    (short : length ≤ 2 ^ 24) :
    Within (3 * 2 ^ 30 * length) ((length - step) * 2 ^ 56) (rampUnits step length * length) := by
  have positive : 0 < length := by omega
  have remaining (quotient : Nat) :
      (2 ^ 56 - quotient) * length = 2 ^ 56 * length - quotient * length :=
    Nat.sub_mul _ _ _
  have wanted : (length - step) * 2 ^ 56 = 2 ^ 56 * length - step * 2 ^ 56 := by
    rw [Nat.sub_mul, Nat.mul_comm length]
  rw [rampUnits, significant_short 24 step (by decide) (by omega),
    significant_short 24 length (by decide) short, Nat.shiftLeft_eq step, gainShift,
    Nat.one_shiftLeft, wanted]
  rcases Nat.lt_or_ge (2 * step) length with early | late
  -- In the first half the quotient has a bit more, and the difference is rounded too.
  · obtain ⟨divideAbove, divideBelow⟩ := significant_within 24 (step * 2 ^ 56) length 31
      (by decide) positive (by omega)
    generalize significant 24 (step * 2 ^ 56) length = quotient at divideAbove divideBelow ⊢
    have present : quotient ≠ 0 := by
      rintro rfl
      omega
    obtain ⟨restAbove, restBelow⟩ := significant_within 24 (2 ^ 56 - quotient) 1 32 (by decide)
      Nat.one_pos (by omega)
    generalize significant 24 (2 ^ 56 - quotient) 1 = rest at restAbove restBelow ⊢
    have above : (2 ^ 56 - quotient) * length ≤ (rest + 2 ^ 31) * length :=
      Nat.mul_le_mul_right _ (by omega)
    have below : rest * length ≤ (2 ^ 56 - quotient + 2 ^ 31) * length :=
      Nat.mul_le_mul_right _ (by omega)
    rw [remaining, Nat.add_mul] at above
    rw [Nat.add_mul, remaining] at below
    exact ⟨by omega, by omega⟩
  · have half : 2 ^ 55 * length ≤ step * 2 ^ 56 := by omega
    have late : 2 ^ 55 ≤ significant 24 (step * 2 ^ 56) length := by
      have least := le_significant 24 (step * 2 ^ 56) length 1 55 (by decide) positive (by decide)
        (by rwa [Nat.one_mul])
      rwa [Nat.one_mul] at least
    have fine : 2 ^ 32 ∣ significant 24 (step * 2 ^ 56) length :=
      dvd_significant 24 _ _ 32 (by decide) ((Nat.le_div_iff_mul_le positive).mpr half)
    have exact := rest_exact _ late fine
    rw [gainShift, Nat.one_shiftLeft] at exact
    rw [exact, remaining]
    obtain ⟨divideAbove, divideBelow⟩ := significant_within 24 (step * 2 ^ 56) length 32
      (by decide) positive (by omega)
    exact ⟨by omega, by omega⟩

theorem ramp_units_strict (step more length : Nat) (begun : 0 < step) (steps : step < more)
    (reached : more ≤ length) (short : length ≤ 2 ^ 23) :
    rampUnits more length < rampUnits step length := by
  rcases Nat.lt_or_eq_of_le reached with ramping | last
  · have earlier := (ramp_units_within step length begun (by omega) (by omega)).above
    have later := (ramp_units_within more length (by omega) ramping (by omega)).below
    by_contra merged
    have level : rampUnits step length * length ≤ rampUnits more length * length :=
      Nat.mul_le_mul_right _ (Nat.not_lt.mp merged)
    -- Both errors together fall short of the `2 ^ 56` by which a step lowers the exact ramp.
    generalize rampUnits step length * length = high at earlier level
    generalize rampUnits more length * length = low at later level
    omega
  · rw [last, ramp_units_last length (by omega)]
    exact ramp_units_positive step length (by omega) (by omega)

theorem ramp_units_lt (step length : Nat) (begun : 0 < step) (reached : step ≤ length)
    (short : length ≤ 2 ^ 23) : rampUnits step length < 2 ^ gainShift := by
  rcases Nat.lt_or_eq_of_le reached with ramping | last
  · have near := (ramp_units_within step length begun ramping (by omega)).below
    by_contra whole
    have level : 2 ^ gainShift * length ≤ rampUnits step length * length :=
      Nat.mul_le_mul_right _ (Nat.not_lt.mp whole)
    generalize rampUnits step length * length = units at near level
    simp only [gainShift] at level
    omega
  · rw [last, ramp_units_last length (by omega)]
    decide

theorem gain_mantissa_exact (units : Nat) (fine : 2 ^ (units.log2 - 23) ∣ units) :
    gainMantissa units * 2 ^ units.log2 = units * 2 ^ 23 := by
  rw [gainMantissa]
  split
  next few =>
    rw [Nat.shiftLeft_eq, Nat.mul_assoc, ← Nat.pow_add, Nat.sub_add_cancel few]
  next many =>
    have split : 2 ^ units.log2 = 2 ^ (units.log2 - 23) * 2 ^ 23 := by
      rw [← Nat.pow_add]
      congr 1
      omega
    rw [Nat.shiftRight_eq_div_pow, split, ← Nat.mul_assoc, Nat.div_mul_cancel fine]

theorem gain_sample_value (units : Nat) (below : units ≤ 2 ^ gainShift)
    (fine : 2 ^ (units.log2 - 23) ∣ units) :
    (gainSample units).value = units / 2 ^ gainShift := by
  by_cases absent : units = 0
  · rw [absent]
    simp [gainSample, Sample.value, Sample.magnitude, Sample.zero, Sample.steps]
  have bits := gain_sample_bits units absent below
  have size := gain_sample_le units below
  obtain ⟨magnitude, sign⟩ := Sample.magnitude_positive (gainSample units)
    (Nat.lt_of_le_of_lt size (by decide))
  have least := le_gain_mantissa units absent
  have top : gainMantissa units < 2 ^ 24 := gain_mantissa_lt units
  have field : (gainSample units).bits.toNat / Sample.fractionSize = units.log2 + 71 := by
    simp only [Sample.fractionSize]
    omega
  have fraction : Sample.fractionSize + (gainSample units).bits.toNat % Sample.fractionSize =
      gainMantissa units := by
    simp only [Sample.fractionSize]
    omega
  have steps : Sample.steps (gainSample units).bits.toNat = units * 2 ^ 93 := by
    rw [Sample.steps_large _ (by omega), field, fraction]
    calc gainMantissa units * 2 ^ (units.log2 + 70)
        = gainMantissa units * 2 ^ units.log2 * 2 ^ 70 := by rw [Nat.pow_add, Nat.mul_assoc]
      _ = units * 2 ^ 93 := by rw [gain_mantissa_exact units fine, Nat.mul_assoc, ← Nat.pow_add]
  rw [Sample.value, sign, magnitude, steps, gainShift]
  push_cast
  norm_num
  ring

namespace Sample

theorem value_zero : zero.value = 0 := by
  simp [value, magnitude, zero, steps]

theorem value_one : one.value = 1 := by
  have size : one.magnitude = 127 * fractionSize := by decide
  have sign : one.isNegative = false := by decide
  rw [value, sign, size, steps_large _ (by decide)]
  norm_num [fractionSize]

end Sample

namespace GateTiming

theorem gain_value_ramp (timing : GateTiming) (position : UInt32)
    (begun : timing.grace.toNat ≤ position.toNat)
    (ramping : position.toNat < timing.grace.toNat + timing.fade.toNat) :
    (timing.gainAt position).value =
      rampUnits (position.toNat - timing.grace.toNat + 1) timing.fade.toNat / 2 ^ gainShift := by
  rw [gain_at_ramp timing position begun ramping]
  exact gain_sample_value _ (ramp_units_le _ _) (significant_fine 24 _ 1 (by decide) Nat.one_pos)

theorem gain_at_last (timing : GateTiming) (position : UInt32) (fading : 0 < timing.fade.toNat)
    (last : position.toNat + 1 = timing.grace.toNat + timing.fade.toNat) :
    timing.gainAt position = Sample.zero := by
  have steps : position.toNat - timing.grace.toNat + 1 = timing.fade.toNat := by omega
  rw [gain_at_ramp timing position (by omega) (by omega), steps, ramp_units_last _ fading]
  rfl

theorem gain_strictly_falls (timing : GateTiming) (position later : UInt32)
    (short : timing.fade.toNat ≤ 2 ^ 23) (begun : timing.grace.toNat ≤ position.toNat)
    (after : position.toNat < later.toNat)
    (ramping : later.toNat < timing.grace.toNat + timing.fade.toNat) :
    (timing.gainAt later).value < (timing.gainAt position).value := by
  have units := ramp_units_strict (position.toNat - timing.grace.toNat + 1)
    (later.toNat - timing.grace.toNat + 1) timing.fade.toNat (Nat.succ_pos _) (by omega) (by omega)
    short
  rw [gain_value_ramp timing position begun (by omega),
    gain_value_ramp timing later (by omega) ramping]
  exact div_lt_div_of_pos_right (Nat.cast_lt.mpr units) (by positivity)

theorem gain_below_one (timing : GateTiming) (position : UInt32)
    (short : timing.fade.toNat ≤ 2 ^ 23) (begun : timing.grace.toNat ≤ position.toNat) :
    (timing.gainAt position).value < 1 := by
  rcases Nat.lt_or_ge position.toNat (timing.grace.toNat + timing.fade.toNat) with ramp | past
  · have units := ramp_units_lt (position.toNat - timing.grace.toNat + 1) timing.fade.toNat
      (Nat.succ_pos _) (by omega) short
    rw [gain_value_ramp timing position begun ramp, div_lt_one (by positivity)]
    exact_mod_cast units
  · rw [gain_at_silent timing position past]
    simp [Sample.value_zero]

theorem gain_above_zero (timing : GateTiming) (position : UInt32)
    (short : timing.fade.toNat ≤ 2 ^ 23)
    (before : position.toNat + 1 < timing.grace.toNat + timing.fade.toNat) :
    0 < (timing.gainAt position).value := by
  rcases Nat.lt_or_ge position.toNat timing.grace.toNat with early | begun
  · rw [timing.gain_at_grace position early, Sample.value_one]
    exact one_pos
  · have units := ramp_units_positive (position.toNat - timing.grace.toNat + 1) timing.fade.toNat
      (by omega) (by omega)
    rw [gain_value_ramp timing position begun (by omega)]
    exact div_pos (Nat.cast_pos.mpr units) (by positivity)

theorem gain_ordered (timing : GateTiming) (position later : UInt32) (order : position ≤ later) :
    0 ≤ (timing.gainAt later).value ∧
      (timing.gainAt later).value ≤ (timing.gainAt position).value ∧
      (timing.gainAt position).value ≤ 1 := by
  have falls := Sample.at_most_of_bits _ _
    (timing.gain_at_antitone position later (UInt32.le_iff_toNat_le.mp order))
    (timing.gain_at_le_one position)
  have top := Sample.at_most_of_bits _ _ (timing.gain_at_le_one position) (Nat.le_refl _)
  have bottom := Sample.at_most_of_bits Sample.zero _ (Nat.zero_le _)
    (timing.gain_at_le_one later)
  exact ⟨Sample.value_zero ▸ bottom.order, falls.order, Sample.value_one ▸ top.order⟩

/-- The shape of the envelope, for any two counts. It falls from one to zero, is a plain number
everywhere and shut on the last sample of the ramp; and no two samples of a ramp of ordinary length
have the same bound. -/
theorem envelope_shape (timing : GateTiming) :
    (∀ position later : UInt32, position ≤ later →
      0 ≤ (timing.gainAt later).value ∧
        (timing.gainAt later).value ≤ (timing.gainAt position).value ∧
        (timing.gainAt position).value ≤ 1) ∧
    (∀ position, (timing.gainAt position).isNaN = false ∧
      (timing.gainAt position).isNegative = false) ∧
    (∀ position, position < timing.grace → timing.gainAt position = Sample.one) ∧
    (∀ position : UInt32, 0 < timing.fade →
      position.toNat = timing.grace.toNat + timing.fade.toNat - 1 →
      timing.gainAt position = Sample.zero) ∧
    (timing.fade.toNat ≤ 2 ^ 23 →
      (∀ position later : UInt32, timing.grace ≤ position → position < later →
        later.toNat < timing.grace.toNat + timing.fade.toNat →
        (timing.gainAt later).value < (timing.gainAt position).value) ∧
      (∀ position, timing.grace ≤ position → (timing.gainAt position).value < 1) ∧
      (∀ position : UInt32, position.toNat + 1 < timing.grace.toNat + timing.fade.toNat →
        0 < (timing.gainAt position).value)) := by
  simp only [UInt32.le_iff_toNat_le, UInt32.lt_iff_toNat_lt]
  refine ⟨?_, ?_, ?_, ?_, ?_⟩
  · intro position later order
    exact timing.gain_ordered position later (UInt32.le_iff_toNat_le.mpr order)
  · intro position
    have bound := timing.gain_at_le_one position
    exact ⟨(Sample.at_most_of_bits _ _ bound (Nat.le_refl _)).number,
      (Sample.magnitude_positive _ (Nat.lt_of_le_of_lt bound (by decide))).2⟩
  · exact timing.gain_at_grace
  · intro position fading last
    exact timing.gain_at_last position fading (by simp only [UInt32.toNat_zero] at fading; omega)
  · intro short
    refine ⟨?_, ?_, ?_⟩
    · intro position later begun after ramping
      exact timing.gain_strictly_falls position later short begun after ramping
    · intro position begun
      exact timing.gain_below_one position short begun
    · intro position before
      exact timing.gain_above_zero position short before

theorem envelope_shape_far :
    0 ≤ (gainAt ⟨4000000000, 8388608⟩ 4008388606).value ∧
      (gainAt ⟨4000000000, 8388608⟩ 4000000000).value ≤ 1 ∧
      gainAt ⟨4000000000, 8388608⟩ 3999999999 = Sample.one ∧
      gainAt ⟨4000000000, 8388608⟩ 4008388607 = Sample.zero ∧
      (gainAt ⟨4000000000, 8388608⟩ 4000000001).value <
        (gainAt ⟨4000000000, 8388608⟩ 4000000000).value ∧
      (gainAt ⟨4000000000, 8388608⟩ 4000000000).value < 1 ∧
      0 < (gainAt ⟨4000000000, 8388608⟩ 4008388606).value := by
  obtain ⟨ordered, -, grace, last, ramp⟩ := envelope_shape ⟨4000000000, 8388608⟩
  obtain ⟨falls, below, above⟩ := ramp (by decide)
  obtain ⟨bottom, -, top⟩ := ordered 4000000000 4008388606 (by decide)
  exact ⟨bottom, top, grace _ (by decide), last _ (by decide) (by decide),
    falls _ _ (by decide) (by decide) (by decide), below _ (by decide), above _ (by decide)⟩

end GateTiming

end LicenseGate
