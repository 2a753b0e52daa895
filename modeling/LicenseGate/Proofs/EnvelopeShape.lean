import LicenseGate.Proofs.Envelope
import LicenseGate.Proofs.SampleLimit

/-!
The envelope from position to position: it never rises, and on the ramps in use it shuts on the last
sample and no earlier. Every rounded step keeps the order of what goes into it.
-/

namespace LicenseGate

open Numeric

theorem length_rounded_positive (length : Nat) (positive : 0 < length) :
    0 < significant 24 length 1 := by
  have rounded := le_significant 24 length 1 1 0 (by decide) Nat.one_pos (by decide) (by simpa)
  exact Nat.lt_of_lt_of_le (by decide) rounded

theorem ramp_units_mono (step more length longer : Nat) (positive : 0 < length)
    (steps : step ≤ more) (lengths : length ≤ longer) :
    rampUnits more length ≤ rampUnits step longer := by
  have divisor := length_rounded_positive length positive
  have wider := length_rounded_positive longer (Nat.lt_of_lt_of_le positive lengths)
  have count : significant 24 step 1 ≤ significant 24 more 1 :=
    significant_mono 24 step 1 more 1 (by decide) Nat.one_pos Nat.one_pos (by simpa)
  have divisors : significant 24 length 1 ≤ significant 24 longer 1 :=
    significant_mono 24 length 1 longer 1 (by decide) Nat.one_pos Nat.one_pos (by simpa)
  have quotient : significant 24 (significant 24 step 1 <<< gainShift) (significant 24 longer 1) ≤
      significant 24 (significant 24 more 1 <<< gainShift) (significant 24 length 1) := by
    apply significant_mono 24 _ _ _ _ (by decide) wider divisor
    rw [Nat.shiftLeft_eq, Nat.shiftLeft_eq]
    exact Nat.mul_le_mul (Nat.mul_le_mul_right _ count) divisors
  simp only [rampUnits]
  apply significant_mono 24 _ 1 _ 1 (by decide) Nat.one_pos Nat.one_pos
  rw [Nat.mul_one, Nat.mul_one]
  exact Nat.sub_le_sub_left quotient _

theorem ramp_units_last (length : Nat) (positive : 0 < length) : rampUnits length length = 0 := by
  have whole : significant 24 (significant 24 length 1 <<< gainShift) (significant 24 length 1) =
      1 * 2 ^ gainShift := by
    apply significant_exact 24 _ _ 1 gainShift (by decide)
      (length_rounded_positive length positive) (by decide)
    rw [Nat.shiftLeft_eq, Nat.one_mul, Nat.mul_comm]
  rw [rampUnits, whole, Nat.one_shiftLeft, Nat.one_mul, Nat.sub_self]
  decide

/-- Up to a length whose counts all have 24 bits, the quotient stays below one by a bit at least
until the counts are equal. -/
theorem ramp_units_positive (step length : Nat) (short : length ≤ 2 ^ 24)
    (before : step < length) : 0 < rampUnits step length := by
  have quotient : significant 24 (step <<< gainShift) length ≤ (2 ^ 24 - 1) * 2 ^ 32 := by
    apply significant_le 24 _ _ (2 ^ 24 - 1) 32 (by decide) (by omega) (by decide)
    simp only [Nat.shiftLeft_eq, gainShift]
    omega
  rw [rampUnits, significant_short 24 step (by decide) (by omega),
    significant_short 24 length (by decide) short]
  generalize significant 24 (step <<< gainShift) length = rounded at quotient ⊢
  have rest : 1 * 2 ^ 32 * 1 ≤ 1 <<< gainShift - rounded := by
    simp only [Nat.one_shiftLeft, gainShift]
    omega
  exact Nat.lt_of_lt_of_le (by decide)
    (le_significant 24 _ 1 1 32 (by decide) Nat.one_pos (by decide) rest)

def gainMantissa (units : Nat) : Nat :=
  if units.log2 ≤ 23 then units <<< (23 - units.log2) else units >>> (units.log2 - 23)

theorem le_gain_mantissa (units : Nat) (present : units ≠ 0) : 2 ^ 23 ≤ gainMantissa units := by
  have least := Nat.log2_self_le present
  rw [gainMantissa]
  split
  next few =>
    have whole : (2 : Nat) ^ 23 = 2 ^ units.log2 * 2 ^ (23 - units.log2) := by
      rw [← Nat.pow_add]
      congr 1
      omega
    rw [Nat.shiftLeft_eq, whole]
    exact Nat.mul_le_mul_right _ least
  next many =>
    rw [Nat.shiftRight_eq_div_pow, Nat.le_div_iff_mul_le (Nat.pow_pos (by decide)), ← Nat.pow_add]
    have whole : 23 + (units.log2 - 23) = units.log2 := by omega
    rwa [whole]

theorem gain_mantissa_mono (less more : Nat) (size : less.log2 = more.log2) (below : less ≤ more) :
    gainMantissa less ≤ gainMantissa more := by
  rw [gainMantissa, gainMantissa, size]
  split
  next =>
    rw [Nat.shiftLeft_eq, Nat.shiftLeft_eq]
    exact Nat.mul_le_mul_right _ below
  next =>
    rw [Nat.shiftRight_eq_div_pow, Nat.shiftRight_eq_div_pow]
    exact Nat.div_le_div_right below

theorem gain_sample_bits (units : Nat) (present : units ≠ 0) (below : units ≤ 2 ^ gainShift) :
    (gainSample units).bits.toNat = (units.log2 + 70) * 2 ^ 23 + gainMantissa units := by
  have size := log2_le units gainShift below
  have mantissa : gainMantissa units < 2 ^ 24 := gain_mantissa_lt units
  simp only [gainShift] at size
  rw [gainSample, if_neg present]
  change (UInt32.ofNat ((units.log2 + 126 - gainShift) <<< 23 + gainMantissa units)).toNat = _
  rw [UInt32.toNat_ofNat', Nat.shiftLeft_eq, Nat.mod_eq_of_lt]
  · simp only [gainShift]
    omega
  · simp only [gainShift]
    omega

theorem gain_sample_mono (less more : Nat) (below : less ≤ more) (within : more ≤ 2 ^ gainShift) :
    (gainSample less).bits.toNat ≤ (gainSample more).bits.toNat := by
  by_cases absent : less = 0
  · rw [absent]
    exact Nat.zero_le _
  have present : more ≠ 0 := by omega
  rw [gain_sample_bits less absent (Nat.le_trans below within),
    gain_sample_bits more present within]
  have sizes : less.log2 ≤ more.log2 := by
    simpa only [Nat.log2_eq_log_two] using Nat.log_mono_right below
  rcases Nat.lt_or_eq_of_le sizes with apart | same
  · have top : gainMantissa less < 2 ^ 24 := gain_mantissa_lt less
    have least := le_gain_mantissa more present
    omega
  · have mantissa := gain_mantissa_mono less more same below
    omega

theorem gain_sample_zero_iff (units : Nat) (below : units ≤ 2 ^ gainShift) :
    gainSample units = Sample.zero ↔ units = 0 := by
  constructor
  · intro silent
    by_contra present
    have bits := gain_sample_bits units present below
    rw [silent] at bits
    have empty : Sample.zero.bits.toNat = 0 := rfl
    omega
  · rintro rfl
    rfl

namespace GateTiming

theorem gain_magnitude (timing : GateTiming) (position : UInt32) :
    (timing.gainAt position).magnitude = (timing.gainAt position).bits.toNat :=
  (Sample.magnitude_positive _
    (Nat.lt_of_le_of_lt (timing.gain_at_le_one position) (by decide))).1

theorem gain_at_ramp (timing : GateTiming) (position : UInt32)
    (begun : timing.grace.toNat ≤ position.toNat)
    (ramping : position.toNat < timing.grace.toNat + timing.fade.toNat) :
    timing.gainAt position =
      gainSample (rampUnits (position.toNat - timing.grace.toNat + 1) timing.fade.toNat) := by
  have late : ¬ position < timing.grace := by
    rw [UInt32.lt_iff_toNat_lt]
    omega
  have ramp : ¬ timing.fade.toNat ≤ position.toNat - timing.grace.toNat := by omega
  rw [gainAt, if_neg late, if_neg ramp]

theorem gain_at_grace (timing : GateTiming) (position : UInt32)
    (early : position.toNat < timing.grace.toNat) : timing.gainAt position = Sample.one := by
  rw [gainAt, if_pos (UInt32.lt_iff_toNat_lt.mpr early)]

structure Stricter (strict lenient : GateTiming) : Prop where
  grace : strict.grace ≤ lenient.grace
  fade : strict.fade ≤ lenient.fade

theorem stricter_self (timing : GateTiming) : Stricter timing timing :=
  ⟨UInt32.le_refl _, UInt32.le_refl _⟩

/-- Later and under a stricter timing the envelope is no higher: fewer steps of a longer ramp have
been taken. -/
theorem gain_at_mono (strict lenient : GateTiming) (position later : UInt32)
    (order : Stricter strict lenient) (after : position.toNat ≤ later.toNat) :
    (strict.gainAt later).bits.toNat ≤ (lenient.gainAt position).bits.toNat := by
  have grace := UInt32.le_iff_toNat_le.mp order.grace
  have fade := UInt32.le_iff_toNat_le.mp order.fade
  rcases Nat.lt_or_ge position.toNat lenient.grace.toNat with early | begun
  · rw [gain_at_grace lenient position early]
    exact gain_at_le_one strict later
  rcases Nat.lt_or_ge later.toNat (strict.grace.toNat + strict.fade.toNat) with ramp | past
  · rw [gain_at_ramp lenient position begun (by omega),
      gain_at_ramp strict later (by omega) ramp]
    apply gain_sample_mono _ _ _ (ramp_units_le _ _)
    apply ramp_units_mono _ _ _ _ (by omega)
    · omega
    · exact fade
  · rw [gain_at_silent strict later past]
    exact Nat.zero_le _

theorem gain_at_antitone (timing : GateTiming) (position later : UInt32)
    (order : position.toNat ≤ later.toNat) :
    (timing.gainAt later).bits.toNat ≤ (timing.gainAt position).bits.toNat :=
  gain_at_mono timing timing position later timing.stricter_self order

/-- With a ramp of no more samples than 24 bits count, the envelope is shut from the last sample of
the ramp on, or from the end of the grace period where there is no ramp. -/
theorem gain_at_zero_iff (timing : GateTiming) (position : UInt32)
    (short : timing.fade.toNat ≤ 2 ^ 24) :
    timing.gainAt position = Sample.zero ↔
      timing.grace.toNat + max timing.fade.toNat 1 - 1 ≤ position.toNat := by
  rcases Nat.lt_or_ge position.toNat timing.grace.toNat with early | begun
  · rw [gain_at_grace timing position early]
    exact ⟨nofun, fun late => by omega⟩
  rcases Nat.lt_or_ge position.toNat (timing.grace.toNat + timing.fade.toNat) with ramp | past
  · rw [gain_at_ramp timing position begun ramp, gain_sample_zero_iff _ (ramp_units_le _ _)]
    constructor
    · intro shut
      by_contra before
      have opened := ramp_units_positive (position.toNat - timing.grace.toNat + 1)
        timing.fade.toNat short (by omega)
      omega
    · intro reached
      have last : position.toNat - timing.grace.toNat + 1 = timing.fade.toNat := by omega
      rw [last]
      exact ramp_units_last _ (by omega)
  · rw [gain_at_silent timing position past]
    exact ⟨fun _ => by omega, fun _ => rfl⟩

end GateTiming

end LicenseGate
