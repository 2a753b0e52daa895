import LicenseGate.Sample
import Mathlib

/-!
Limiting a sample, against the order of numbers. Signed magnitudes order all bit patterns that are
numbers, with both zeros in one place; infinities stand at the ends.
-/

namespace LicenseGate.Sample

/-- The place of a number in the order of numbers. Both zeros stand at 0. -/
def level (sample : Sample) : Int :=
  if sample.isNegative then -sample.magnitude else sample.magnitude

def negate (sample : Sample) : Sample :=
  ⟨UInt32.ofNat (if sample.isNegative then sample.magnitude else signBit + sample.magnitude)⟩

/-- What is left of a sample between `-bound` and `bound`: nothing of what is no number or of
what a bound of zero holds back, the nearer end in place of a number outside, and every bit of a
number within. -/
inductive LimitedTo (bound : Sample) : Sample → Sample → Prop where
  | noNumber {sample : Sample} : sample.isNaN = true → LimitedTo bound sample zero
  | shut {sample : Sample} : bound = zero → LimitedTo bound sample zero
  | within {sample : Sample} : sample.isNaN = false → bound ≠ zero →
      -bound.level ≤ sample.level → sample.level ≤ bound.level → LimitedTo bound sample sample
  | above {sample : Sample} : sample.isNaN = false → bound ≠ zero →
      bound.level < sample.level → LimitedTo bound sample bound
  | below {sample : Sample} : sample.isNaN = false → bound ≠ zero →
      sample.level < -bound.level → LimitedTo bound sample bound.negate

theorem magnitude_positive (sample : Sample) (positive : sample.bits.toNat < signBit) :
    sample.magnitude = sample.bits.toNat ∧ sample.isNegative = false := by
  constructor
  · exact Nat.mod_eq_of_lt positive
  · simpa [isNegative] using positive

theorem eq_zero_of_magnitude (sample : Sample) (positive : sample.bits.toNat < signBit)
    (silent : sample.magnitude = 0) : sample = zero := by
  rw [(magnitude_positive sample positive).1] at silent
  have bits : sample.bits = 0 := UInt32.toNat_inj.mp silent
  rw [zero, ← bits]

theorem clamp_limited (sample bound : Sample) (positive : bound.bits.toNat < signBit) :
    LimitedTo bound sample (sample.clamp bound) := by
  obtain ⟨size, sign⟩ := magnitude_positive bound positive
  have place : bound.level = bound.magnitude := by simp [level, sign]
  by_cases nan : sample.isNaN = true
  · simpa [clamp, nan] using LimitedTo.noNumber nan
  simp only [Bool.not_eq_true] at nan
  by_cases shut : bound.magnitude = 0
  · simpa [clamp, shut] using LimitedTo.shut (eq_zero_of_magnitude bound positive shut)
  have opened : bound ≠ zero := by
    intro same
    rw [same] at shut
    exact shut rfl
  simp only [clamp, nan, shut, Bool.false_eq_true, or_self, ↓reduceIte]
  by_cases loud : bound.magnitude < sample.magnitude
  · rw [if_pos loud]
    cases negative : sample.isNegative with
    | true =>
        have flipped : sample.withMagnitude bound.magnitude = bound.negate := by
          simp [withMagnitude, negate, negative, sign]
        rw [flipped]
        apply LimitedTo.below nan opened
        rw [place]
        simp only [level, negative, ↓reduceIte]
        omega
    | false =>
        have same : sample.withMagnitude bound.magnitude = bound := by
          simp [withMagnitude, negative, size]
        rw [same]
        apply LimitedTo.above nan opened
        rw [place]
        simp only [level, negative, Bool.false_eq_true, ↓reduceIte]
        omega
  · rw [if_neg loud]
    apply LimitedTo.within nan opened
    · rw [place]
      simp only [level]
      split <;> omega
    · rw [place]
      simp only [level]
      split <;> omega

theorem magnitude_lt (sample : Sample) : sample.magnitude < signBit :=
  Nat.mod_lt _ (by decide)

theorem with_magnitude_exact (sample : Sample) (magnitude : Nat) (fits : magnitude < signBit) :
    (sample.withMagnitude magnitude).magnitude = magnitude ∧
      (sample.withMagnitude magnitude).isNegative = sample.isNegative := by
  simp only [signBit] at fits
  cases negative : sample.isNegative with
  | true =>
      have bits : (sample.withMagnitude magnitude).bits.toNat = signBit + magnitude := by
        simp only [withMagnitude, negative, ↓reduceIte, UInt32.toNat_ofNat', signBit]
        omega
      simp only [Sample.magnitude, isNegative, bits, signBit, decide_eq_true_eq]
      omega
  | false =>
      have bits : (sample.withMagnitude magnitude).bits.toNat = magnitude := by
        simp only [withMagnitude, negative, Bool.false_eq_true, ↓reduceIte, UInt32.toNat_ofNat']
        omega
      simp only [Sample.magnitude, isNegative, bits, signBit, decide_eq_false_iff_not]
      omega

theorem clamp_noise (sample bound : Sample) (noise : sample.isNaN = true) :
    sample.clamp bound = zero := if_pos (Or.inl noise)

theorem clamp_shut (sample bound : Sample) (shut : bound.magnitude = 0) :
    sample.clamp bound = zero := if_pos (Or.inr shut)

theorem clamp_loud (sample bound : Sample) (number : sample.isNaN = false)
    (opened : bound.magnitude ≠ 0) (loud : bound.magnitude < sample.magnitude) :
    sample.clamp bound = sample.withMagnitude bound.magnitude := by
  simp [clamp, number, opened, loud]

theorem clamp_quiet (sample bound : Sample) (number : sample.isNaN = false)
    (opened : bound.magnitude ≠ 0) (quiet : sample.magnitude ≤ bound.magnitude) :
    sample.clamp bound = sample := by
  simp [clamp, number, opened, Nat.not_lt.mpr quiet]

theorem clamp_magnitude (sample bound : Sample) (number : sample.isNaN = false) :
    (sample.clamp bound).magnitude = min sample.magnitude bound.magnitude := by
  by_cases shut : bound.magnitude = 0
  · rw [clamp_shut sample bound shut, shut, Nat.min_zero]
    rfl
  rcases Nat.lt_or_ge bound.magnitude sample.magnitude with loud | quiet
  · rw [clamp_loud sample bound number shut loud, Nat.min_eq_right (Nat.le_of_lt loud)]
    exact (with_magnitude_exact sample _ bound.magnitude_lt).1
  · rw [clamp_quiet sample bound number shut quiet, Nat.min_eq_left quiet]

theorem clamp_number (sample bound : Sample) : (sample.clamp bound).isNaN = false := by
  cases noise : sample.isNaN with
  | true =>
      rw [clamp_noise sample bound noise]
      decide
  | false =>
      have size := clamp_magnitude sample bound noise
      simp only [isNaN, decide_eq_false_iff_not] at noise ⊢
      omega

theorem clamp_sign (sample bound : Sample) :
    sample.clamp bound = zero ∨ (sample.clamp bound).isNegative = sample.isNegative := by
  cases noise : sample.isNaN with
  | true => exact Or.inl (clamp_noise sample bound noise)
  | false =>
      by_cases shut : bound.magnitude = 0
      · exact Or.inl (clamp_shut sample bound shut)
      rcases Nat.lt_or_ge bound.magnitude sample.magnitude with loud | quiet
      · rw [clamp_loud sample bound noise shut loud]
        exact Or.inr (with_magnitude_exact sample _ bound.magnitude_lt).2
      · rw [clamp_quiet sample bound noise shut quiet]
        exact Or.inr rfl

theorem clamp_magnitude_le_min (sample bound : Sample) :
    (sample.clamp bound).magnitude ≤ min sample.magnitude bound.magnitude := by
  cases noise : sample.isNaN with
  | true =>
      rw [clamp_noise sample bound noise]
      exact Nat.zero_le _
  | false => exact Nat.le_of_eq (clamp_magnitude sample bound noise)

theorem clamp_magnitude_le (sample bound : Sample) :
    (sample.clamp bound).magnitude ≤ bound.magnitude :=
  Nat.le_trans (clamp_magnitude_le_min sample bound) (Nat.min_le_right _ _)

theorem clamp_magnitude_mono (sample bound wider : Sample)
    (below : bound.magnitude ≤ wider.magnitude) :
    (sample.clamp bound).magnitude ≤ (sample.clamp wider).magnitude := by
  cases noise : sample.isNaN with
  | true => rw [clamp_noise sample bound noise, clamp_noise sample wider noise]
  | false =>
      rw [clamp_magnitude sample bound noise, clamp_magnitude sample wider noise]
      exact min_le_min_left _ below

/-- What is left of a sample lies within the bound already. -/
theorem clamp_again (sample bound : Sample) :
    (sample.clamp bound).clamp bound = sample.clamp bound := by
  by_cases shut : bound.magnitude = 0
  · rw [clamp_shut _ bound shut, clamp_shut sample bound shut]
  · exact clamp_quiet _ bound (clamp_number sample bound) shut (clamp_magnitude_le sample bound)

end LicenseGate.Sample
