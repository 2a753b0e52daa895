import LicenseGate.Proofs.Loudness
import LicenseGate.Proofs.SampleOrder

/-!
Two policies against each other. More milliseconds come to no fewer samples, so the timing of the
more lenient policy is nowhere the stricter one: its envelope is no lower at any position, and no
sample of a block is left with less of it.
-/

namespace LicenseGate

namespace Numeric.Binary64

theorem not_finite_iff (x : Binary64) :
    x.isFinite = false ↔ x.isNaN = true ∨ x = infinity ∨ x = infinity.negate := by
  constructor
  · intro special
    rw [isFinite, decide_eq_false_iff_not, not_lt] at special
    have field : x.exponentField < 2048 := Nat.mod_lt _ (by decide)
    have last : x.exponentField = 2047 := Nat.le_antisymm (Nat.le_of_lt_succ field) special
    by_cases whole : x.fraction = 0
    -- With no fraction the sign is all that is left open.
    · have word := x.bits.toNat_lt
      have plus : infinity.bits.toNat = 2047 * fractionSize := by decide
      have minus : infinity.negate.bits.toNat = 4095 * fractionSize := by decide
      have signs : x.bits.toNat = infinity.bits.toNat ∨
          x.bits.toNat = infinity.negate.bits.toNat := by
        simp only [exponentField, fraction, fractionSize] at last whole plus minus
        omega
      exact .inr (signs.imp (fun same => congrArg mk (UInt64.toNat_inj.mp same))
        (fun same => congrArg mk (UInt64.toNat_inj.mp same)))
    · exact .inl (by simp [isNaN, last, whole])
  · rintro (noise | rfl | rfl)
    · simp only [isNaN, Bool.and_eq_true, beq_iff_eq] at noise
      simp [isFinite, noise.1]
    · decide
    · decide

end Numeric.Binary64

open Numeric

theorem unusable_rate_iff (rate : Binary64) :
    isUsableRate rate = false ↔
      rate.isNaN = true ∨ rate = .infinity ∨ rate = Binary64.infinity.negate ∨
        rate.isFinite = true ∧ rate.value ≤ 0 := by
  have special := rate.not_finite_iff
  rw [← Bool.not_eq_true, usable_rate_iff]
  cases finite : rate.isFinite with
  | true =>
      obtain ⟨number, plus, minus⟩ : rate.isNaN ≠ true ∧ rate ≠ .infinity ∧
          rate ≠ Binary64.infinity.negate := by
        rw [← not_or, ← not_or, ← special, finite]
        nofun
      simp [number, plus, minus]
  | false =>
      rcases special.mp finite with noise | plus | minus
      · simp [noise]
      · simp [plus]
      · simp [minus]

namespace Sample

structure AtMost (first second : Sample) : Prop where
  number : first.isNaN = false
  otherNumber : second.isNaN = false
  order : first.value ≤ second.value

theorem at_most_of_bits (first second : Sample) (below : first.bits.toNat ≤ second.bits.toNat)
    (counted : second.bits.toNat ≤ one.bits.toNat) : AtMost first second := by
  have limit : one.bits.toNat = 1065353216 := by decide
  obtain ⟨size, sign⟩ := magnitude_positive first (by simp only [signBit]; omega)
  obtain ⟨otherSize, otherSign⟩ := magnitude_positive second (by simp only [signBit]; omega)
  constructor
  · simp only [isNaN, infinite, size, decide_eq_false_iff_not]
    omega
  · simp only [isNaN, infinite, otherSize, decide_eq_false_iff_not]
    omega
  · rw [value_le_iff]
    simp only [level, sign, otherSign, size, otherSize, Bool.false_eq_true, ↓reduceIte]
    exact_mod_cast below

end Sample

namespace GateTiming

theorem of_millis_error_iff (graceMillis fadeMillis : UInt32) (rate : Binary64) (fault : Error) :
    ofMillis graceMillis fadeMillis rate = .error fault ↔
      isUsableRate rate = false ∧ fault = .invalidSampleRate rate := by
  cases usable : isUsableRate rate <;> simp [ofMillis, usable, eq_comm]

/-- What a more lenient timing does at every position and to every block. -/
structure NeverLouder (strict lenient : GateTiming) : Prop where
  stricter : Stricter strict lenient
  envelope (position : UInt32) : (strict.gainAt position).AtMost (lenient.gainAt position)
  block (counter : UInt32) (buffer : Buffer) (short : buffer.length ≤ lastPosition) :
    List.Forall₂ (fun quieter louder => quieter.loudness ≤ louder.loudness)
      (strict.silence counter buffer).2 (lenient.silence counter buffer).2

theorem never_louder (strict lenient : GateTiming) (order : Stricter strict lenient) :
    NeverLouder strict lenient where
  stricter := order
  envelope position :=
    Sample.at_most_of_bits _ _
      (gain_at_mono strict lenient position position order (Nat.le_refl _))
      (gain_at_le_one lenient position)
  block counter buffer short :=
    (silence_mono strict lenient counter counter buffer short order (UInt32.le_refl _)).imp
      Sample.loudness_le

theorem of_millis_longer (graceMillis moreGrace fadeMillis moreFade : UInt32) (rate : Binary64)
    (usable : isUsableRate rate = true) (grace : graceMillis ≤ moreGrace)
    (fade : fadeMillis ≤ moreFade) :
    ∃ strict lenient, ofMillis graceMillis fadeMillis rate = .ok strict ∧
      ofMillis moreGrace moreFade rate = .ok lenient ∧ NeverLouder strict lenient :=
  ⟨_, _, of_millis_usable graceMillis fadeMillis rate usable,
    of_millis_usable moreGrace moreFade rate usable, never_louder _ _
      ⟨samples_in_longer graceMillis moreGrace rate grace,
        samples_in_longer fadeMillis moreFade rate fade⟩⟩

theorem of_millis_faster (graceMillis fadeMillis : UInt32) (rate faster : Binary64)
    (finite : rate.isFinite = true) (positive : 0 < rate.value)
    (fasterFinite : faster.isFinite = true) (order : rate.value ≤ faster.value) :
    ∃ fewer more, ofMillis graceMillis fadeMillis rate = .ok fewer ∧
      ofMillis graceMillis fadeMillis faster = .ok more ∧ Stricter fewer more :=
  ⟨_, _, of_millis_usable graceMillis fadeMillis rate ((usable_rate_iff rate).mpr ⟨finite, positive⟩),
    of_millis_usable graceMillis fadeMillis faster
      ((usable_rate_iff faster).mpr ⟨fasterFinite, positive.trans_le order⟩),
    samples_in_faster graceMillis rate faster positive order,
    samples_in_faster fadeMillis rate faster positive order⟩

/-- A rate is refused for what it is, whatever the milliseconds. At every other rate a policy of no
fewer milliseconds is never quieter, and a higher rate takes no sample away. -/
theorem lenient_never_quieter (rate : Binary64) :
    (∀ graceMillis fadeMillis fault,
      ofMillis graceMillis fadeMillis rate = .error fault ↔
        (rate.isNaN = true ∨ rate = .infinity ∨ rate = Binary64.infinity.negate ∨
          rate.isFinite = true ∧ rate.value ≤ 0) ∧ fault = .invalidSampleRate rate) ∧
    (rate.isFinite = true → 0 < rate.value →
      (∀ graceMillis moreGrace fadeMillis moreFade, graceMillis ≤ moreGrace →
        fadeMillis ≤ moreFade →
        ∃ strict lenient, ofMillis graceMillis fadeMillis rate = .ok strict ∧
          ofMillis moreGrace moreFade rate = .ok lenient ∧ NeverLouder strict lenient) ∧
      (∀ faster : Binary64, faster.isFinite = true → rate.value ≤ faster.value →
        ∀ graceMillis fadeMillis,
        ∃ fewer more, ofMillis graceMillis fadeMillis rate = .ok fewer ∧
          ofMillis graceMillis fadeMillis faster = .ok more ∧ Stricter fewer more)) := by
  constructor
  · intro graceMillis fadeMillis fault
    rw [of_millis_error_iff, unusable_rate_iff]
  · intro finite positive
    constructor
    · intro graceMillis moreGrace fadeMillis moreFade
      exact of_millis_longer graceMillis moreGrace fadeMillis moreFade rate
        ((usable_rate_iff rate).mpr ⟨finite, positive⟩)
    · intro faster fasterFinite order graceMillis fadeMillis
      exact of_millis_faster graceMillis fadeMillis rate faster finite positive fasterFinite order

theorem lenient_never_quieter_default :
    (∃ strict lenient, ofMillis 0 10 defaultRate = .ok strict ∧
      ofMillis 1 10 defaultRate = .ok lenient ∧ strict = ⟨0, 480⟩ ∧ lenient = ⟨48, 480⟩ ∧
      NeverLouder strict lenient ∧
      (strict.silence 1 [⟨0x7fa00001⟩]).2 = [.zero] ∧
      (lenient.silence 1 [⟨0x7fa00001⟩]).2 = [⟨0x7fa00001⟩]) ∧
    (∃ fewer more, ofMillis 0 10 defaultRate = .ok fewer ∧
      ofMillis 0 10 ⟨0x40f7700000000000⟩ = .ok more ∧ Stricter fewer more) ∧
    ofMillis 0 10 ⟨0x8000000000000000⟩ = .error (.invalidSampleRate ⟨0x8000000000000000⟩) := by
  have finite : defaultRate.isFinite = true := by decide
  have positive : 0 < defaultRate.value := (Binary64.value_positive_iff _).mpr (by decide)
  have fasterPositive : 0 < (⟨0x40f7700000000000⟩ : Binary64).value :=
    (Binary64.value_positive_iff _).mpr (by decide)
  have order : defaultRate.value ≤ (⟨0x40f7700000000000⟩ : Binary64).value := by
    have mantissa : (⟨0x40f7700000000000⟩ : Binary64).mantissa = defaultRate.mantissa := by decide
    have exponent : (⟨0x40f7700000000000⟩ : Binary64).exponent = defaultRate.exponent + 1 := by
      decide
    rw [Binary64.value_of_positive _ positive, Binary64.value_of_positive _ fasterPositive,
      mantissa, exponent]
    gcongr
    · norm_num
    · omega
  have refused : (⟨0x8000000000000000⟩ : Binary64).value ≤ 0 :=
    not_lt.mp fun above => absurd ((Binary64.value_positive_iff _).mp above) (by decide)
  obtain ⟨strict, lenient, strictly, leniently, never⟩ :=
    ((lenient_never_quieter defaultRate).2 finite positive).1 0 1 10 10 (by decide) (by decide)
  have short : ofMillis 0 10 defaultRate = .ok ⟨0, 480⟩ := by
    rw [of_millis_usable _ _ _ (by decide), samples_in_default, samples_in_default]
    decide
  have long : ofMillis 1 10 defaultRate = .ok ⟨48, 480⟩ := by
    rw [of_millis_usable _ _ _ (by decide), samples_in_default, samples_in_default]
    decide
  cases short.symm.trans strictly
  cases long.symm.trans leniently
  exact ⟨⟨_, _, short, long, rfl, rfl, never, by decide +kernel, by decide +kernel⟩,
    ((lenient_never_quieter defaultRate).2 finite positive).2 _ (by decide) order 0 10,
    ((lenient_never_quieter ⟨0x8000000000000000⟩).1 0 10 _).mpr
      ⟨.inr (.inr (.inr ⟨by decide, refused⟩)), rfl⟩⟩

end GateTiming

end LicenseGate
