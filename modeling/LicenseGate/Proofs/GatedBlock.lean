import LicenseGate.Proofs.BlockPolicy
import LicenseGate.Proofs.SampleValue

/-!
One gated block, sample by sample: which of the three ways through it is taken, that each of them
leaves what the policy asks for, and that nothing is ever made louder.
-/

namespace LicenseGate

namespace Sample

/-- What a bound makes of a sample: a finite number between its ends, no louder than the sample, on
the same side of zero, and the sample itself where that is between the ends already. -/
structure Tamed (bound input output : Sample) : Prop where
  number : output.isNaN = false
  finite : output.magnitude < infinite
  within : -bound.value ≤ output.value ∧ output.value ≤ bound.value
  quieter : input.isNaN = false → |output.value| ≤ |input.value|
  sign : output = zero ∨ output.isNegative = input.isNegative
  untouched : input.isNaN = false → bound ≠ zero → |input.value| ≤ bound.value → output = input

theorem clamp_tamed (sample bound : Sample) (bounded : bound.bits.toNat ≤ one.bits.toNat) :
    Tamed bound sample (sample.clamp bound) := by
  have positive : bound.bits.toNat < signBit := Nat.lt_of_le_of_lt bounded (by decide)
  obtain ⟨size, sign⟩ := magnitude_positive bound positive
  have level : |bound.value| = bound.value := by
    have above : 0 ≤ bound.value := by
      simp only [value, sign, Bool.false_eq_true, ↓reduceIte, one_mul]
      positivity
    exact abs_of_nonneg above
  have inside := clamp_magnitude_le sample bound
  constructor
  case number => exact clamp_number sample bound
  case finite =>
    have finite : bound.magnitude < infinite := by
      rw [size]
      exact Nat.lt_of_le_of_lt bounded (by decide)
    exact Nat.lt_of_le_of_lt inside finite
  case within =>
    rw [← abs_le, ← level, abs_value_le_iff]
    exact inside
  case quieter =>
    intro number
    rw [abs_value_le_iff, clamp_magnitude sample bound number]
    exact Nat.min_le_left _ _
  case sign => exact clamp_sign sample bound
  case untouched =>
    intro number opened quiet
    rw [← level, abs_value_le_iff] at quiet
    have present : bound.magnitude ≠ 0 := fun shut => opened (eq_zero_of_magnitude bound positive shut)
    exact clamp_quiet sample bound number present quiet

end Sample

namespace GateTiming

def walk (start : UInt32) : (index : Nat) → UInt32
  | 0 => start
  | index + 1 => Counter.advance (walk start index) 1

theorem walk_exact (start : UInt32) (index : Nat) :
    walk start index = saturate (start.toNat + index) := by
  induction index with
  | zero => exact (saturate_toNat start).symm
  | succ index ih =>
      rw [walk, ih, Counter.advance]
      exact saturate_add (start.toNat + index) 1

theorem walk_to_nat (counter : UInt32) (buffer : Buffer) (index : Nat)
    (short : buffer.length ≤ lastPosition) (inside : index < buffer.length) :
    (walk (startOf counter buffer) index).toNat = blockStart counter buffer.length + index ∧
      blockStart counter buffer.length + index < lastPosition := by
  have finish := block_finish_le counter buffer.length short
  rw [walk_exact, toNat_saturate, start_of_to_nat counter buffer short]
  omega

theorem grace_le_silent (timing : GateTiming) : timing.grace.toNat ≤ timing.silentFrom.toNat := by
  have counted := word_counted timing.grace
  rw [silent_from_to_nat]
  omega

theorem passed_untouched (timing : GateTiming) (counter : UInt32) (buffer : Buffer)
    (passed : (timing.silence counter buffer).1 = .passed) :
    (timing.silence counter buffer).2 = buffer := by
  simp only [silence] at passed ⊢
  split at passed
  next => cases passed
  next audible =>
    rw [if_neg audible]
    split at passed
    next early => rw [if_pos early]
    next => cases passed

theorem silenced_zero (timing : GateTiming) (counter : UInt32) (buffer : Buffer)
    (silenced : (timing.silence counter buffer).1 = .silenced) :
    (timing.silence counter buffer).2 = List.replicate buffer.length Sample.zero := by
  simp only [silence] at silenced ⊢
  split at silenced
  next reached => rw [if_pos reached, List.map_const']
  next =>
    split at silenced
    next => cases silenced
    next => cases silenced

theorem silence_passed_iff (timing : GateTiming) (counter : UInt32) (buffer : Buffer)
    (short : buffer.length ≤ lastPosition) (present : 0 < buffer.length) :
    (timing.silence counter buffer).1 = .passed ↔
      ∀ index < buffer.length, blockStart counter buffer.length + index < timing.grace.toNat := by
  have silent := grace_le_silent timing
  rw [timing.silence_action counter buffer short]
  constructor
  · intro passed index inside
    split at passed
    next => exact absurd passed nofun
    next =>
      split at passed
      next => omega
      next => exact absurd passed nofun
  · intro early
    have last := early (buffer.length - 1) (by omega)
    rw [if_neg (by omega), if_pos (by omega)]

theorem silence_silenced_iff (timing : GateTiming) (counter : UInt32) (buffer : Buffer)
    (short : buffer.length ≤ lastPosition) (present : 0 < buffer.length) :
    (timing.silence counter buffer).1 = .silenced ↔
      ∀ index < buffer.length,
        timing.silentFrom.toNat ≤ blockStart counter buffer.length + index := by
  rw [timing.silence_action counter buffer short]
  constructor
  · intro silenced index _
    split at silenced
    next => omega
    next =>
      split at silenced
      next => exact absurd silenced nofun
      next => exact absurd silenced nofun
  · intro late
    exact if_pos (late 0 present)

theorem silence_sample (timing : GateTiming) (counter : UInt32) (buffer : Buffer)
    (short : buffer.length ≤ lastPosition) (index : Nat) :
    (timing.silence counter buffer).2[index]? = buffer[index]?.map
      (timing.policy (blockStart counter buffer.length + index)) := by
  rw [timing.silence_pointwise counter buffer short, List.getElem?_mapIdx]

/-- Overwriting a block and leaving it alone are the policy for each of its samples, and which of
the ways is taken tells exactly where the samples of the block stand. -/
theorem shortcuts_follow_policy (timing : GateTiming) (counter : UInt32) (buffer : Buffer)
    (short : buffer.length ≤ lastPosition) :
    (timing.silence counter buffer).2 = (buffer.mapIdx fun index sample =>
        if blockStart counter buffer.length + index < timing.grace.toNat then sample
        else sample.clamp
          (timing.gainAt (UInt32.ofNat (blockStart counter buffer.length + index)))) ∧
    (∀ index < buffer.length,
      (walk (startOf counter buffer) index).toNat = blockStart counter buffer.length + index ∧
        blockStart counter buffer.length + index < lastPosition) ∧
    ((timing.silence counter buffer).1 = .passed →
      (timing.silence counter buffer).2 = buffer) ∧
    ((timing.silence counter buffer).1 = .silenced →
      (timing.silence counter buffer).2 = List.replicate buffer.length Sample.zero) ∧
    (0 < buffer.length →
      ((timing.silence counter buffer).1 = .passed ↔
        ∀ index < buffer.length,
          blockStart counter buffer.length + index < timing.grace.toNat) ∧
      ((timing.silence counter buffer).1 = .silenced ↔
        ∀ index < buffer.length,
          timing.silentFrom.toNat ≤ blockStart counter buffer.length + index)) :=
  ⟨timing.silence_pointwise counter buffer short,
    fun index inside => walk_to_nat counter buffer index short inside,
    timing.passed_untouched counter buffer, timing.silenced_zero counter buffer,
    fun present => ⟨timing.silence_passed_iff counter buffer short present,
      timing.silence_silenced_iff counter buffer short present⟩⟩

theorem shortcuts_follow_policy_overflowing :
    [Sample.one, .one, .one].length ≤ lastPosition ∧
      ((GateTiming.mk 1 4294967295).silence 2 [.one, .one, .one]).1 ≠ .passed ∧
      ((GateTiming.mk 1 4294967295).silence 2 [.one, .one, .one]).1 ≠ .silenced ∧
      (walk (startOf 2 [.one, .one, .one]) 2).toNat = 2 := by
  have law := shortcuts_follow_policy ⟨1, 4294967295⟩ 2 [.one, .one, .one] (by decide)
  obtain ⟨-, positions, -, -, actions⟩ := law
  obtain ⟨passed, silenced⟩ := actions (by decide)
  refine ⟨by decide, ?_, ?_, (positions 2 (by decide)).1⟩
  · intro left
    exact absurd (passed.mp left 2 (by decide)) (by decide)
  · intro overwritten
    exact absurd (silenced.mp overwritten 0 (by decide)) (by decide)

/-- No sample is ever made louder, and none after the grace period is anything but a number within
the envelope. -/
theorem never_amplified (timing : GateTiming) (counter : UInt32) (buffer : Buffer)
    (short : buffer.length ≤ lastPosition) :
    (timing.silence counter buffer).2.length = buffer.length ∧
    ∀ index input, buffer[index]? = some input →
      ∃ output, (timing.silence counter buffer).2[index]? = some output ∧
        (blockStart counter buffer.length + index < timing.grace.toNat → output = input) ∧
        (timing.grace.toNat ≤ blockStart counter buffer.length + index →
          Sample.Tamed
            (timing.gainAt (UInt32.ofNat (blockStart counter buffer.length + index)))
            input output) := by
  constructor
  · rw [timing.silence_pointwise counter buffer short, List.length_mapIdx]
  intro index input found
  have gated := timing.silence_sample counter buffer short index
  rw [found, Option.map_some] at gated
  refine ⟨_, gated, timing.policy_grace _ input, fun late => ?_⟩
  rw [policy, if_neg (Nat.not_lt.mpr late)]
  exact Sample.clamp_tamed input _ (timing.gain_at_le_one _)

theorem never_amplified_infinite :
    [(⟨0x7fa00001⟩ : Sample), ⟨0xff800000⟩, ⟨0x80000000⟩].length ≤ lastPosition ∧
      ((GateTiming.mk 1 4).silence 3 [⟨0x7fa00001⟩, ⟨0xff800000⟩, ⟨0x80000000⟩]).2 =
        [⟨0x7fa00001⟩, ⟨0xbf400000⟩, ⟨0x80000000⟩] ∧
      Sample.Tamed ⟨0x3f400000⟩ ⟨0xff800000⟩ ⟨0xbf400000⟩ := by
  have outputs : ((GateTiming.mk 1 4).silence 3
      [⟨0x7fa00001⟩, ⟨0xff800000⟩, ⟨0x80000000⟩]).2 =
        [⟨0x7fa00001⟩, ⟨0xbf400000⟩, ⟨0x80000000⟩] := by decide +kernel
  obtain ⟨output, found, -, tamed⟩ := (never_amplified ⟨1, 4⟩ 3
    [⟨0x7fa00001⟩, ⟨0xff800000⟩, ⟨0x80000000⟩] (by decide)).2 1 ⟨0xff800000⟩ rfl
  rw [outputs] at found
  cases found
  have gain : (GateTiming.mk 1 4).gainAt (UInt32.ofNat (blockStart 3 3 + 1)) = ⟨0x3f400000⟩ := by
    decide +kernel
  have held := tamed (by decide)
  rw [List.length_cons, List.length_cons, List.length_cons, List.length_nil, gain] at held
  exact ⟨by decide, outputs, held⟩

end GateTiming

end LicenseGate
