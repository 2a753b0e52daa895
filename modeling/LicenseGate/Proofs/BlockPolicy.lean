import LicenseGate.Gate.Silence
import LicenseGate.Proofs.Envelope

/-!
The gate on one block against the policy for a single position. A block may be overwritten, left
alone or limited sample by sample; what becomes of a sample depends only on where it stands.
-/

namespace LicenseGate

namespace GateTiming

/-- What the policy makes of the sample at a position, whatever block it comes in. -/
def policy (timing : GateTiming) (position : Nat) (sample : Sample) : Sample :=
  if position < timing.grace.toNat then sample
  else sample.clamp (timing.gainAt (UInt32.ofNat position))

def blockStart (counter : UInt32) (length : Nat) : Nat := counter.toNat - length

theorem start_of_to_nat (counter : UInt32) (buffer : Buffer)
    (short : buffer.length ≤ lastPosition) :
    (startOf counter buffer).toNat = blockStart counter buffer.length := by
  have fits : counter.toNat - buffer.length < 2 ^ 32 :=
    Nat.lt_of_le_of_lt (Nat.sub_le _ _) counter.toNat_lt
  simp only [startOf, toNat_saturate, Nat.min_eq_left short, UInt32.toNat_ofNat', blockStart]
  exact Nat.mod_eq_of_lt fits

theorem block_finish_le (counter : UInt32) (length : Nat) (short : length ≤ lastPosition) :
    blockStart counter length + length ≤ lastPosition := by
  have bound := counter.toNat_lt
  simp only [blockStart, lastPosition] at short ⊢
  omega

theorem silent_from_to_nat (timing : GateTiming) :
    timing.silentFrom.toNat = min (timing.grace.toNat + timing.fade.toNat) lastPosition :=
  toNat_saturate _

theorem silence_action (timing : GateTiming) (counter : UInt32) (buffer : Buffer)
    (short : buffer.length ≤ lastPosition) :
    (timing.silence counter buffer).1 =
      if timing.silentFrom.toNat ≤ blockStart counter buffer.length then .silenced
      else if blockStart counter buffer.length + buffer.length ≤ timing.grace.toNat then .passed
      else .faded := by
  have start := start_of_to_nat counter buffer short
  have finish := block_finish_le counter buffer.length short
  simp only [silence, UInt32.le_iff_toNat_le, toNat_saturate, Nat.min_eq_left short, start,
    Nat.min_eq_left finish]
  split
  · rfl
  · split <;> rfl

theorem silence_length (timing : GateTiming) (counter : UInt32) (buffer : Buffer) :
    (timing.silence counter buffer).2.length = buffer.length := by
  simp only [silence]
  split
  next => exact List.length_map _
  split
  next => rfl
  next => exact List.length_mapIdx

theorem silence_overwrites (timing : GateTiming) (counter : UInt32) (buffer : Buffer)
    (short : buffer.length ≤ lastPosition)
    (reached : timing.silentFrom.toNat ≤ blockStart counter buffer.length) :
    timing.silence counter buffer = (.silenced, buffer.map fun _ => Sample.zero) := by
  have start := start_of_to_nat counter buffer short
  simp only [silence, UInt32.le_iff_toNat_le, start, if_pos reached]

theorem policy_grace (timing : GateTiming) (position : Nat) (sample : Sample)
    (early : position < timing.grace.toNat) : timing.policy position sample = sample := by
  simp [policy, early]

theorem policy_silent (timing : GateTiming) (position : Nat) (sample : Sample)
    (past : timing.grace.toNat + timing.fade.toNat ≤ position)
    (counted : position ≤ lastPosition) : timing.policy position sample = Sample.zero := by
  have begun : ¬ position < timing.grace.toNat := by omega
  have shut := gain_at_silent timing (UInt32.ofNat position)
    (by rwa [to_nat_of_counted position counted])
  simp [policy, begun, shut, Sample.clamp, Sample.magnitude, Sample.zero]

theorem limit_saturate (timing : GateTiming) (position : Nat) (sample : Sample)
    (counted : position ≤ lastPosition) :
    timing.limit (saturate position) sample = timing.policy position sample := by
  have word : saturate position = UInt32.ofNat position := by
    rw [saturate, Nat.min_eq_left counted]
  simp only [limit, policy, UInt32.lt_iff_toNat_lt, word, to_nat_of_counted position counted]

/-- The three ways through a block are one policy for its samples: a block overwritten lies past
the ramp, one left alone within the grace period, and no position is cut short on the way. -/
theorem silence_pointwise (timing : GateTiming) (counter : UInt32) (buffer : Buffer)
    (short : buffer.length ≤ lastPosition) :
    (timing.silence counter buffer).2 =
      buffer.mapIdx fun index sample =>
        timing.policy (blockStart counter buffer.length + index) sample := by
  have start := start_of_to_nat counter buffer short
  have finish := block_finish_le counter buffer.length short
  have silent := silent_from_to_nat timing
  simp only [silence, UInt32.le_iff_toNat_le, toNat_saturate, Nat.min_eq_left short, start,
    Nat.min_eq_left finish]
  split
  -- Past the ramp the envelope is shut, which is what the overwritten block holds.
  next overwritten =>
    apply List.ext_getElem
    · simp
    · intro index inside _
      rw [List.length_map] at inside
      rw [List.getElem_map, List.getElem_mapIdx, policy_silent]
      · omega
      · omega
  split
  next untouched =>
    apply List.ext_getElem
    · simp
    · intro index inside _
      change index < buffer.length at inside
      rw [List.getElem_mapIdx, policy_grace]
      omega
  -- No position of the block saturates, for its last one is before the counter.
  next =>
    apply List.ext_getElem
    · simp
    · intro index inside _
      rw [List.length_mapIdx] at inside
      rw [List.getElem_mapIdx, List.getElem_mapIdx, limit_saturate]
      omega

end GateTiming

end LicenseGate
