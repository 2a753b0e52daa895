import LicenseGate.Proofs.EnvelopeShape
import LicenseGate.Proofs.GatedBlock
import LicenseGate.Proofs.MutingOrder

/-!
One buffer gated twice, at two counters or under two timings. The later a sample stands, the less of
it is left, because the envelope never rises; a stricter timing lowers the envelope; and a later
counter never takes a block to start earlier, saturated or not.
-/

namespace LicenseGate

namespace GateTiming

theorem policy_mono (strict lenient : GateTiming) (position later : Nat) (sample : Sample)
    (order : Stricter strict lenient) (after : position ≤ later) (counted : later ≤ lastPosition) :
    (strict.policy later sample).magnitude ≤ (lenient.policy position sample).magnitude := by
  have grace := UInt32.le_iff_toNat_le.mp order.grace
  rcases Nat.lt_or_ge later strict.grace.toNat with early | begun
  · rw [strict.policy_grace later sample early, lenient.policy_grace position sample (by omega)]
  rw [policy, if_neg (Nat.not_lt.mpr begun)]
  rcases Nat.lt_or_ge position lenient.grace.toNat with before | past
  · rw [lenient.policy_grace position sample before]
    exact Nat.le_trans (sample.clamp_magnitude_le_min _) (Nat.min_le_left _ _)
  · rw [policy, if_neg (Nat.not_lt.mpr past)]
    apply sample.clamp_magnitude_mono
    rw [gain_magnitude, gain_magnitude]
    apply gain_at_mono strict lenient _ _ order
    rwa [to_nat_of_counted position (Nat.le_trans after counted), to_nat_of_counted later counted]

theorem block_start_mono (counter later : UInt32) (length : Nat) (order : counter ≤ later) :
    blockStart counter length ≤ blockStart later length :=
  Nat.sub_le_sub_right (UInt32.le_iff_toNat_le.mp order) length

theorem silence_mono (strict lenient : GateTiming) (counter later : UInt32) (buffer : Buffer)
    (short : buffer.length ≤ lastPosition) (order : Stricter strict lenient)
    (after : counter ≤ later) :
    List.Forall₂ (fun quieter louder => quieter.magnitude ≤ louder.magnitude)
      (strict.silence later buffer).2 (lenient.silence counter buffer).2 := by
  have starts := block_start_mono counter later buffer.length after
  have finish := block_finish_le later buffer.length short
  rw [strict.silence_pointwise later buffer short, lenient.silence_pointwise counter buffer short,
    List.forall₂_iff_get]
  refine ⟨by rw [List.length_mapIdx, List.length_mapIdx], fun index inside _ => ?_⟩
  rw [List.length_mapIdx] at inside
  simp only [List.get_eq_getElem, List.getElem_mapIdx]
  exact policy_mono strict lenient _ _ _ order (Nat.add_le_add_right starts index) (by omega)

theorem silence_quieter (timing : GateTiming) (counter later : UInt32) (buffer : Buffer)
    (short : buffer.length ≤ lastPosition) (order : counter ≤ later) :
    List.Forall₂ (fun quieter louder => quieter.magnitude ≤ louder.magnitude)
      (timing.silence later buffer).2 (timing.silence counter buffer).2 :=
  silence_mono timing timing counter later buffer short timing.stricter_self order

/-- The ends of a block move on together, so it can only pass to a later stage of muting. -/
theorem silence_rank_mono (timing : GateTiming) (counter later : UInt32) (buffer : Buffer)
    (short : buffer.length ≤ lastPosition) (order : counter ≤ later) :
    (timing.silence counter buffer).1.rank ≤ (timing.silence later buffer).1.rank := by
  have starts := block_start_mono counter later buffer.length order
  rw [timing.silence_action counter buffer short, timing.silence_action later buffer short]
  by_cases reached : timing.silentFrom.toNat ≤ blockStart later buffer.length
  · rw [if_pos reached]
    exact GateAction.rank_le_silenced _
  rw [if_neg reached, if_neg (by omega)]
  by_cases early : blockStart later buffer.length + buffer.length ≤ timing.grace.toNat
  · rw [if_pos early, if_pos (by omega)]
  · rw [if_neg early]
    split <;> decide

/-- A later counter is never louder: no sample of a block is left with more of it, and the block is
at no earlier stage of muting. -/
theorem later_never_louder (timing : GateTiming) (counter later : UInt32) (buffer : Buffer)
    (short : buffer.length ≤ lastPosition) (order : counter ≤ later) :
    (timing.silence counter buffer).2.length = buffer.length ∧
    List.Forall₂ (fun quieter louder => quieter.loudness ≤ louder.loudness)
      (timing.silence later buffer).2 (timing.silence counter buffer).2 ∧
    (timing.silence counter buffer).1.rank ≤ (timing.silence later buffer).1.rank :=
  ⟨timing.silence_length counter buffer,
    (timing.silence_quieter counter later buffer short order).imp Sample.loudness_le,
    timing.silence_rank_mono counter later buffer short order⟩

theorem later_never_louder_noise :
    [(⟨0x7fa00001⟩ : Sample), ⟨0xff800000⟩, .one].length ≤ lastPosition ∧ (4 : UInt32) ≤ 6 ∧
      ((GateTiming.mk 2 4).silence 4 [⟨0x7fa00001⟩, ⟨0xff800000⟩, .one]).2 =
        [⟨0x7fa00001⟩, ⟨0xbf400000⟩, ⟨0x3f000000⟩] ∧
      ((GateTiming.mk 2 4).silence 6 [⟨0x7fa00001⟩, ⟨0xff800000⟩, .one]).2 =
        [.zero, ⟨0xbe800000⟩, .zero] ∧
      List.Forall₂ (fun quieter louder : Sample => quieter.loudness ≤ louder.loudness)
        [.zero, ⟨0xbe800000⟩, .zero] [⟨0x7fa00001⟩, ⟨0xbf400000⟩, ⟨0x3f000000⟩] := by
  have outputs : ((GateTiming.mk 2 4).silence 4 [⟨0x7fa00001⟩, ⟨0xff800000⟩, .one]).2 =
      [⟨0x7fa00001⟩, ⟨0xbf400000⟩, ⟨0x3f000000⟩] := by decide +kernel
  have laterOutputs : ((GateTiming.mk 2 4).silence 6 [⟨0x7fa00001⟩, ⟨0xff800000⟩, .one]).2 =
      [.zero, ⟨0xbe800000⟩, .zero] := by decide +kernel
  have quieter := (later_never_louder ⟨2, 4⟩ 4 6 [⟨0x7fa00001⟩, ⟨0xff800000⟩, .one]
    (by decide) (by decide)).2.1
  rw [outputs, laterOutputs] at quieter
  exact ⟨by decide, by decide, outputs, laterOutputs, quieter⟩

end GateTiming

end LicenseGate
