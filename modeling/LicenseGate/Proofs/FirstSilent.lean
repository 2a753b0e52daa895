import LicenseGate.Proofs.BlockPolicy
import LicenseGate.Proofs.RampSteps

/-!
The position that a timing gives as its first silent one, against its envelope. The sum of the two
counts is saturated there and nowhere in the envelope, so the two agree only where positions reach
past the ramp.
-/

namespace LicenseGate.GateTiming

/-- From the position given on the envelope is shut, as long as the ramp ends within the positions
that there are. Of a ramp that does not, the last position is given, and the envelope there is what
is left of the ramp. -/
theorem silent_from_reached (timing : GateTiming) (position : UInt32)
    (reached : timing.silentFrom ≤ position) :
    (timing.grace.toNat + timing.fade.toNat ≤ lastPosition + 1 →
      timing.gainAt position = Sample.zero) ∧
    (lastPosition + 1 < timing.grace.toNat + timing.fade.toNat →
      position.toNat = lastPosition ∧ timing.gainAt position =
        gainSample (rampUnits (lastPosition + 1 - timing.grace.toNat) timing.fade.toNat)) := by
  have counted := word_counted position
  have grace := word_counted timing.grace
  rw [UInt32.le_iff_toNat_le, silent_from_to_nat] at reached
  constructor
  · intro ends
    rcases Nat.lt_or_ge position.toNat (timing.grace.toNat + timing.fade.toNat) with inside | past
    -- The sum is one more than the last position, so this is the last sample of the ramp.
    · exact timing.gain_at_last position (by omega) (by omega)
    · exact timing.gain_at_silent position past
  · intro overflows
    have last : position.toNat = lastPosition := by omega
    have steps : position.toNat - timing.grace.toNat + 1 =
        lastPosition + 1 - timing.grace.toNat := by omega
    exact ⟨last, by rw [timing.gain_at_ramp position (by omega) (by omega), steps]⟩

theorem silent_from_reached_last :
    silentFrom ⟨4294967290, 6⟩ ≤ 4294967295 ∧
      gainAt ⟨4294967290, 6⟩ 4294967295 = Sample.zero ∧
      silentFrom ⟨4294967292, 8⟩ ≤ 4294967295 ∧
      gainAt ⟨4294967292, 8⟩ 4294967295 = ⟨0x3f000000⟩ := by
  have half := ((silent_from_reached ⟨4294967292, 8⟩ 4294967295 (by decide)).2 (by decide)).2
  refine ⟨by decide, (silent_from_reached _ _ (by decide)).1 (by decide), by decide, ?_⟩
  rw [half]
  decide +kernel

theorem silent_from_inside_ramp :
    ¬ ∀ (graceMillis fadeMillis : UInt32) (timing : GateTiming) (position : UInt32),
      ofMillis graceMillis fadeMillis defaultRate = .ok timing → timing.silentFrom ≤ position →
      timing.gainAt position = Sample.zero := by
  intro consistent
  have resolved : ofMillis 4294967295 4294967295 defaultRate =
      .ok ⟨4294967295, 4294967295⟩ := by decide +kernel
  have silent := consistent _ _ _ 4294967295 resolved (by decide)
  have loud : gainAt ⟨4294967295, 4294967295⟩ 4294967295 = Sample.one := by decide +kernel
  rw [loud] at silent
  exact absurd silent (by decide)

end LicenseGate.GateTiming
