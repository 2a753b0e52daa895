import LicenseGate.Proofs.MutingOrder
import LicenseGate.Proofs.SampleCount
import LicenseGate.Proofs.Validation

/-!
Settings that are accepted mute an unlicensed instance for good. Their limits keep the first silent
position so far below the last one that even a saturated counter tells that it is past.
-/

namespace LicenseGate

open Numeric

def highestRate : ℚ := 7000000

def longestBlock : Nat := 2 ^ 26

theorem accepted_timing (settings : Settings) (rate : Binary64)
    (valid : settings.validate = .ok ()) (finite : rate.isFinite = true)
    (positive : 0 < rate.value) (bounded : rate.value ≤ highestRate) :
    ∃ timing, settings.gate.timing rate = .ok timing ∧
      timing.grace.toNat + timing.fade.toNat + longestBlock ≤ lastPosition := by
  obtain ⟨-, -, grace, fade⟩ := (Settings.validate_iff settings).mp valid
  have usable := (usable_rate_iff rate).mpr ⟨finite, positive⟩
  have perMilli : rate.value ≤ (7000 : Nat) * 1000 := by
    rw [highestRate] at bounded
    norm_num
    exact bounded
  simp only [GateSettings.graceLimit, GateSettings.fadeLimit] at grace fade
  have graceSamples := samples_in_le settings.gate.graceMillis rate 7000 (by decide) positive
    perMilli
  have fadeSamples := samples_in_le settings.gate.fadeMillis rate 7000 (by decide) positive
    perMilli
  refine ⟨_, if_pos usable, ?_⟩
  simp only [longestBlock, lastPosition]
  omega

/-- With settings that are accepted and any rate in use, the gate falls silent and stays so, also
once the run counter has saturated. -/
theorem accepted_settings_mute (text : List Char) (settings : Settings) (rate : Binary64)
    (accepted : Settings.ofText text = .ok settings) (finite : rate.isFinite = true)
    (positive : 0 < rate.value) (bounded : rate.value ≤ highestRate) :
    ∃ timing, settings.gate.timing rate = .ok timing ∧
      timing.grace.toNat + timing.fade.toNat < 2 ^ 32 ∧
      timing.silentFrom.toNat = timing.grace.toNat + timing.fade.toNat ∧
      (∀ position, timing.silentFrom ≤ position → timing.gainAt position = Sample.zero) ∧
      (∀ buffer : Buffer, buffer.length ≤ longestBlock →
        timing.silence (UInt32.ofNat lastPosition) buffer =
          (.silenced, List.replicate buffer.length Sample.zero)) ∧
      (∀ (plugin : Instance) (blocks : List Block), plugin.verdict = .unlicensed →
        plugin.gate.timing = timing → timing.silentFrom ≤ plugin.runCount →
        (∀ block ∈ blocks, block.size.toNat ≤ longestBlock) →
        plugin.runOutputs blocks = blocks.map fun block => block.outputs.map fun buffer =>
          List.replicate buffer.length Sample.zero) := by
  obtain ⟨-, valid⟩ := (Settings.of_text_iff text settings).mp accepted
  obtain ⟨timing, resolved, room⟩ := accepted_timing settings rate valid finite positive bounded
  have silent : timing.silentFrom.toNat = timing.grace.toNat + timing.fade.toNat := by
    rw [timing.silent_from_to_nat]
    omega
  refine ⟨timing, resolved, ?_, silent, ?_, ?_, ?_⟩
  · simp only [lastPosition, longestBlock] at room
    omega
  · intro position past
    apply timing.gain_at_silent
    rwa [← silent, ← UInt32.le_iff_toNat_le]
  · intro buffer short
    have counted : buffer.length ≤ lastPosition := by omega
    have overwritten := timing.silence_overwrites (UInt32.ofNat lastPosition) buffer counted (by
      rw [GateTiming.blockStart, to_nat_of_counted lastPosition (Nat.le_refl _), silent]
      omega)
    rw [overwritten, List.map_const']
  · intro plugin blocks unlicensed same reached short
    subst same
    have fits (block : Block) (member : block ∈ blocks) : block.Fits plugin.gate.timing := by
      have size := short block member
      rw [Block.Fits, silent]
      omega
    have muted := (plugin.run_reached blocks unlicensed fits
      (UInt32.le_iff_toNat_le.mp reached)).1
    simpa only [List.map_const'] using muted

theorem accepted_settings_mute_widest :
    Settings.ofText "version: 1\ngate:\n  grace_ms: 600000\n  fade_ms: 1000\n".toList =
        .ok ⟨1, ⟨600000, 1000⟩, []⟩ ∧
      (⟨0x415ab3f000000000⟩ : Binary64).isFinite = true ∧
      0 < (⟨0x415ab3f000000000⟩ : Binary64).value ∧
      (⟨0x415ab3f000000000⟩ : Binary64).value ≤ highestRate ∧
      ∃ timing, GateSettings.timing ⟨600000, 1000⟩ ⟨0x415ab3f000000000⟩ = .ok timing ∧
        timing.silence (UInt32.ofNat lastPosition) [Sample.one] = (.silenced, [Sample.zero]) := by
  have text : Settings.ofText "version: 1\ngate:\n  grace_ms: 600000\n  fade_ms: 1000\n".toList =
      .ok ⟨1, ⟨600000, 1000⟩, []⟩ := by cbv
  have finite : (⟨0x415ab3f000000000⟩ : Binary64).isFinite = true := by decide
  have positive : 0 < (⟨0x415ab3f000000000⟩ : Binary64).value :=
    (Binary64.value_positive_iff _).mpr (by decide)
  have bounded : (⟨0x415ab3f000000000⟩ : Binary64).value ≤ highestRate := by
    rw [Binary64.value_of_positive _ positive, highestRate]
    have mantissa : (⟨0x415ab3f000000000⟩ : Binary64).mantissa = 7000000 * 2 ^ 30 := by decide
    have exponent : (⟨0x415ab3f000000000⟩ : Binary64).exponent = -30 := by decide
    rw [mantissa, exponent]
    norm_num
  obtain ⟨timing, resolved, -, -, -, silenced, -⟩ :=
    accepted_settings_mute _ _ _ text finite positive bounded
  exact ⟨text, finite, positive, bounded, timing, resolved, silenced [Sample.one] (by decide)⟩

end LicenseGate
