import LicenseGate.Proofs.BlockPolicy
import LicenseGate.Proofs.InstanceRun
import LicenseGate.Proofs.SampleLimit

/-!
A run of an unlicensed instance as one stream for each channel. The position of a sample in the run
alone decides what becomes of it, so neither the cut into blocks nor the other channels are heard.
-/

namespace LicenseGate

namespace Instance

theorem run_block_policy (plugin : Instance) (block : Block)
    (unlicensed : plugin.verdict = .unlicensed)
    (counted : plugin.runCount.toNat + block.size.toNat ≤ lastPosition) :
    (plugin.runBlock .on block).2 = block.outputs.map fun buffer =>
        buffer.mapIdx fun index sample =>
          plugin.gate.timing.policy (plugin.runCount.toNat + index) sample := by
  rw [(runBlock_exact plugin block).1]
  apply List.map_congr_left
  intro buffer member
  have after : (Counter.advance plugin.runCount block.size).toNat =
      plugin.runCount.toNat + block.size.toNat := by
    rw [Counter.toNat_advance, Nat.min_eq_left counted]
  have start : GateTiming.blockStart (Counter.advance plugin.runCount block.size) buffer.length =
      plugin.runCount.toNat := by
    rw [GateTiming.blockStart, after, block.filled buffer member, Nat.add_sub_cancel]
  have gated := plugin.gate.timing.silence_pointwise
    (Counter.advance plugin.runCount block.size) buffer (block.short buffer member)
  rw [start] at gated
  simpa only [outcome, runBegin, Gate.outcome, unlicensed] using gated

theorem run_outputs_policy (plugin : Instance) (blocks : List Block)
    (unlicensed : plugin.verdict = .unlicensed)
    (counted : plugin.runCount.toNat + Block.total blocks ≤ lastPosition) (place : Nat) :
    (plugin.runOutputs blocks)[place]? = blocks[place]?.map fun block =>
      block.outputs.map fun buffer => buffer.mapIdx fun index sample =>
        plugin.gate.timing.policy
          (plugin.runCount.toNat + Block.total (blocks.take place) + index) sample := by
  induction blocks generalizing plugin place with
  | nil => rfl
  | cons block rest ih =>
      rw [Block.total_cons] at counted
      have first := run_block_policy plugin block unlicensed (by omega)
      obtain ⟨verdict, timing, runCount⟩ := run_block_next plugin block
      rw [Nat.min_eq_left (by omega)] at runCount
      cases place with
      | zero =>
          simpa [Instance.runOutputs, Block.total] using first
      | succ place =>
          have tail := ih (plugin.runBlock .on block).1 (verdict.trans unlicensed) (by omega) place
          rw [Instance.runOutputs, List.getElem?_cons_succ, List.getElem?_cons_succ, tail, timing,
            runCount, List.take_succ_cons, Block.total_cons]
          simp only [Nat.add_assoc]

end Instance

namespace Cut

theorem heard_policy (plugin : Instance) (cuts : List Cut)
    (unlicensed : plugin.verdict = .unlicensed)
    (counted : plugin.runCount.toNat + (stream cuts).length ≤ lastPosition) :
    heard plugin cuts = (stream cuts).mapIdx fun index sample =>
      plugin.gate.timing.policy (plugin.runCount.toNat + index) sample := by
  induction cuts generalizing plugin with
  | nil => rfl
  | cons cut rest ih =>
      have length : (stream (cut :: rest)).length =
          cut.block.size.toNat + (stream rest).length := by
        rw [stream_cons, List.length_append, input_length]
      have first := plugin.run_block_policy cut.block unlicensed (by omega)
      obtain ⟨verdict, timing, runCount⟩ := plugin.run_block_next cut.block
      rw [Nat.min_eq_left (by omega)] at runCount
      have tail := ih (plugin.runBlock .on cut.block).1 (verdict.trans unlicensed) (by omega)
      rw [heard_cons, first, tail, timing, runCount, stream_cons, List.mapIdx_append,
        input_length]
      congr 1
      · simp [input]
      · simp only [Nat.add_assoc, Nat.add_comm cut.block.size.toNat]

end Cut

/-- A run is heard as the policy applied position by position: every output of every block, the
policy as a limit to the envelope once the grace period is over, and one channel's stream, which is
the same from every cut of it, beside any other channels and at any place among them. -/
theorem stream_law (plugin : Instance) (unlicensed : plugin.verdict = .unlicensed) :
    (∀ blocks : List Block, plugin.runCount.toNat + Block.total blocks ≤ lastPosition →
      ∀ place : Nat, (plugin.runOutputs blocks)[place]? = blocks[place]?.map fun block =>
        block.outputs.map fun buffer => buffer.mapIdx fun index sample =>
          plugin.gate.timing.policy
            (plugin.runCount.toNat + Block.total (blocks.take place) + index) sample) ∧
    (∀ position sample,
      (position < plugin.gate.timing.grace.toNat →
        plugin.gate.timing.policy position sample = sample) ∧
      (plugin.gate.timing.grace.toNat ≤ position →
        plugin.gate.timing.policy position sample =
            sample.clamp (plugin.gate.timing.gainAt (UInt32.ofNat position)) ∧
          Sample.LimitedTo (plugin.gate.timing.gainAt (UInt32.ofNat position)) sample
            (plugin.gate.timing.policy position sample))) ∧
    (∀ (other : Instance) (cuts recut : List Cut), other.verdict = .unlicensed →
      other.gate.timing = plugin.gate.timing → other.runCount = plugin.runCount →
      plugin.runCount.toNat + (Cut.stream cuts).length ≤ lastPosition →
      Cut.stream recut = Cut.stream cuts → Cut.heard other recut = Cut.heard plugin cuts) := by
  refine ⟨fun blocks counted => plugin.run_outputs_policy blocks unlicensed counted, ?_, ?_⟩
  · intro position sample
    refine ⟨plugin.gate.timing.policy_grace position sample, fun late => ?_⟩
    have begun : ¬ position < plugin.gate.timing.grace.toNat := Nat.not_lt.mpr late
    have sign : (plugin.gate.timing.gainAt (UInt32.ofNat position)).bits.toNat < Sample.signBit :=
      Nat.lt_of_le_of_lt (GateTiming.gain_at_le_one _ _) (by decide)
    rw [GateTiming.policy, if_neg begun]
    exact ⟨rfl, Sample.clamp_limited sample _ sign⟩
  · intro other cuts recut verdict timing runCount counted same
    rw [Cut.heard_policy plugin cuts unlicensed counted,
      Cut.heard_policy other recut verdict (by rwa [same, runCount]), same, timing, runCount]

theorem stream_law_halved :
    Cut.heard (.ofVerdict .unlicensed ⟨1, 2⟩)
        [⟨⟨1, [[.zero], [.one]], false, by decide⟩, 1⟩,
          ⟨⟨0, [[], [], []], true, by decide⟩, 2⟩,
          ⟨⟨3, [[.one, .one, .one]], true, by decide⟩, 0⟩] =
      Cut.heard (.ofVerdict .unlicensed ⟨1, 2⟩)
        [⟨⟨4, [[.one, .one, .one, .one]], false, by decide⟩, 0⟩] ∧
    Cut.heard (.ofVerdict .unlicensed ⟨1, 2⟩)
        [⟨⟨4, [[.one, .one, .one, .one]], false, by decide⟩, 0⟩] =
      [.one, ⟨0x3f000000⟩, .zero, .zero] :=
  ⟨(stream_law (.ofVerdict .unlicensed ⟨1, 2⟩) rfl).2.2 (.ofVerdict .unlicensed ⟨1, 2⟩) _ _
    rfl rfl rfl (by decide) (by decide), by decide +kernel⟩

end LicenseGate
