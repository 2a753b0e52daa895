import LicenseGate.Instance
import Mathlib

/-!
Runs of an instance in blocks. Each block is counted and then gated, all of its buffers at the same
counter. The statistics move with every buffer; nothing that the gate reads does.
-/

namespace LicenseGate

def Gate.outcome (timing : GateTiming) (verdict : Verdict) (counter : UInt32) (buffer : Buffer) :
    GateAction × Buffer :=
  match verdict with
  | .licensed => (.passed, buffer)
  | .unlicensed => timing.silence counter buffer

theorem apply_outcome (gate : Gate) (verdict : Verdict) (counter channel : UInt32)
    (buffer : Buffer) :
    (gate.apply verdict counter channel buffer).2 =
      Gate.outcome gate.timing verdict counter buffer := by
  cases verdict <;> rfl

theorem apply_timing (gate : Gate) (verdict : Verdict) (counter channel : UInt32)
    (buffer : Buffer) : (gate.apply verdict counter channel buffer).1.timing = gate.timing := by
  cases verdict <;> rfl

structure Block where
  size : UInt32
  outputs : List Buffer
  retired : Bool := false
  filled : ∀ buffer ∈ outputs, buffer.length = size.toNat

namespace Block

def total (blocks : List Block) : Nat := (blocks.map fun block => block.size.toNat).sum

theorem total_cons (block : Block) (rest : List Block) :
    total (block :: rest) = block.size.toNat + total rest := rfl

theorem short (block : Block) (buffer : Buffer) (member : buffer ∈ block.outputs) :
    buffer.length ≤ lastPosition := by
  rw [block.filled buffer member]
  exact word_counted block.size

end Block

namespace Instance

/-- Two instances that differ at most in their statistics. -/
structure Alike (left right : Instance) : Prop where
  verdict : left.verdict = right.verdict
  runCount : left.runCount = right.runCount
  timing : left.gate.timing = right.gate.timing

theorem alike_trans (left middle right : Instance) (first : Alike left middle)
    (second : Alike middle right) : Alike left right :=
  ⟨first.verdict.trans second.verdict, first.runCount.trans second.runCount,
    first.timing.trans second.timing⟩

theorem alike_symm (left right : Instance) (same : Alike left right) : Alike right left :=
  ⟨same.verdict.symm, same.runCount.symm, same.timing.symm⟩

def outcome (plugin : Instance) (buffer : Buffer) : GateAction × Buffer :=
  Gate.outcome plugin.gate.timing plugin.verdict plugin.runCount buffer

theorem alike_outcome (left right : Instance) (same : Alike left right) (buffer : Buffer) :
    left.outcome buffer = right.outcome buffer := by
  rw [outcome, outcome, same.verdict, same.runCount, same.timing]

theorem apply_alike (plugin : Instance) (channel : UInt32) (buffer : Buffer) :
    Alike { plugin with
      gate := (plugin.gate.apply plugin.verdict plugin.runCount channel buffer).1 } plugin :=
  ⟨rfl, rfl, apply_timing _ _ _ _ _⟩

/-- Gating one buffer changes nothing for the next: each is gated as if it were alone. -/
theorem gateBuffers_exact (plugin : Instance) (channel : Nat) (outputs : List Buffer) :
    (plugin.gateBuffers channel outputs).2 = outputs.map (fun buffer => (plugin.outcome buffer).2) ∧
      Alike (plugin.gateBuffers channel outputs).1 plugin := by
  induction outputs generalizing plugin channel with
  | nil => exact ⟨rfl, rfl, rfl, rfl⟩
  | cons buffer rest ih =>
      have kept := apply_alike plugin (UInt32.ofNat channel) buffer
      obtain ⟨gated, last⟩ := ih { plugin with
        gate := (plugin.gate.apply plugin.verdict plugin.runCount (UInt32.ofNat channel) buffer).1 }
        (channel + 1)
      constructor
      -- Only the statistics have moved since the first buffer, and the gate does not read them.
      · simp only [gateBuffers, gated, List.map_cons, apply_outcome,
          alike_outcome _ plugin kept]
        rfl
      · exact alike_trans _ _ plugin last kept

def frontOutcome (plugin : Instance) (samples : Nat) (buffer : Buffer) : Buffer :=
  (plugin.outcome (buffer.take samples)).2 ++ buffer.drop samples

theorem alike_front (left right : Instance) (same : Alike left right) (samples : Nat) :
    left.frontOutcome samples = right.frontOutcome samples := by
  funext buffer
  rw [frontOutcome, frontOutcome, alike_outcome left right same]

theorem gateConnected_exact (plugin : Instance) (samples channel : Nat)
    (outputs : List (Option Buffer)) :
    (plugin.gateConnected samples channel outputs).2 =
        outputs.map (Option.map (plugin.frontOutcome samples)) ∧
      Alike (plugin.gateConnected samples channel outputs).1 plugin := by
  induction outputs generalizing plugin channel with
  | nil => exact ⟨rfl, rfl, rfl, rfl⟩
  | cons output rest ih =>
      cases output with
      | none =>
          obtain ⟨gated, last⟩ := ih plugin (channel + 1)
          exact ⟨by simp only [gateConnected, gated, List.map_cons, Option.map_none], last⟩
      | some buffer =>
          have kept := apply_alike plugin (UInt32.ofNat channel) (buffer.take samples)
          obtain ⟨gated, last⟩ := ih { plugin with
            gate := (plugin.gate.apply plugin.verdict plugin.runCount (UInt32.ofNat channel)
              (buffer.take samples)).1 } (channel + 1)
          constructor
          · simp only [gateConnected, gated, alike_front _ plugin kept, List.map_cons,
              Option.map_some, apply_outcome]
            rfl
          · exact alike_trans _ _ plugin last kept

/-- What the gate did to each of the buffers that it was given in a block. -/
def bufferActions (plugin : Instance) (channel : Nat) : List Buffer → List GateAction
  | [] => []
  | buffer :: rest =>
      let (gate, action, _) :=
        plugin.gate.apply plugin.verdict plugin.runCount (UInt32.ofNat channel) buffer
      action :: { plugin with gate }.bufferActions (channel + 1) rest

theorem bufferActions_exact (plugin : Instance) (channel : Nat) (outputs : List Buffer) :
    plugin.bufferActions channel outputs = outputs.map fun buffer => (plugin.outcome buffer).1 := by
  induction outputs generalizing plugin channel with
  | nil => rfl
  | cons buffer rest ih =>
      have kept := apply_alike plugin (UInt32.ofNat channel) buffer
      simp only [bufferActions, ih, List.map_cons, apply_outcome, alike_outcome _ plugin kept]
      rfl

def runBlock (enforcement : Enforcement) (plugin : Instance) (block : Block) :
    Instance × List Buffer :=
  let begun := plugin.runBegin block.size
  if block.retired then begun.runNoise enforcement block.outputs
  else begun.runSilence enforcement block.outputs

theorem runBlock_exact (plugin : Instance) (block : Block) :
    (plugin.runBlock .on block).2 =
        block.outputs.map (fun buffer => ((plugin.runBegin block.size).outcome buffer).2) ∧
      Alike (plugin.runBlock .on block).1 (plugin.runBegin block.size) := by
  have gated := gateBuffers_exact (plugin.runBegin block.size) 0 block.outputs
  simp only [runBlock, runNoise, runSilence]
  split <;> exact gated

theorem run_block_next (plugin : Instance) (block : Block) :
    (plugin.runBlock .on block).1.verdict = plugin.verdict ∧
      (plugin.runBlock .on block).1.gate.timing = plugin.gate.timing ∧
      (plugin.runBlock .on block).1.runCount.toNat =
        min (plugin.runCount.toNat + block.size.toNat) lastPosition := by
  have next := (runBlock_exact plugin block).2
  refine ⟨next.verdict, next.timing, ?_⟩
  rw [next.runCount, runBegin, Counter.toNat_advance]

def runOutputs (plugin : Instance) : List Block → List (List Buffer)
  | [] => []
  | block :: rest =>
      let result := plugin.runBlock .on block
      result.2 :: result.1.runOutputs rest

def runActions (plugin : Instance) : List Block → List (List GateAction)
  | [] => []
  | block :: rest =>
      (plugin.runBegin block.size).bufferActions 0 block.outputs ::
        (plugin.runBlock .on block).1.runActions rest

def runAll (plugin : Instance) : List Block → Instance
  | [] => plugin
  | block :: rest => (plugin.runBlock .on block).1.runAll rest

theorem run_all_keeps (plugin : Instance) (blocks : List Block) :
    (plugin.runAll blocks).verdict = plugin.verdict ∧
      (plugin.runAll blocks).gate.timing = plugin.gate.timing := by
  induction blocks generalizing plugin with
  | nil => exact ⟨rfl, rfl⟩
  | cons block rest ih =>
      obtain ⟨verdict, timing, -⟩ := run_block_next plugin block
      obtain ⟨lastVerdict, lastTiming⟩ := ih (plugin.runBlock .on block).1
      exact ⟨lastVerdict.trans verdict, lastTiming.trans timing⟩

theorem run_outputs_append (plugin : Instance) (before rest : List Block) :
    plugin.runOutputs (before ++ rest) =
      plugin.runOutputs before ++ (plugin.runAll before).runOutputs rest := by
  induction before generalizing plugin with
  | nil => rfl
  | cons block before ih => simp [runOutputs, runAll, ih]

theorem runOutputs_length (plugin : Instance) (blocks : List Block) :
    (plugin.runOutputs blocks).length = blocks.length := by
  induction blocks generalizing plugin with
  | nil => rfl
  | cons block rest ih => simp [runOutputs, ih]

theorem runActions_length (plugin : Instance) (blocks : List Block) :
    (plugin.runActions blocks).length = blocks.length := by
  induction blocks generalizing plugin with
  | nil => rfl
  | cons block rest ih => simp [runActions, ih]

theorem run_actions_append (plugin : Instance) (before rest : List Block) :
    plugin.runActions (before ++ rest) =
      plugin.runActions before ++ (plugin.runAll before).runActions rest := by
  induction before generalizing plugin with
  | nil => rfl
  | cons block before ih => simp [runActions, runAll, ih]

end Instance

/-- A block and the place of one channel in it, which may change from block to block. -/
structure Cut where
  block : Block
  channel : Fin block.outputs.length

namespace Cut

def fullScale (size : UInt32) : Cut :=
  ⟨⟨size, [List.replicate size.toNat .one], false, by simp⟩, ⟨0, Nat.one_pos⟩⟩

def input (cut : Cut) : Buffer := cut.block.outputs[cut.channel]

def stream (cuts : List Cut) : Buffer := cuts.flatMap input

def heard (plugin : Instance) (cuts : List Cut) : Buffer :=
  (cuts.zip (plugin.runOutputs (cuts.map Cut.block))).flatMap fun run =>
    run.2[run.1.channel.val]?.getD []

/-- What is done to a channel in a run, once for each block. -/
def actions (plugin : Instance) (cuts : List Cut) : List GateAction :=
  (cuts.zip (plugin.runActions (cuts.map Cut.block))).filterMap fun run =>
    run.2[run.1.channel.val]?

theorem stream_cons (cut : Cut) (rest : List Cut) :
    stream (cut :: rest) = cut.input ++ stream rest := rfl

theorem heard_cons (plugin : Instance) (cut : Cut) (rest : List Cut) :
    heard plugin (cut :: rest) =
      ((plugin.runBlock .on cut.block).2[cut.channel.val]?.getD []) ++
        heard (plugin.runBlock .on cut.block).1 rest := rfl

theorem actions_cons (plugin : Instance) (cut : Cut) (rest : List Cut) :
    actions plugin (cut :: rest) =
      ((plugin.runBegin cut.block.size).outcome cut.input).1 ::
        actions (plugin.runBlock .on cut.block).1 rest := by
  simp [actions, Instance.runActions, Instance.bufferActions_exact, input]

theorem input_member (cut : Cut) : cut.input ∈ cut.block.outputs := List.getElem_mem _

theorem input_length (cut : Cut) : cut.input.length = cut.block.size.toNat :=
  cut.block.filled _ cut.input_member

end Cut

end LicenseGate
