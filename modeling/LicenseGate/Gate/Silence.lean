import LicenseGate.Gate.Timing

/-!
What the gate does to one buffer of an unlicensed instance. The counter already includes the block,
so the sample at index `i` of `n` stands at position `counter - n + i`.
-/

namespace LicenseGate

inductive GateAction where
  | passed
  | faded
  | silenced
  deriving DecidableEq, Repr

namespace GateTiming

/-- The sample at a position: untouched in the grace period, then limited to the envelope.
Limiting, unlike scaling, may be repeated without further effect. -/
def limit (timing : GateTiming) (position : UInt32) (sample : Sample) : Sample :=
  if position < timing.grace then sample else sample.clamp (timing.gainAt position)

def startOf (counter : UInt32) (buffer : Buffer) : UInt32 :=
  UInt32.ofNat (counter.toNat - (saturate buffer.length).toNat)

/-- Gates one buffer. A block that starts in silence is overwritten and one that ends within the
grace period is left alone; any other is limited sample by sample. -/
def silence (timing : GateTiming) (counter : UInt32) (buffer : Buffer) : GateAction × Buffer :=
  let start := startOf counter buffer
  let finish := saturate (start.toNat + (saturate buffer.length).toNat)
  if timing.silentFrom ≤ start then (.silenced, buffer.map fun _ => Sample.zero)
  else if finish ≤ timing.grace then (.passed, buffer)
  else
    (.faded, buffer.mapIdx fun index sample =>
      timing.limit (saturate (start.toNat + index)) sample)

def silenceTimes (timing : GateTiming) (counter : UInt32) :
    (times : Nat) → Buffer → List (GateAction × Buffer)
  | 0, _ => []
  | times + 1, buffer =>
      let result := timing.silence counter buffer
      result :: timing.silenceTimes counter times result.2

end GateTiming

end LicenseGate
