import LicenseGate.Gate.Silence
import LicenseGate.Verdict

/-!
A gate with its statistics: how many buffers had which action, and how many channels were seen.
-/

namespace LicenseGate

structure GateStats where
  passed : Nat := 0
  faded : Nat := 0
  silenced : Nat := 0
  /-- One more than the highest channel seen. -/
  channels : UInt32 := 0
  deriving DecidableEq, Repr

namespace GateStats

def countAction (stats : GateStats) : GateAction → GateStats
  | .passed => { stats with passed := stats.passed + 1 }
  | .faded => { stats with faded := stats.faded + 1 }
  | .silenced => { stats with silenced := stats.silenced + 1 }

def seeChannel (stats : GateStats) (channel : UInt32) : GateStats :=
  { stats with channels := saturate (max stats.channels.toNat (channel.toNat + 1)) }

end GateStats

structure Gate where
  timing : GateTiming := GateTiming.standard
  stats : GateStats := {}
  deriving DecidableEq, Repr

namespace Gate

/-- Gates one buffer of the current block; `counter` includes the block. A licensed instance's
buffer is never touched. -/
def apply (gate : Gate) (verdict : Verdict) (counter : UInt32) (channel : UInt32)
    (buffer : Buffer) : Gate × GateAction × Buffer :=
  let (action, output) :=
    match verdict with
    | .licensed => (GateAction.passed, buffer)
    | .unlicensed => gate.timing.silence counter buffer
  ({ gate with stats := (gate.stats.seeChannel channel).countAction action }, action, output)

/-- Noise is no longer injected: it can build up to full level along a chain of plugins. What was
asked for as noise is gated like everything else. -/
def applyNoise (gate : Gate) (verdict : Verdict) (counter : UInt32) (channel : UInt32)
    (buffer : Buffer) : Gate × GateAction × Buffer :=
  gate.apply verdict counter channel buffer

end Gate

end LicenseGate
