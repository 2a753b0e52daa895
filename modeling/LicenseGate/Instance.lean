import LicenseGate.Entitlement
import LicenseGate.FeatureArray
import LicenseGate.Gate.Stats

/-!
The licensing of one plugin instance: the verdict reached when it was made, its run counter, and
its gate. A plugin begins each run by counting the block and ends it by gating its outputs.
-/

namespace LicenseGate

structure Instance where
  verdict : Verdict
  runCount : UInt32
  gate : Gate
  deriving DecidableEq, Repr

namespace Instance

def ofVerdict (verdict : Verdict) (timing : GateTiming) : Instance := ⟨verdict, 0, { timing }⟩

/-- Checks the entitlements against the host, once. Without enforcement nothing is checked. -/
def new (enforcement : Enforcement) (capabilities : CapabilityList) (entitlements : List String)
    (timing : GateTiming) : Instance :=
  match enforcement with
  | .on => ofVerdict (capabilities.evaluate entitlements) timing
  | .off => ofVerdict .licensed timing

def newCalls (enforcement : Enforcement) (capabilities : CapabilityList)
    (entitlements : List String) : List Call :=
  match enforcement with
  | .on => capabilities.evaluateCalls entitlements
  | .off => []

def ofFeatures (enforcement : Enforcement) (features : Option (List (Option RawFeature)))
    (entitlements : List String) (timing : GateTiming) : Instance :=
  new enforcement (CapabilityList.ofArray features) entitlements timing

def ofFeaturesCalls (enforcement : Enforcement) (features : Option (List (Option RawFeature)))
    (entitlements : List String) : List Call :=
  newCalls enforcement (CapabilityList.ofArray features) entitlements

def isLicensed (plugin : Instance) : Bool := plugin.verdict.isLicensed

def runBegin (plugin : Instance) (samples : UInt32) : Instance :=
  { plugin with runCount := Counter.advance plugin.runCount samples }

/-- Gates the buffers of one block in order, the first of them being that of `channel`. -/
def gateBuffers (plugin : Instance) (channel : Nat) : List Buffer → Instance × List Buffer
  | [] => (plugin, [])
  | buffer :: rest =>
      let (gate, _, output) :=
        plugin.gate.apply plugin.verdict plugin.runCount (UInt32.ofNat channel) buffer
      let (last, outputs) := { plugin with gate }.gateBuffers (channel + 1) rest
      (last, output :: outputs)

def runSilence (enforcement : Enforcement) (plugin : Instance) (outputs : List Buffer) :
    Instance × List Buffer :=
  match enforcement with
  | .on => plugin.gateBuffers 0 outputs
  | .off => (plugin, outputs)

def runNoise (enforcement : Enforcement) (plugin : Instance) (outputs : List Buffer) :
    Instance × List Buffer :=
  plugin.runSilence enforcement outputs

def gateConnected (plugin : Instance) (samples : Nat) (channel : Nat) :
    List (Option Buffer) → Instance × List (Option Buffer)
  | [] => (plugin, [])
  | none :: rest =>
      let (last, outputs) := plugin.gateConnected samples (channel + 1) rest
      (last, none :: outputs)
  | some buffer :: rest =>
      let (gate, _, output) :=
        plugin.gate.apply plugin.verdict plugin.runCount (UInt32.ofNat channel)
          (buffer.take samples)
      let (last, outputs) := { plugin with gate }.gateConnected samples (channel + 1) rest
      (last, some (output ++ buffer.drop samples) :: outputs)

/-- `runSilence` for outputs that may be unconnected and may hold more than the block. -/
def runSilenceConnected (enforcement : Enforcement) (plugin : Instance)
    (outputs : List (Option Buffer)) (samples : UInt32) : Instance × List (Option Buffer) :=
  match enforcement with
  | .on => plugin.gateConnected samples.toNat 0 outputs
  | .off => (plugin, outputs)

inductive Step where
  | runBegin (samples : UInt32)
  | runSilence (outputs : List Buffer)
  | runNoise (outputs : List Buffer)
  | runSilenceConnected (outputs : List (Option Buffer)) (samples : UInt32)
  deriving DecidableEq, Repr

def step (enforcement : Enforcement) (plugin : Instance) :
    Step → Instance × List (Option Buffer)
  | .runBegin samples => (plugin.runBegin samples, [])
  | .runSilence outputs =>
      let (next, gated) := plugin.runSilence enforcement outputs
      (next, gated.map some)
  | .runNoise outputs =>
      let (next, gated) := plugin.runNoise enforcement outputs
      (next, gated.map some)
  | .runSilenceConnected outputs samples => plugin.runSilenceConnected enforcement outputs samples

def run (enforcement : Enforcement) (plugin : Instance) :
    List Step → List (Instance × List (Option Buffer))
  | [] => []
  | step :: rest =>
      let result := plugin.step enforcement step
      result :: result.1.run enforcement rest

end Instance

end LicenseGate
