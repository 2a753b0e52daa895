import LicenseGate.Instance
import LicenseGate.Settings.Load

/-!
One second of a plugin instance, run offline: full-scale stereo in blocks, gated as a plugin would
gate it, and a summary of what was heard.
-/

namespace LicenseGate.Simulation

def blockSize : Nat := 256

def sampleRate : Nat := 48000

def blockCount : Nat := sampleRate / blockSize

def pluginUri : String := "urn:modla:sim"

structure Arguments where
  licensed : Bool := false
  path : Option String := none
  deriving DecidableEq, Repr

namespace Arguments

/-- `--licensed` may stand anywhere; of other arguments the last is the path. -/
def read (arguments : Arguments) (word : String) : Arguments :=
  if word = "--licensed" then { arguments with licensed := true }
  else { arguments with path := some word }

def ofList (words : List String) : Arguments := words.foldl read {}

end Arguments

structure Heard where
  firstSilent : Option UInt32 := none
  peak : Sample := Sample.zero
  deriving DecidableEq, Repr

namespace Heard

def silentIndex? (left right : Buffer) : Option Nat :=
  (left.zip right).findIdx? fun pair => pair.1.magnitude = 0 ∧ pair.2.magnitude = 0

/-- What is no number is not heard. -/
def louder (peak : Nat) (sample : Sample) : Nat :=
  if sample.isNaN then peak else max peak sample.magnitude

def peakOf (samples : List Sample) : Sample := ⟨UInt32.ofNat (samples.foldl louder 0)⟩

def listen (heard : Heard) (start : UInt32) (left right : Buffer) : Heard where
  firstSilent := heard.firstSilent.or
    ((silentIndex? left right).map fun index => UInt32.ofNat (start.toNat + index))
  peak := peakOf (left ++ right)

end Heard

def fullScale : List Buffer :=
  [List.replicate blockSize Sample.one, List.replicate blockSize ⟨0xbf800000⟩]

def runBlock (enforcement : Enforcement) (plugin : Instance) (heard : Heard) : Instance × Heard :=
  let start := plugin.runCount
  let (plugin, outputs) :=
    (plugin.runBegin (UInt32.ofNat blockSize)).runSilence enforcement fullScale
  match outputs with
  | [left, right] => (plugin, heard.listen start left right)
  | _ => (plugin, heard)

def runBlocks (enforcement : Enforcement) : (count : Nat) → Instance → Heard → Instance × Heard
  | 0, plugin, heard => (plugin, heard)
  | count + 1, plugin, heard =>
      let (plugin, heard) := runBlock enforcement plugin heard
      runBlocks enforcement count plugin heard

structure Summary where
  licensed : Bool
  runCount : UInt32
  blocks : Nat
  firstSilent : Option UInt32
  peak : Sample
  deriving DecidableEq, Repr

namespace Summary

def text (summary : Summary) : String :=
  let position := match summary.firstSilent with
    | none => "null"
    | some position => toString position.toNat
  String.intercalate "\n" [
    "\x7b",
    "  \"licensed\": " ++ (if summary.licensed then "true" else "false") ++ ",",
    "  \"run_count\": " ++ toString summary.runCount.toNat ++ ",",
    "  \"blocks\": " ++ toString summary.blocks ++ ",",
    "  \"first_silent_sample\": " ++ position ++ ",",
    "  \"peak_last_block\": " ++ summary.peak.decimal.adaptive (-5) 13,
    "\x7d\n"]

end Summary

/-- Runs a second with the given settings, against a host that licenses all or nothing. -/
def run (enforcement : Enforcement) (licensed : Bool) (settings : Settings) :
    Except Error Summary :=
  (settings.gate.timing GateTiming.defaultRate).map fun timing =>
    let host := Service.asking 0 fun _ => licensed
    let plugin := Instance.new enforcement [Capability.licensing host]
      (pluginUri :: settings.entitlements) timing
    let (plugin, heard) := runBlocks enforcement blockCount plugin {}
    ⟨plugin.isLicensed, plugin.runCount, blockCount, heard.firstSilent, heard.peak⟩

structure Outcome where
  status : UInt32
  output : String
  errors : String
  deriving DecidableEq, Repr

def settingsFor (arguments : Arguments) (files : Files) : Except Error Settings :=
  match arguments.path with
  | none => .ok {}
  | some path => Settings.ofFile files path

def command (enforcement : Enforcement) (words : List String) (files : Files) : Outcome :=
  let arguments := Arguments.ofList words
  let result := do
    let settings ← settingsFor arguments files
    run enforcement arguments.licensed settings
  match result with
  | .ok summary => ⟨0, summary.text, ""⟩
  | .error error => ⟨1, "", "Error: " ++ error.report ++ "\n"⟩

end LicenseGate.Simulation
