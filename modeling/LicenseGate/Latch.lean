import LicenseGate.Entitlement
import LicenseGate.Extension
import LicenseGate.FeatureArray
import LicenseGate.Gate.Silence

/-!
Licensing for hosts that keep no object per instance: callers hold their own run counter, and the
outcome of the latest check holds for the whole process. Until a check is made everything is
permitted. A plugin checks its own URI, then its collections, and stops at the first that passes, so
for one instance the latest check is its verdict.
-/

namespace LicenseGate

open Text

inductive Latch where
  | unchecked
  | unlicensed
  | licensed
  deriving DecidableEq, Repr

namespace Latch

def ofBool (passed : Bool) : Latch := if passed then .licensed else .unlicensed

/-- The outcome of a check of a URI in bytes, `none` being a null pointer. Without a readable URI it
fails and no call is made. -/
def checkOutcome (enforcement : Enforcement) (features : Option (List (Option RawFeature)))
    (uri : Option (List UInt8)) : Bool × List Call :=
  match enforcement with
  | .off => (true, [])
  | .on =>
      match uri.bind Utf8.decode with
      | none => (false, [])
      | some text =>
          let capabilities := CapabilityList.ofArray features
          let entitlement := String.ofList text
          (capabilities.check entitlement, capabilities.checkCalls entitlement)

def runBegin (runCount samples : UInt32) : UInt32 := Counter.advance runCount samples

/-- Silences the first `samples` samples of a buffer if the latest check failed. No rate is known
here, so the timing is the standard one. -/
def runSilence (latch : Latch) (runCount : UInt32) (samples : UInt32) (buffer : Buffer) : Buffer :=
  match latch with
  | .unlicensed =>
      (GateTiming.standard.silence runCount (buffer.take samples.toNat)).2
        ++ buffer.drop samples.toNat
  | .unchecked | .licensed => buffer

inductive Request where
  | check (features : Option (List (Option RawFeature))) (uri : Option (List UInt8))
  | runBegin (runCount samples : UInt32)
  | runSilence (runCount : UInt32) (buffer : Option Buffer) (samples channel : UInt32)
  | runNoise (runCount : UInt32) (buffer : Option Buffer) (samples channel : UInt32)
  | interface (uri : Option (List UInt8))
  | version
  | read

inductive Reply where
  | checked (passed : Bool) (calls : List Call)
  | counted (runCount : UInt32)
  | gated (buffer : Option Buffer)
  | found (extension : Option Extension)
  | version (text : String)
  | nothing
  deriving DecidableEq, Repr

def serve (enforcement : Enforcement) (latch : Latch) : Request → Latch × Reply
  | .check features uri =>
      let (passed, calls) := checkOutcome enforcement features uri
      (ofBool passed, .checked passed calls)
  | .runBegin runCount samples => (latch, .counted (runBegin runCount samples))
  | .runSilence runCount buffer samples _ | .runNoise runCount buffer samples _ =>
      (latch, .gated (buffer.map (latch.runSilence runCount samples)))
  | .interface uri => (latch, .found (uri.bind Extension.lookupBytes))
  | .version => (latch, .version libraryVersion)
  | .read => (latch, .nothing)

def serveAll (enforcement : Enforcement) (latch : Latch) : List Request → List (Latch × Reply)
  | [] => []
  | request :: rest =>
      let result := latch.serve enforcement request
      result :: result.1.serveAll enforcement rest

end Latch

end LicenseGate
