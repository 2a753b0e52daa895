import LicenseGate.Error
import LicenseGate.Gate.Timing
import LicenseGate.Text.Blank

/-!
The gate policy of a plugin: when unlicensed audio is silenced, and which entitlements are checked
besides the plugin's own. Settings have a version and limits.
-/

namespace LicenseGate

open Numeric Text

structure GateSettings where
  graceMillis : UInt32 := GateTiming.defaultGraceMillis
  fadeMillis : UInt32 := GateTiming.defaultFadeMillis
  deriving DecidableEq, Repr

namespace GateSettings

def graceLimit : Nat := 600000

def fadeLimit : Nat := 1000

def validate (gate : GateSettings) : Except Error Unit :=
  if graceLimit < gate.graceMillis.toNat then
    .error (.badConfig "gate.grace_ms must be between 0 and 600000")
  else if fadeLimit < gate.fadeMillis.toNat then
    .error (.badConfig "gate.fade_ms must be between 0 and 1000")
  else .ok ()

def timing (gate : GateSettings) (rate : Binary64) : Except Error GateTiming :=
  GateTiming.ofMillis gate.graceMillis gate.fadeMillis rate

end GateSettings

structure Settings where
  version : UInt32 := 1
  gate : GateSettings := {}
  entitlements : List String := []
  deriving DecidableEq, Repr

namespace Settings

def hasBlank (entitlements : List String) : Bool :=
  entitlements.any fun entitlement => isBlank entitlement.toList

/-- A version other than 1 outweighs every other fault. -/
def validate (settings : Settings) : Except Error Unit :=
  if settings.version ≠ 1 then .error (.unsupportedVersion settings.version)
  else if hasBlank settings.entitlements then
    .error (.badConfig "entitlements must not contain empty uris")
  else settings.gate.validate

end Settings

end LicenseGate
