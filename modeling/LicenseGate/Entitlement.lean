import LicenseGate.Capability
import LicenseGate.Verdict

/-!
Checking entitlements, and the verdict that an instance keeps. A host without a licensing service
licenses everything, and so does having no entitlement to check. Otherwise entitlements are checked
in order until one passes.
-/

namespace LicenseGate

/-- The items that a search asks about: those up to and including the first that passes. -/
def askedUntil (passes : α → Bool) : List α → List α
  | [] => []
  | item :: rest => if passes item then [item] else item :: askedUntil passes rest

namespace Verdict

def ofChecks (passes : α → Bool) (items : List α) : Verdict :=
  if items.isEmpty then .licensed else ofBool (items.any passes)

end Verdict

namespace CapabilityList

def check (capabilities : CapabilityList) (entitlement : String) : Bool :=
  match capabilities.licensing with
  | none => true
  | some service => service.accepts entitlement

def checkCalls (capabilities : CapabilityList) (entitlement : String) : List Call :=
  match capabilities.licensing with
  | none => []
  | some service => service.callsFor entitlement

def evaluate (capabilities : CapabilityList) (entitlements : List String) : Verdict :=
  Verdict.ofChecks capabilities.check entitlements

def evaluateCalls (capabilities : CapabilityList) (entitlements : List String) : List Call :=
  (askedUntil capabilities.check entitlements).flatMap capabilities.checkCalls

end CapabilityList

end LicenseGate
