/-!
The licensing outcome of an instance, and whether licensing is enforced at all.
-/

namespace LicenseGate

inductive Verdict where
  | licensed
  | unlicensed
  deriving DecidableEq, Repr

namespace Verdict

def ofBool (licensed : Bool) : Verdict := if licensed then .licensed else .unlicensed

def isLicensed : Verdict → Bool
  | .licensed => true
  | .unlicensed => false

def name : Verdict → String
  | .licensed => "licensed"
  | .unlicensed => "unlicensed"

theorem isLicensed_ofBool (licensed : Bool) : (ofBool licensed).isLicensed = licensed := by
  cases licensed <;> rfl

end Verdict

/-- A library built without enforcement takes every instance for licensed and touches no audio. -/
inductive Enforcement where
  | on
  | off
  deriving DecidableEq, Repr

end LicenseGate
