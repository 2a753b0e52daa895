import LicenseGate.Numeric.Reading
import LicenseGate.Text.Quoted

/-!
What can go wrong while an instance is set up. Nothing that runs per block can fail.
-/

namespace LicenseGate

open Numeric Text

inductive Error where
  | badConfig (reason : String)
  | unsupportedVersion (version : UInt32)
  | invalidSampleRate (rate : Binary64)
  | internal (reason : String)
  deriving DecidableEq, Repr

namespace Error

def code : Error → String
  | .badConfig _ => "BAD_CONFIG"
  | .unsupportedVersion _ => "UNSUPPORTED_VERSION"
  | .invalidSampleRate _ => "INVALID_SAMPLE_RATE"
  | .internal _ => "INTERNAL"

def message : Error → String
  | .badConfig reason => "bad config: " ++ reason
  | .unsupportedVersion version => "unsupported config version " ++ toString version.toNat
  | .invalidSampleRate rate => "invalid sample rate: " ++ rate.render Decimal.positional
  | .internal reason => "internal: " ++ reason

/-- The error as a failing command shows it: its kind, and what it carries in parentheses. -/
def report : Error → String
  | .badConfig reason => "BadConfig(" ++ Quoted.quote reason ++ ")"
  | .unsupportedVersion version => "UnsupportedVersion(" ++ toString version.toNat ++ ")"
  | .invalidSampleRate rate => "InvalidSampleRate(" ++ rate.render (Decimal.adaptive (-3) 16) ++ ")"
  | .internal reason => "Internal(" ++ Quoted.quote reason ++ ")"

end Error

end LicenseGate
