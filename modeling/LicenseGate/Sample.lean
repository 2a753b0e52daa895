import LicenseGate.Numeric.Shortest

/-!
Audio samples: single-precision numbers given by their bits, so that what a gate leaves alone keeps
every bit. All the gate needs is a sample's sign and the order of magnitudes, and magnitudes are
ordered as their bits are.
-/

namespace LicenseGate

open Numeric

structure Sample where
  bits : UInt32
  deriving DecidableEq, Repr

namespace Sample

def zero : Sample := ⟨0⟩

def one : Sample := ⟨0x3f800000⟩

def signBit : Nat := 2147483648

/-- The bits without the sign; every NaN lies above infinity. -/
def magnitude (sample : Sample) : Nat := sample.bits.toNat % signBit

def isNegative (sample : Sample) : Bool := signBit ≤ sample.bits.toNat

def infinite : Nat := 0x7f800000

def isNaN (sample : Sample) : Bool := infinite < sample.magnitude

def withMagnitude (sample : Sample) (magnitude : Nat) : Sample :=
  ⟨UInt32.ofNat (if sample.isNegative then signBit + magnitude else magnitude)⟩

/-- Limits a sample to `[-bound, bound]`. A NaN, or a bound of zero, gives a plain zero. -/
def clamp (sample bound : Sample) : Sample :=
  if sample.isNaN ∨ bound.magnitude = 0 then zero
  else if bound.magnitude < sample.magnitude then sample.withMagnitude bound.magnitude
  else sample

def fractionSize : Nat := 8388608

def decimal (sample : Sample) : Decimal :=
  let field := sample.magnitude / fractionSize
  let fraction := sample.magnitude % fractionSize
  if sample.magnitude = 0 then ⟨0, 0⟩
  else if field = 0 then Decimal.shortest fraction (-149) false
  else Decimal.shortest (fractionSize + fraction) (field - 150) (fraction == 0 && field > 1)

end Sample

abbrev Buffer := List Sample

end LicenseGate
