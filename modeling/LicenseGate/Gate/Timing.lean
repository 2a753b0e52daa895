import LicenseGate.Counter
import LicenseGate.Error
import LicenseGate.Numeric.Round
import LicenseGate.Numeric.Binary64
import LicenseGate.Sample

/-!
When an unlicensed instance falls silent: a grace period, then a ramp, both in samples, and the
envelope that bounds a sample at each position. The conversion from milliseconds and the envelope
are rounded step by step as binary floating-point arithmetic rounds them.
-/

namespace LicenseGate

open Numeric

structure GateTiming where
  grace : UInt32
  fade : UInt32
  deriving DecidableEq, Repr

/-- The number of samples in `millis` milliseconds: the product with the rate and its thousandth
are each rounded to 53 bits, the result to a whole number with halves away from zero. The thousandth
is measured in units of `2 ^ (exponent - 64)`, where it fills its 53 bits. -/
def samplesIn (millis : UInt32) (rate : Binary64) : UInt32 :=
  let product := significant 53 (millis.toNat * rate.mantissa) 1
  let thousandth := significant 53 (product <<< 64) 1000
  saturate (scaleHalfUp thousandth (rate.exponent - 64))

def isUsableRate (rate : Binary64) : Bool :=
  rate.isFinite && !rate.isNegative && rate.mantissa != 0

namespace GateTiming

def hardMute : GateTiming := ⟨0, 0⟩

def ofMillis (graceMillis fadeMillis : UInt32) (rate : Binary64) : Except Error GateTiming :=
  if isUsableRate rate then .ok ⟨samplesIn graceMillis rate, samplesIn fadeMillis rate⟩
  else .error (.invalidSampleRate rate)

def silentFrom (timing : GateTiming) : UInt32 :=
  saturate (timing.grace.toNat + timing.fade.toNat)

end GateTiming

/-- The envelope is measured in units of `2 ^ -56`: the least quotient on a ramp is `2 ^ -32`, and
with 24 bits it is a whole number of them. -/
def gainShift : Nat := 56

/-- The bits of the number of units given, which has at most 24 significant bits and is at most
one. -/
def gainSample (units : Nat) : Sample :=
  if units = 0 then Sample.zero
  else
    let size := units.log2
    let mantissa := if size ≤ 23 then units <<< (23 - size) else units >>> (size - 23)
    ⟨UInt32.ofNat ((size + 126 - gainShift) <<< 23 + mantissa)⟩

/-- `1 - step / length` in units, where the two counts, their quotient and the difference are each
rounded to 24 bits. -/
def rampUnits (step length : Nat) : Nat :=
  let quotient := significant 24 (significant 24 step 1 <<< gainShift) (significant 24 length 1)
  significant 24 (1 <<< gainShift - quotient) 1

namespace GateTiming

/-- The bound on a sample's magnitude at a position: one in the grace period, zero once silent,
and between them a ramp that ends at zero. -/
def gainAt (timing : GateTiming) (position : UInt32) : Sample :=
  if position < timing.grace then Sample.one
  else
    let step := position.toNat - timing.grace.toNat
    if timing.fade.toNat ≤ step then Sample.zero
    else gainSample (rampUnits (step + 1) timing.fade.toNat)

def defaultGraceMillis : UInt32 := 0

def defaultFadeMillis : UInt32 := 10

def defaultRate : Binary64 := ⟨0x40e7700000000000⟩

def standard : GateTiming :=
  ⟨samplesIn defaultGraceMillis defaultRate, samplesIn defaultFadeMillis defaultRate⟩

end GateTiming

end LicenseGate
