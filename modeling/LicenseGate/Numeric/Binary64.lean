/-!
Double-precision numbers given by their bits: sign, exponent and fraction fields, and the exact
value `mantissa * 2 ^ exponent` that they stand for.
-/

namespace LicenseGate.Numeric

structure Binary64 where
  bits : UInt64
  deriving DecidableEq, Repr

namespace Binary64

def fractionSize : Nat := 4503599627370496

def isNegative (x : Binary64) : Bool := x.bits.toNat / fractionSize ≥ 2048

def exponentField (x : Binary64) : Nat := x.bits.toNat / fractionSize % 2048

def fraction (x : Binary64) : Nat := x.bits.toNat % fractionSize

def isFinite (x : Binary64) : Bool := x.exponentField < 2047

def isNaN (x : Binary64) : Bool := x.exponentField == 2047 && x.fraction != 0

/-- The whole number that the exponent scales; the leading bit is implied in all but the smallest
numbers. -/
def mantissa (x : Binary64) : Nat :=
  if x.exponentField = 0 then x.fraction else fractionSize + x.fraction

def exponent (x : Binary64) : Int := (max x.exponentField 1 : Nat) - 1075

/-- The bits of the non-negative number `mantissa * 2 ^ exponent`, for an exponent of at least
-1074 and a mantissa of at most 53 bits that fills them unless the exponent is -1074. -/
def ofMantissa (mantissa : Nat) (exponent : Int) : Binary64 :=
  ⟨UInt64.ofNat ((exponent + 1074).toNat * fractionSize + mantissa)⟩

def negate (x : Binary64) : Binary64 := ⟨x.bits ^^^ 0x8000000000000000⟩

def infinity : Binary64 := ⟨0x7ff0000000000000⟩

def notANumber : Binary64 := ⟨0x7ff8000000000000⟩

end Binary64

end LicenseGate.Numeric
