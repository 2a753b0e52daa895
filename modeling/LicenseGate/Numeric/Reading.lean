import LicenseGate.Numeric.Round
import LicenseGate.Numeric.Binary64
import LicenseGate.Numeric.Shortest

/-!
Decimals and double-precision numbers: the nearest double of a decimal, and the text of a double,
which is never in exponent form.
-/

namespace LicenseGate.Numeric.Binary64

/-- The double nearest to `numerator / denominator`, half to even. Numbers below the least normal
one are rounded on the grid of `2 ^ -1074`. -/
def ofQuotient (numerator denominator : Nat) : Binary64 :=
  let size : Int := numerator.log2 - denominator.log2
  let finest : Int := max (size - 53) (-1074)
  let scaled (exponent : Int) : Nat :=
    match exponent with
    | .ofNat up => nearest numerator (denominator <<< up)
    | .negSucc down => nearest (numerator <<< (down + 1)) denominator
  let exponent := if scaled finest ≥ 2 * fractionSize then finest + 1 else finest
  let mantissa := scaled exponent
  if exponent > 971 ∨ (exponent = 971 ∧ mantissa ≥ 2 * fractionSize) then infinity
  else ofMantissa mantissa exponent

/-- The double nearest to `digits * 10 ^ exponent`. Exponents far outside the range of doubles are
settled without computing the power. -/
def ofDecimal (number : Decimal) : Binary64 :=
  let places : Int := (Nat.toDigits 10 number.digits).length
  if number.digits = 0 ∨ places + number.exponent < -400 then ofMantissa 0 (-1074)
  else if places + number.exponent > 400 then infinity
  else match number.exponent with
    | .ofNat up => ofQuotient (number.digits * Nat.pow 10 up) 1
    | .negSucc down => ofQuotient number.digits (Nat.pow 10 (down + 1))

def magnitude (x : Binary64) : Decimal :=
  if x.mantissa = 0 then ⟨0, 0⟩
  else Decimal.shortest x.mantissa x.exponent (x.fraction == 0 && x.exponentField > 1)

def signed (x : Binary64) (text : String) : String :=
  if x.isNegative then "-" ++ text else text

def render (layout : Decimal → String) (x : Binary64) : String :=
  if x.isNaN then "NaN"
  else if x.isFinite then x.signed (layout x.magnitude)
  else x.signed "inf"

end LicenseGate.Numeric.Binary64
