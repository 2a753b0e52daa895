/-!
Rounding to the nearest value, half to even, in exact natural arithmetic. A binary floating-point
result is the exact quotient rounded to a number of significant bits; callers choose the unit in
which they measure so that a result is a whole number of units.
-/

namespace LicenseGate.Numeric

/-- The whole number nearest to `numerator / denominator`; of two equally near, the even one. -/
def nearest (numerator denominator : Nat) : Nat :=
  let whole := numerator / denominator
  let twice := 2 * (numerator % denominator)
  if twice < denominator ∨ (twice = denominator ∧ whole % 2 = 0) then whole else whole + 1

def excess (precision value : Nat) : Nat := value.log2 + 1 - precision

/-- `numerator / denominator` rounded to `precision` significant bits, for a quotient that is a
whole number or has at least that many bits before the point. -/
def significant (precision numerator denominator : Nat) : Nat :=
  let shift := excess precision (numerator / denominator)
  nearest numerator (denominator <<< shift) <<< shift

def scaleHalfUp (value : Nat) (scale : Int) : Nat :=
  match scale with
  | .ofNat shift => value <<< shift
  | .negSucc shift => (value + 1 <<< shift) >>> (shift + 1)

end LicenseGate.Numeric
