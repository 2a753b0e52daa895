/-!
The shortest decimal that reads back as a given binary number. The reals that round to the number
form an interval; of all powers of ten, the largest with a multiple in that interval gives the
fewest digits, and the multiple nearest to the number is taken.
-/

namespace LicenseGate.Numeric

structure Decimal where
  digits : Nat
  exponent : Int
  deriving DecidableEq, Repr

/-- The reals that round to one binary number, over a common denominator. The ends belong to the
interval when the number's mantissa is even. -/
structure Interval where
  low : Nat
  middle : Nat
  high : Nat
  denominator : Nat
  closed : Bool

namespace Interval

/-- The reals that round to `mantissa * 2 ^ exponent`. Below a power of two the neighbours are
half as far apart, which `narrow` says. -/
def around (mantissa : Nat) (exponent : Int) (narrow : Bool) : Interval :=
  let low := if narrow then 4 * mantissa - 1 else 4 * mantissa - 2
  let closed := mantissa % 2 == 0
  match exponent - 2 with
  | .ofNat shift =>
      ⟨low <<< shift, (4 * mantissa) <<< shift, (4 * mantissa + 2) <<< shift, 1, closed⟩
  | .negSucc shift => ⟨low, 4 * mantissa, 4 * mantissa + 2, 1 <<< (shift + 1), closed⟩

def contains (interval : Interval) (point : Nat) : Bool :=
  if interval.closed then interval.low ≤ point && point ≤ interval.high
  else interval.low < point && point < interval.high

def nearestMultiple (interval : Interval) (step : Nat) : Option Nat :=
  let below := interval.middle / step
  let above := below + 1
  match interval.contains (below * step), interval.contains (above * step) with
  | true, true =>
      if interval.middle - below * step < above * step - interval.middle then some below
      else some above
  | true, false => some below
  | false, true => some above
  | false, false => none

def onGrid (interval : Interval) (power : Int) : Option Nat :=
  match power with
  | .ofNat up => interval.nearestMultiple (interval.denominator * Nat.pow 10 up)
  | .negSucc down =>
      let factor := Nat.pow 10 (down + 1)
      { interval with
        low := interval.low * factor
        middle := interval.middle * factor
        high := interval.high * factor }.nearestMultiple interval.denominator

def shortestFrom (interval : Interval) : (attempts : Nat) → (power : Int) → Decimal
  | 0, _ => ⟨0, 0⟩
  | attempts + 1, power =>
      match interval.onGrid power with
      | some digits => ⟨digits, power⟩
      | none => interval.shortestFrom attempts (power - 1)

end Interval

namespace Decimal

/-- The fewest digits that read back as `mantissa * 2 ^ exponent`. No double needs a power of ten
below -340. -/
def shortest (mantissa : Nat) (exponent : Int) (narrow : Bool) : Decimal :=
  let interval := Interval.around mantissa exponent narrow
  let places := (Nat.toDigits 10 (interval.high / interval.denominator)).length
  interval.shortestFrom (places + 340) places

def positional (number : Decimal) : String :=
  let digits := Nat.toDigits 10 number.digits
  match number.exponent with
  | .ofNat zeros => String.ofList (digits ++ List.replicate zeros '0')
  | .negSucc down =>
      let places := down + 1
      let padded := List.replicate (places + 1 - digits.length) '0' ++ digits
      let whole := padded.length - places
      String.ofList (padded.take whole ++ '.' :: padded.drop whole)

def withPoint (number : Decimal) : String :=
  match number.exponent with
  | .ofNat _ => number.positional ++ ".0"
  | .negSucc _ => number.positional

def scientific (number : Decimal) : String :=
  let digits := Nat.toDigits 10 number.digits
  let part := digits.drop 1
  let point := if part.isEmpty then [] else ['.']
  String.ofList (digits.take 1 ++ (point ++ part)) ++ "e" ++
    toString (number.exponent + part.length)

/-- The digits before the point; of a number below a tenth, the zeros behind it, counted down. -/
def places (number : Decimal) : Int := (Nat.toDigits 10 number.digits).length + number.exponent

/-- A number whose places are outside the limits is given by its power of ten. -/
def adaptive (least most : Int) (number : Decimal) : String :=
  if least ≤ number.places ∧ number.places ≤ most then number.withPoint else number.scientific

end Decimal

end LicenseGate.Numeric
