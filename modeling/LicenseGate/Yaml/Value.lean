import LicenseGate.Numeric.Reading
import LicenseGate.Yaml.Scalar

/-!
What a scalar's text means: nothing, a truth value, a number, or just text. Only plain scalars mean
more than text, unless a tag says so.
-/

namespace LicenseGate.Yaml

open Numeric

/-- The bits of the integers that numbers are first read as, and of those tried after them. -/
inductive Width where
  | normal
  | wide
  deriving DecidableEq, Repr

namespace Width

def largest : Width → Nat
  | .normal => 18446744073709551615
  | .wide => 340282366920938463463374607431768211455

def least : Width → Nat
  | .normal => 9223372036854775808
  | .wide => 170141183460469231731687303715884105728

end Width

inductive Value where
  | nothing
  | boolean (value : Bool)
  | natural (width : Width) (value : Nat)
  | negative (width : Width) (magnitude : Nat)
  | float (value : Binary64)
  | text (value : List Char)
  deriving DecidableEq, Repr

def digits? (radix : Nat) (text : List Char) : Option Nat :=
  let step (value : Option Nat) (c : Char) : Option Nat :=
    value.bind fun value =>
      (hexValue? c).bind fun digit => if digit < radix then some (value * radix + digit) else none
  if text.isEmpty then none else text.foldl step (some 0)

def digitsUpTo? (limit radix : Nat) (text : List Char) : Option Nat :=
  (digits? radix text).filter (· ≤ limit)

def isSign (c : Char) : Bool := c == '+' || c == '-'

/-- More than one digit, the first a zero, perhaps signed: such a text is no number. -/
def isPaddedNumber (text : List Char) : Bool :=
  let digits := match text with
    | c :: rest => if isSign c then rest else text
    | [] => []
  1 < digits.length && digits.head? == some '0' && digits.all Char.isDigit

def withoutPlus : List Char → List Char
  | '+' :: rest => rest
  | text => text

def radixForm? : List Char → Option (Nat × List Char)
  | '0' :: 'x' :: rest => some (16, rest)
  | '0' :: 'o' :: rest => some (8, rest)
  | '0' :: 'b' :: rest => some (2, rest)
  | _ => none

def natural? (limit : Nat) (text : List Char) : Option Nat :=
  let unsigned := withoutPlus text
  match radixForm? unsigned with
  | some (radix, digits) => digitsUpTo? limit radix digits
  | none => if isPaddedNumber text then none else digitsUpTo? limit 10 unsigned

def negative? (limit : Nat) : List Char → Option Nat
  | '-' :: unsigned =>
      match radixForm? unsigned with
      | some (radix, digits) => digitsUpTo? limit radix digits
      | none => if isPaddedNumber unsigned then none else digitsUpTo? limit 10 unsigned
  | _ => none

def integer? (text : List Char) : Option Value :=
  let within (width : Width) : Option Value :=
    match natural? width.largest text, negative? width.least text with
    | some value, _ => some (.natural width value)
    | none, some magnitude => some (.negative width magnitude)
    | none, none => none
  (within .normal).or (within .wide)

def exponent? : List Char → Option Int
  | [] => some 0
  | c :: rest =>
      if c == 'e' || c == 'E' then
        match rest with
        | '-' :: digits => (digits? 10 digits).map fun value => -(value : Int)
        | '+' :: digits => (digits? 10 digits).map Int.ofNat
        | digits => (digits? 10 digits).map Int.ofNat
      else none

def decimal? (text : List Char) : Option Decimal :=
  let whole := text.takeWhile Char.isDigit
  let rest := text.dropWhile Char.isDigit
  let (part, rest) := match rest with
    | '.' :: rest => (rest.takeWhile Char.isDigit, rest.dropWhile Char.isDigit)
    | rest => ([], rest)
  match digits? 10 (whole ++ part), exponent? rest with
  | some digits, some exponent => some ⟨digits, exponent - part.length⟩
  | _, _ => none

/-- A decimal as a floating-point number; those too large for one are text. -/
def finite? (text : List Char) : Option Binary64 :=
  ((decimal? text).map Binary64.ofDecimal).filter (·.isFinite)

def isInfinity (text : List Char) : Bool :=
  decide (text ∈ [".inf", ".Inf", ".INF"].map String.toList)

def float? (text : List Char) : Option Binary64 :=
  if text ∈ [".nan", ".NaN", ".NAN"].map String.toList then some .notANumber
  else match text with
    | '-' :: unsigned =>
        (if isInfinity unsigned then some .infinity else finite? unsigned).map (·.negate)
    | text =>
        let unsigned := withoutPlus text
        if isInfinity unsigned then some .infinity else finite? unsigned

def boolean? (text : List Char) : Option Bool :=
  if text ∈ ["true", "True", "TRUE"].map String.toList then some true
  else if text ∈ ["false", "False", "FALSE"].map String.toList then some false
  else none

def isNull (text : List Char) : Bool :=
  decide (text ∈ ["null", "Null", "NULL", "~"].map String.toList)

inductive Kind where
  | boolean
  | integer
  | float
  | null
  deriving DecidableEq, Repr

namespace Kind

def ofTag? (tag : List Char) : Option Kind :=
  if tag = "tag:yaml.org,2002:bool".toList then some .boolean
  else if tag = "tag:yaml.org,2002:int".toList then some .integer
  else if tag = "tag:yaml.org,2002:float".toList then some .float
  else if tag = "tag:yaml.org,2002:null".toList then some .null
  else none

def read? (kind : Kind) (text : List Char) : Option Value :=
  match kind with
  | .boolean => (boolean? text).map .boolean
  | .integer => integer? text
  | .float => (float? text).map .float
  | .null => if isNull text then some .nothing else none

end Kind

namespace Value

def ofPlain (text : List Char) : Value :=
  if text.isEmpty || isNull text then .nothing
  else match boolean? text, integer? text with
    | some value, _ => .boolean value
    | none, some value => value
    | none, none =>
        if isPaddedNumber text then .text text
        else match float? text with
          | some value => .float value
          | none => .text text

end Value

namespace Scalar

/-- What a scalar means, or the kind that its tag asks for if its text is of another. -/
def value (scalar : Scalar) : Except Kind Value :=
  let untagged : Value :=
    if scalar.style = .plain then .ofPlain scalar.text else .text scalar.text
  match scalar.tag with
  | none => .ok untagged
  | some tag =>
      match Kind.ofTag? tag with
      | some kind =>
          match kind.read? scalar.text with
          | some value => .ok value
          | none => .error kind
      | none => .ok (if tag.head? = some '!' then untagged else .text scalar.text)

/-- The integer that a scalar gives where one is asked for: it has to be plain, or literal with a
tag that says so. -/
def natural? (scalar : Scalar) : Option Nat :=
  let isInteger := scalar.tag.bind Kind.ofTag? = some .integer
  if scalar.style = .plain ∨ (scalar.style = .literal ∧ isInteger) then
    Yaml.natural? Width.normal.largest scalar.text
  else none

end Scalar

end LicenseGate.Yaml
