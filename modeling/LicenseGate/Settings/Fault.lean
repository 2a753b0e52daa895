import LicenseGate.Text.Quoted
import LicenseGate.Yaml.Value

/-!
Why a document does not hold settings, and the message that says so: the place in the document, what
was found there, and what was expected.
-/

namespace LicenseGate.Settings

open Numeric Text Yaml

/-- A step into a document. A value whose key is an alias has no name. -/
inductive PathStep where
  | field (name : String)
  | item (index : Nat)
  | unnamed
  deriving DecidableEq, Repr

abbrev Path := List PathStep

namespace Path

def addStep (path : String) : PathStep → String
  | .field name => if path.isEmpty then name else path ++ "." ++ name
  | .item index => path ++ "[" ++ toString index ++ "]"
  | .unnamed => if path.isEmpty then "?" else path ++ ".?"

def text (path : Path) : String := path.foldl addStep ""

end Path

inductive Found where
  | scalar (meaning : Value)
  | sequence
  | mapping
  deriving DecidableEq, Repr

namespace Found

def ticked (text : String) : String := "`" ++ text ++ "`"

def text : Found → String
  | .scalar .nothing => "unit value"
  | .scalar (.boolean truth) => "boolean " ++ ticked (if truth then "true" else "false")
  | .scalar (.natural .normal number) => "integer " ++ ticked (toString number)
  | .scalar (.natural .wide number) => "integer " ++ ticked (toString number) ++ " as u128"
  | .scalar (.negative width magnitude) =>
      let sign := if magnitude = 0 then "" else "-"
      let number := "integer " ++ ticked (sign ++ toString magnitude)
      if width = .normal then number else number ++ " as i128"
  | .scalar (.float number) => "floating point " ++ ticked (number.render Decimal.withPoint)
  | .scalar (.text characters) => "string " ++ Quoted.quote (String.ofList characters)
  | .sequence => "sequence"
  | .mapping => "map"

end Found

inductive Fault where
  | unknownField (name : String) (known : List String)
  | duplicateField (name : String)
  | missingField (name : String)
  | invalidType (found : Found) (expected : String)
  | invalidValue (found : Found) (expected : String)
  deriving DecidableEq, Repr

namespace Fault

/-- The names that are known: two are joined by `or`, more are listed. -/
def oneOf (known : List String) : String :=
  match known.map Found.ticked with
  | [] => "nothing"
  | [only] => only
  | [first, second] => first ++ " or " ++ second
  | all => "one of " ++ ", ".intercalate all

def text : Fault → String
  | .unknownField name known =>
      "unknown field " ++ Found.ticked name ++ ", expected " ++ oneOf known
  | .duplicateField name => "duplicate field " ++ Found.ticked name
  | .missingField name => "missing field " ++ Found.ticked name
  | .invalidType found expected => "invalid type: " ++ found.text ++ ", expected " ++ expected
  | .invalidValue found expected => "invalid value: " ++ found.text ++ ", expected " ++ expected

end Fault

inductive Refusal where
  | notYaml
  | fault (path : Path) (wrong : Fault)
  deriving DecidableEq, Repr

namespace Refusal

def message : Refusal → String
  | .notYaml => "invalid yaml"
  | .fault [] wrong => "invalid yaml: " ++ wrong.text
  | .fault path wrong => "invalid yaml: " ++ path.text ++ ": " ++ wrong.text

end Refusal

end LicenseGate.Settings
