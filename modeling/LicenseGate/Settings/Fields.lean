import LicenseGate.Settings.Basic
import LicenseGate.Settings.Fault
import LicenseGate.Yaml.Node

/-!
Settings in a document. Every field is checked in the order of the document and the first fault is
reported; what is cut off counts when it is reached, so a fault before it comes first.
-/

namespace LicenseGate.Settings

open Yaml

def misfit (scalar : Scalar) (expected : String) : Fault :=
  match scalar.value with
  | .ok value => .invalidType (.scalar value) expected
  | .error kind =>
      let meant := match kind with
        | .boolean => "a boolean"
        | .integer => "an integer"
        | .float => "a float"
        | .null => "null"
      .invalidValue (.scalar (.text scalar.text)) meant

def refuse (path : Path) (expected : String) : Node → Refusal
  | .scalar scalar => .fault path (misfit scalar expected)
  | .sequence _ => .fault path (.invalidType .sequence expected)
  | .mapping _ => .fault path (.invalidType .mapping expected)
  | .alias _ | .cut => .notYaml

def readText (document : Document) (path : Path) (expected : String) (node : Node) :
    Except Refusal String :=
  match document.resolve node with
  | .scalar scalar => .ok (String.ofList scalar.text)
  | node => .error (refuse path expected node)

def readWord (document : Document) (path : Path) (node : Node) : Except Refusal UInt32 :=
  let expected := "u32"
  match document.resolve node with
  | .scalar scalar =>
      match scalar.natural? with
      | some value =>
          if value ≤ lastPosition then .ok (UInt32.ofNat value)
          else .error (.fault path (.invalidValue (.scalar (.natural .normal value)) expected))
      | none => .error (refuse path expected (.scalar scalar))
  | node => .error (refuse path expected node)

def readItems (document : Document) (path : Path) (index : Nat) :
    List Node → Except Refusal (List String)
  | [] => .ok []
  | node :: rest => do
      let item ← readText document (path ++ [.item index]) "a string" node
      let items ← readItems document path (index + 1) rest
      .ok (item :: items)

/-- A list of texts; one that is left out is empty. -/
def readTexts (document : Document) (path : Path) (node : Node) :
    Except Refusal (List String) :=
  match document.resolve node with
  | .sequence items => readItems document path 0 items
  | .scalar scalar =>
      if scalar.isAbsent then .ok [] else .error (refuse path "a sequence" (.scalar scalar))
  | node => .error (refuse path "a sequence" node)

def readEntries (document : Document) (path : Path) (expected : String) (node : Node) :
    Except Refusal (List (Node × Node)) :=
  match document.resolve node with
  | .mapping entries => .ok entries
  | .scalar scalar =>
      if scalar.isAbsent then .ok [] else .error (refuse path expected (.scalar scalar))
  | node => .error (refuse path expected node)

def readName (document : Document) (path : Path) (key : Node) : Except Refusal String :=
  readText document path "field identifier" key

def stepTo : Node → PathStep
  | .scalar scalar => .field (String.ofList scalar.text)
  | _ => .unnamed

def once (path : Path) (name : String) (known : Option α) (value : Except Refusal α) :
    Except Refusal (Option α) :=
  match known with
  | some _ => .error (.fault path (.duplicateField name))
  | none => value.map some

structure GateFields where
  graceMillis : Option UInt32 := none
  fadeMillis : Option UInt32 := none
  deriving DecidableEq, Repr

namespace GateFields

def read (document : Document) (path : Path) (fields : GateFields) (entry : Node × Node) :
    Except Refusal GateFields := do
  let name ← readName document path entry.1
  let word := readWord document (path ++ [stepTo entry.1]) entry.2
  if name = "grace_ms" then
    let graceMillis ← once path name fields.graceMillis word
    .ok { fields with graceMillis }
  else if name = "fade_ms" then
    let fadeMillis ← once path name fields.fadeMillis word
    .ok { fields with fadeMillis }
  else .error (.fault path (.unknownField name ["grace_ms", "fade_ms"]))

def finish (fields : GateFields) : GateSettings :=
  ⟨fields.graceMillis.getD GateTiming.defaultGraceMillis,
    fields.fadeMillis.getD GateTiming.defaultFadeMillis⟩

end GateFields

def readGate (document : Document) (path : Path) (node : Node) : Except Refusal GateSettings := do
  let entries ← readEntries document path "struct GateSection" node
  let fields ← entries.foldlM (GateFields.read document path) {}
  .ok fields.finish

structure Fields where
  version : Option UInt32 := none
  gate : Option GateSettings := none
  entitlements : Option (List String) := none
  deriving DecidableEq, Repr

namespace Fields

def read (document : Document) (fields : Fields) (entry : Node × Node) :
    Except Refusal Fields := do
  let name ← readName document [] entry.1
  let path : Path := [stepTo entry.1]
  if name = "version" then
    let version ← once [] name fields.version (readWord document path entry.2)
    .ok { fields with version }
  else if name = "gate" then
    let gate ← once [] name fields.gate (readGate document path entry.2)
    .ok { fields with gate }
  else if name = "entitlements" then
    let entitlements ← once [] name fields.entitlements (readTexts document path entry.2)
    .ok { fields with entitlements }
  else .error (.fault [] (.unknownField name ["version", "gate", "entitlements"]))

/-- The settings; only the version may not be left out. -/
def finish (fields : Fields) : Except Refusal Settings :=
  match fields.version with
  | none => .error (.fault [] (.missingField "version"))
  | some version => .ok ⟨version, fields.gate.getD {}, fields.entitlements.getD []⟩

end Fields

def ofNode (document : Document) (node : Node) : Except Refusal Settings := do
  let entries ← readEntries document [] "struct LicenseConfig" node
  let fields ← entries.foldlM (Fields.read document) {}
  fields.finish

def ofDocument (document : Document) : Except Refusal Settings := do
  let settings ← ofNode document document.root
  if document.complete then .ok settings else .error .notYaml

end LicenseGate.Settings
