import LicenseGate.Text.Utf8

/-!
The licensing feature of a plugin host. For a plugin or collection it hands out the contents of a
license file, and takes back whatever it handed out, nothing included. What is in the file is the
host's concern: any file with contents counts as a license.
-/

namespace LicenseGate

open Text

inductive Call where
  | asked (entry : Nat) (entitlement : String)
  | license (entry : Nat) (uri : String)
  | free (entry : Nat) (returned : Option (List UInt8))
  deriving DecidableEq, Repr

/-- A host that answers each URI always alike. Either of its two calls may be missing. -/
structure Host where
  license : Option (String → Option (List UInt8))
  canFree : Bool

namespace Host

def ofFiles (files : List (String × Option (List UInt8))) : Host :=
  ⟨some fun uri => (files.lookup uri).join, true⟩

/-- What the host hands out for a URI, or `none` if it cannot be asked: a call is missing, or the
URI holds a NUL, which would end it early. -/
def handOut (host : Host) (uri : String) : Option (Option (List UInt8)) :=
  match host.license, host.canFree with
  | some license, true => if '\x00' ∈ uri.toList then none else some (license uri)
  | _, _ => none

def licensee (host : Host) (uri : String) : Option String :=
  (host.handOut uri).join.map fun bytes => String.ofList (Utf8.decodeLossy bytes)

def callsFor (host : Host) (entry : Nat) (uri : String) : List Call :=
  match host.handOut uri with
  | none => []
  | some returned => [.license entry uri, .free entry returned]

def accepts (host : Host) (uri : String) : Bool :=
  match host.licensee uri with
  | none => false
  | some text => !text.isEmpty

end Host

end LicenseGate
