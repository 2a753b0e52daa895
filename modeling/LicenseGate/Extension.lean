import LicenseGate.Text.Utf8

/-!
What the library publishes about itself: its version, and the tables that a host may look up by
identifier.
-/

namespace LicenseGate

open Text

def libraryVersion : String := "1.2.0"

def licenseInterface : String := "http://moddevices.com/ns/ext/license#interface"

/-- A published table; it tells the version of the library. -/
structure Extension where
  uri : String
  version : String
  deriving DecidableEq, Repr

namespace Extension

def published : List Extension := [⟨licenseInterface, libraryVersion⟩]

def lookup (uri : String) : Option Extension :=
  published.find? fun extension => extension.uri == uri

def lookupBytes (uri : List UInt8) : Option Extension :=
  (Utf8.decode uri).bind fun text => lookup (String.ofList text)

end Extension

end LicenseGate
