import LicenseGate.Capability

/-!
The feature array as a host passes it: entries with an identifier in bytes and the address of some
data, up to a null entry.
-/

namespace LicenseGate

open Text

inductive RawData where
  | address (value : Nat)
  | host (value : Nat) (host : Host) (present : value ≠ 0 := by decide)

namespace RawData

def asAddress : RawData → Nat
  | .address value | .host value _ _ => value

end RawData

structure RawFeature where
  uri : Option (List UInt8)
  data : RawData

namespace RawFeature

/-- What an entry with an identifier offers. One whose identifier is not UTF-8 is passed over, and
so is the licensing feature without data. -/
def capability? (entry : Nat) (uri : List UInt8) (data : RawData) : Option Capability :=
  match Utf8.decode uri with
  | none => none
  | some text =>
      if String.ofList text = licenseFeature then
        match data with
        | .host _ host _ => some (.licensing (.ofHost entry host))
        | .address _ => none
      else some (.other (String.ofList text) data.asAddress)

end RawFeature

namespace CapabilityList

/-- Reads the entries before the end of an array, which is a null entry or one without an
identifier. `entry` is the place of the first one. -/
def readEntries (entry : Nat) : List (Option RawFeature) → CapabilityList
  | [] => []
  | none :: _ => []
  | some ⟨none, _⟩ :: _ => []
  | some ⟨some uri, data⟩ :: rest =>
      (RawFeature.capability? entry uri data).toList ++ readEntries (entry + 1) rest

def ofArray (features : Option (List (Option RawFeature))) : CapabilityList :=
  readEntries 0 (features.getD [])

end CapabilityList

end LicenseGate
