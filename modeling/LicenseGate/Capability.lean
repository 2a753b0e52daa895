import LicenseGate.Host

/-!
What a host offers to a plugin instance: an ordered list of identified features. The list is only
searched for the licensing feature; all others are carried along as addresses.
-/

namespace LicenseGate

/-- Something that can tell whether an entitlement is licensed, and the calls it makes to do so. -/
structure Service where
  accepts : String → Bool
  callsFor : String → List Call

namespace Service

def asking (entry : Nat) (accepts : String → Bool) : Service :=
  ⟨accepts, fun entitlement => [.asked entry entitlement]⟩

def ofHost (entry : Nat) (host : Host) : Service := ⟨host.accepts, host.callsFor entry⟩

end Service

inductive FeatureData where
  | licensing (service : Service)
  | address (value : Nat)

structure Capability where
  uri : String
  data : FeatureData

def licenseFeature : String := "http://moddevices.com/ns/ext/license#feature"

namespace Capability

def licensing (service : Service) : Capability := ⟨licenseFeature, .licensing service⟩

def other (uri : String) (address : Nat) : Capability := ⟨uri, .address address⟩

/-- The service behind an entry. One that merely carries the identifier has none. -/
def service (capability : Capability) : Option Service :=
  match capability.data with
  | .licensing service => if capability.uri = licenseFeature then some service else none
  | .address _ => none

end Capability

abbrev CapabilityList := List Capability

namespace CapabilityList

def placeOf? (capabilities : CapabilityList) (uri : String) : Option Nat :=
  capabilities.findIdx? fun capability => capability.uri == uri

def licensing (capabilities : CapabilityList) : Option Service :=
  capabilities.findSome? Capability.service

end CapabilityList

end LicenseGate
