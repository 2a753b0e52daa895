import LicenseGate.Instance
import LicenseGate.Proofs.EntitlementSearch

/-!
How a new instance is licensed, from the array that a host passes to the calls that come back. Only
the first host behind the licensing feature is ever asked. What cannot be found permits; what is
found and cannot answer denies.
-/

namespace LicenseGate

open Text

namespace RawFeature

def goesOn (entry : Option RawFeature) : Bool := (entry.bind uri).isSome

/-- The host of an entry, if it is the licensing feature with data. Callers promise that its data is
a host wherever it is not null. -/
def licensingHost : Option RawFeature → Option Host
  | some ⟨some uri, .host _ host _⟩ =>
      if uri = Utf8.encode licenseFeature.toList then some host else none
  | _ => none

theorem capability_service (entry : Nat) (uri : List UInt8) (data : RawData) :
    (capability? entry uri data).bind Capability.service =
      (licensingHost (some ⟨some uri, data⟩)).map (Service.ofHost entry) := by
  rcases Utf8.decode_cases uri with ⟨text, rfl⟩ | unread
  · simp only [capability?, Utf8.decode_encode, String.ofList_toList]
    by_cases identified : text = licenseFeature
    · cases data <;>
        simp [licensingHost, identified, Capability.licensing, Capability.service]
    · cases data <;>
        simp [licensingHost, Utf8.encode_text_iff, identified, Capability.other, Capability.service]
  · have unidentified := (Utf8.decode_eq_none_iff uri).mp unread licenseFeature.toList
    cases data <;> simp [capability?, licensingHost, unread, unidentified]

end RawFeature

def licensingHost? (features : Option (List (Option RawFeature))) : Option (Nat × Host) :=
  ((features.getD []).takeWhile RawFeature.goesOn).zipIdx.findSome? fun (entry, place) =>
    (RawFeature.licensingHost entry).map (place, ·)

namespace CapabilityList

theorem read_entries_licensing (entry : Nat) (features : List (Option RawFeature)) :
    (readEntries entry features).licensing =
      ((features.takeWhile RawFeature.goesOn).zipIdx entry).findSome? fun (feature, place) =>
        (RawFeature.licensingHost feature).map (Service.ofHost place) := by
  induction features generalizing entry with
  | nil => rfl
  | cons feature rest ih =>
      -- A null entry or identifier ends the array for both searches.
      rcases feature with - | ⟨- | uri, data⟩
      · rfl
      · rfl
      · have first := RawFeature.capability_service entry uri data
        have reached : RawFeature.goesOn (some ⟨some uri, data⟩) = true := rfl
        simp only [licensing] at ih
        simp only [licensing, readEntries, List.findSome?_append, ih,
          List.takeWhile_cons_of_pos reached, List.zipIdx_cons, List.findSome?_cons, ← first]
        cases RawFeature.capability? entry uri data with
        | none => rfl
        | some capability => cases served : capability.service <;> simp [served]

theorem of_array_licensing (features : Option (List (Option RawFeature))) :
    (ofArray features).licensing =
      (licensingHost? features).map fun found => Service.ofHost found.1 found.2 := by
  rw [ofArray, read_entries_licensing, licensingHost?, List.map_findSome?]
  congr 1
  funext entry
  simp
  rfl

theorem check_absent (capabilities : CapabilityList) (absent : capabilities.licensing = none)
    (entitlement : String) : capabilities.check entitlement = true := by
  simp [check, absent]

theorem evaluate_calls_absent (capabilities : CapabilityList)
    (absent : capabilities.licensing = none) (entitlements : List String) :
    capabilities.evaluateCalls entitlements = [] := by
  simp [evaluateCalls, checkCalls, absent]

theorem check_service (capabilities : CapabilityList) (service : Service)
    (found : capabilities.licensing = some service) : capabilities.check = service.accepts := by
  funext entitlement
  simp [check, found]

theorem evaluate_calls_service (capabilities : CapabilityList) (service : Service)
    (found : capabilities.licensing = some service) (entitlements : List String) :
    capabilities.evaluateCalls entitlements =
      (entitlements.take (entitlements.findIdx service.accepts + 1)).flatMap service.callsFor := by
  have asked : capabilities.checkCalls = service.callsFor := by
    funext entitlement
    simp [checkCalls, found]
  rw [evaluateCalls, asked_until_exact, check_service capabilities service found, asked]

end CapabilityList

def Call.entry : Call → Nat
  | .asked entry _ | .license entry _ | .free entry _ => entry

/-- The calls that a host gets about a list of entitlements: a pair for each that it can be asked
about, up to and including the first that it grants. -/
def Host.trace (host : Host) (entry : Nat) (entitlements : List String) : List Call :=
  match host.license, host.canFree with
  | some license, true =>
      (entitlements.take (entitlements.findIdx (Host.grants license) + 1)).flatMap
        (Host.queries license entry)
  | _, _ => []

namespace Host

theorem trace_exact (host : Host) (entry : Nat) (entitlements : List String) :
    (entitlements.take (entitlements.findIdx host.accepts + 1)).flatMap (host.callsFor entry) =
      host.trace entry entitlements := by
  obtain ⟨license, canFree⟩ := host
  cases license with
  | none => simp [trace, callsFor, handOut]
  | some license =>
      cases canFree with
      | false => simp [trace, callsFor, handOut]
      | true => rw [trace, accepts_equipped, calls_equipped]

theorem trace_entry (host : Host) (entry : Nat) (entitlements : List String) (call : Call)
    (made : call ∈ host.trace entry entitlements) : call.entry = entry := by
  unfold trace at made
  split at made
  · obtain ⟨entitlement, -, asked⟩ := List.mem_flatMap.mp made
    unfold queries at asked
    split at asked
    · exact absurd asked List.not_mem_nil
    · rcases List.mem_cons.mp asked with rfl | returned
      · rfl
      · rw [List.mem_singleton.mp returned, Call.entry]
  · exact absurd made List.not_mem_nil

end Host

/-- The verdict on a new instance, and every call made to reach it. -/
theorem license_decision (features : Option (List (Option RawFeature)))
    (entitlements : List String) (timing : GateTiming) :
    ((Instance.ofFeatures .on features entitlements timing).isLicensed = true ↔
      entitlements = [] ∨ licensingHost? features = none ∨
        ∃ place host license, licensingHost? features = some (place, host) ∧
          host.license = some license ∧ host.canFree = true ∧
          ∃ entitlement ∈ entitlements, '\x00' ∉ entitlement.toList ∧
            ∃ bytes, license entitlement = some bytes ∧ bytes ≠ []) ∧
    (Instance.ofFeaturesCalls .on features entitlements =
      match licensingHost? features with
      | none => []
      | some (place, host) => host.trace place entitlements) ∧
    (∀ call ∈ Instance.ofFeaturesCalls .on features entitlements,
      ∃ host, licensingHost? features = some (call.entry, host)) := by
  have decided : (Instance.ofFeatures .on features entitlements timing).isLicensed = true ↔
      entitlements = [] ∨ ∃ entitlement ∈ entitlements,
        (CapabilityList.ofArray features).check entitlement = true :=
    Verdict.of_checks_licensed _ entitlements
  have walked := CapabilityList.of_array_licensing features
  cases found : licensingHost? features with
  -- Without a host every check passes, and makes no call.
  | none =>
      rw [found, Option.map_none] at walked
      have silent : Instance.ofFeaturesCalls .on features entitlements = [] :=
        CapabilityList.evaluate_calls_absent _ walked entitlements
      refine ⟨?_, silent, by simp [silent]⟩
      simp only [decided, CapabilityList.check_absent _ walked]
      cases entitlements <;> simp
  | some reached =>
      obtain ⟨place, host⟩ := reached
      rw [found, Option.map_some] at walked
      have traced : Instance.ofFeaturesCalls .on features entitlements =
          host.trace place entitlements :=
        (CapabilityList.evaluate_calls_service _ _ walked entitlements).trans
          (host.trace_exact place entitlements)
      refine ⟨?_, traced, ?_⟩
      · simp only [decided, CapabilityList.check_service _ _ walked, Service.ofHost,
          Host.accepts_iff]
        constructor
        · rintro (empty | ⟨entitlement, listed, license, answers, frees, granted⟩)
          · exact Or.inl empty
          · exact Or.inr (Or.inr
              ⟨place, host, license, rfl, answers, frees, entitlement, listed, granted⟩)
        · rintro (empty | absent | ⟨_, _, license, same, answers, frees, entitlement, listed,
            granted⟩)
          · exact Or.inl empty
          · exact absurd absent (Option.some_ne_none _)
          · cases same
            exact Or.inr ⟨entitlement, listed, license, answers, frees, granted⟩
      · intro call made
        rw [traced] at made
        exact ⟨host, by rw [host.trace_entry place entitlements call made]⟩

end LicenseGate
