import LicenseGate.Proofs.LicenseDecision

/-!
Licensing over any list of capabilities, whatever its services are. One service counts, that of the
first entry that has both the identifier and a service; what else is listed is never asked and has
no part in the verdict.
-/

namespace LicenseGate

theorem Verdict.licensed_iff (verdict : Verdict) :
    verdict = .licensed ↔ verdict.isLicensed = true := by
  cases verdict <;> decide

theorem Verdict.eq_of_licensed_iff (first second : Verdict)
    (same : first = .licensed ↔ second = .licensed) : first = second := by
  cases first <;> cases second <;> simp_all

theorem Capability.service_iff (capability : Capability) (service : Service) :
    capability.service = some service ↔ capability = Capability.licensing service := by
  obtain ⟨uri, data⟩ := capability
  cases data with
  | address value => simp [Capability.service, Capability.licensing]
  | licensing offered =>
      by_cases identified : uri = licenseFeature
      · simp [Capability.service, Capability.licensing, identified]
      · simp [Capability.service, Capability.licensing, identified]

theorem Capability.service_none_iff (capability : Capability) :
    capability.service = none ↔ ∀ service, capability ≠ Capability.licensing service := by
  rw [Option.eq_none_iff_forall_ne_some]
  exact forall_congr' fun service => not_congr (capability.service_iff service)

namespace CapabilityList

/-- The service that counts: that of the first entry with both the identifier and a service. -/
def ServedBy (capabilities : CapabilityList) (service : Service) : Prop :=
  ∃ before after, capabilities = before ++ Capability.licensing service :: after ∧
    ∀ capability ∈ before, ∀ other, capability ≠ Capability.licensing other

theorem served_by_iff (capabilities : CapabilityList) (service : Service) :
    capabilities.ServedBy service ↔ capabilities.licensing = some service := by
  rw [licensing, List.findSome?_eq_some_iff]
  constructor
  · rintro ⟨before, after, rfl, passedOver⟩
    exact ⟨before, Capability.licensing service, after, rfl,
      (Capability.service_iff _ service).mpr rfl,
      fun capability listed => capability.service_none_iff.mpr (passedOver capability listed)⟩
  · rintro ⟨before, capability, after, rfl, serves, passedOver⟩
    obtain rfl := (capability.service_iff service).mp serves
    exact ⟨before, after, rfl,
      fun capability listed => capability.service_none_iff.mp (passedOver capability listed)⟩

theorem unserved_iff (capabilities : CapabilityList) :
    (∀ service, ¬ capabilities.ServedBy service) ↔ capabilities.licensing = none := by
  rw [Option.eq_none_iff_forall_ne_some]
  exact forall_congr' fun service => not_congr (capabilities.served_by_iff service)

theorem evaluate_licensed_iff (capabilities : CapabilityList) (entitlements : List String) :
    capabilities.evaluate entitlements = .licensed ↔
      entitlements = [] ∨ ∃ entitlement ∈ entitlements, capabilities.check entitlement = true := by
  rw [Verdict.licensed_iff]
  exact Verdict.of_checks_licensed capabilities.check entitlements

theorem evaluate_members (capabilities : CapabilityList) (entitlements others : List String)
    (same : ∀ entitlement, entitlement ∈ others ↔ entitlement ∈ entitlements) :
    capabilities.evaluate others = capabilities.evaluate entitlements := by
  apply Verdict.eq_of_licensed_iff
  simp only [evaluate_licensed_iff, List.eq_nil_iff_forall_not_mem, same]

theorem evaluate_served (capabilities changed : CapabilityList) (service kept : Service)
    (served : capabilities.ServedBy service) (still : changed.ServedBy kept)
    (alike : kept.accepts = service.accepts) : changed.evaluate = capabilities.evaluate := by
  funext entitlements
  rw [evaluate, evaluate, check_service changed kept ((changed.served_by_iff kept).mp still),
    check_service capabilities service ((capabilities.served_by_iff service).mp served), alike]

theorem evaluate_more (capabilities : CapabilityList) (entitlements more : List String)
    (listed : entitlements ≠ []) (kept : entitlements ⊆ more)
    (licensed : capabilities.evaluate entitlements = .licensed) :
    capabilities.evaluate more = .licensed := by
  rw [evaluate_licensed_iff] at licensed ⊢
  rcases licensed with empty | ⟨entitlement, member, passed⟩
  · exact absurd empty listed
  · exact Or.inr ⟨entitlement, kept member, passed⟩

theorem evaluate_calls_asking (capabilities : CapabilityList) (entry : Nat)
    (accepts : String → Bool) (served : capabilities.ServedBy (.asking entry accepts))
    (entitlements : List String) :
    capabilities.evaluateCalls entitlements =
      (entitlements.take (entitlements.findIdx accepts + 1)).map (Call.asked entry) := by
  rw [evaluate_calls_service capabilities _ ((capabilities.served_by_iff _).mp served)]
  exact List.map_eq_flatMap.symm

/-- The verdict over any list of capabilities, and every query made for it. -/
theorem first_service_decides (capabilities : CapabilityList) (entitlements : List String) :
    (capabilities.evaluate entitlements = .licensed ↔
      entitlements = [] ∨ (∀ service, ¬ capabilities.ServedBy service) ∨
        ∃ service, capabilities.ServedBy service ∧
          ∃ entitlement ∈ entitlements, service.accepts entitlement = true) ∧
    ((∀ service, ¬ capabilities.ServedBy service) →
      capabilities.evaluateCalls entitlements = []) ∧
    (∀ entry accepts, capabilities.ServedBy (.asking entry accepts) →
      capabilities.evaluateCalls entitlements =
        (entitlements.take (entitlements.findIdx accepts + 1)).map (Call.asked entry)) ∧
    (∀ others : List String, (∀ entitlement, entitlement ∈ others ↔ entitlement ∈ entitlements) →
      capabilities.evaluate others = capabilities.evaluate entitlements) ∧
    (∀ (changed : CapabilityList) (service kept : Service), capabilities.ServedBy service →
      changed.ServedBy kept → kept.accepts = service.accepts →
        changed.evaluate entitlements = capabilities.evaluate entitlements) ∧
    (∀ more, entitlements ≠ [] → entitlements ⊆ more →
      capabilities.evaluate entitlements = .licensed → capabilities.evaluate more = .licensed) := by
  refine ⟨?_, ?_, fun entry accepts served =>
      capabilities.evaluate_calls_asking entry accepts served entitlements,
    capabilities.evaluate_members entitlements, ?_, capabilities.evaluate_more entitlements⟩
  · rw [evaluate_licensed_iff, unserved_iff]
    cases found : capabilities.licensing with
    | none =>
        simp only [check_absent capabilities found, served_by_iff, found]
        cases entitlements <;> simp
    | some service =>
        simp only [check_service capabilities service found, served_by_iff, found]
        simp
  · intro unserved
    exact evaluate_calls_absent capabilities (capabilities.unserved_iff.mp unserved) entitlements
  · intro changed service kept served still alike
    rw [evaluate_served capabilities changed service kept served still alike]

theorem first_service_decides_shadowed :
    evaluateCalls [⟨licenseFeature, .address 7⟩, ⟨"urn:x", .licensing (.asking 1 fun _ => true)⟩,
        .licensing (.asking 2 (· == "b")), .licensing (.asking 3 fun _ => true)] ["a", "b", "c"] =
      [.asked 2 "a", .asked 2 "b"] ∧
    evaluate [⟨licenseFeature, .address 7⟩, ⟨"urn:x", .licensing (.asking 1 fun _ => true)⟩,
        .licensing (.asking 2 (· == "b")), .licensing (.asking 3 fun _ => true)] ["a", "b", "c"] =
      .licensed := by
  have served : ServedBy
      [⟨licenseFeature, .address 7⟩, ⟨"urn:x", .licensing (.asking 1 fun _ => true)⟩,
        .licensing (.asking 2 (· == "b")), .licensing (.asking 3 fun _ => true)]
      (.asking 2 (· == "b")) := by
    refine ⟨[⟨licenseFeature, .address 7⟩, ⟨"urn:x", .licensing (.asking 1 fun _ => true)⟩],
      [.licensing (.asking 3 fun _ => true)], rfl, ?_⟩
    simp [Capability.licensing, licenseFeature]
  obtain ⟨licensed, -, calls, -⟩ := first_service_decides _ ["a", "b", "c"]
  exact ⟨(calls 2 (· == "b") served).trans (by decide),
    licensed.mpr (Or.inr (Or.inr ⟨_, served, "b", by decide, by decide⟩))⟩

end CapabilityList

end LicenseGate
