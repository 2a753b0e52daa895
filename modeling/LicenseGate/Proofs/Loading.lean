import LicenseGate.Proofs.Utf8
import LicenseGate.Proofs.Validation

/-!
What loading settings comes to. A file fails on its own account only when there is no text in it;
whatever else is wrong is found in the text, and of several faults the version counts first, then
the entitlements, then the two limits of the gate.
-/

namespace LicenseGate.Settings

open Text Yaml

inductive Checked (settings : Settings) : Except Error Unit → Prop where
  | version : settings.version ≠ 1 →
      Checked settings (.error (.unsupportedVersion settings.version))
  | blank : settings.version = 1 → (∃ entitlement ∈ settings.entitlements, Blank entitlement) →
      Checked settings (.error (.badConfig "entitlements must not contain empty uris"))
  | grace : settings.version = 1 → (∀ entitlement ∈ settings.entitlements, ¬ Blank entitlement) →
      600000 < settings.gate.graceMillis.toNat →
      Checked settings (.error (.badConfig "gate.grace_ms must be between 0 and 600000"))
  | fade : settings.version = 1 → (∀ entitlement ∈ settings.entitlements, ¬ Blank entitlement) →
      settings.gate.graceMillis.toNat ≤ 600000 → 1000 < settings.gate.fadeMillis.toNat →
      Checked settings (.error (.badConfig "gate.fade_ms must be between 0 and 1000"))
  | valid : settings.version = 1 → (∀ entitlement ∈ settings.entitlements, ¬ Blank entitlement) →
      settings.gate.graceMillis.toNat ≤ 600000 → settings.gate.fadeMillis.toNat ≤ 1000 →
      Checked settings (.ok ())

theorem validate_checked (settings : Settings) : Checked settings settings.validate := by
  rw [validate]
  split
  next other => exact .version other
  next known =>
    have version := Decidable.not_not.mp known
    split
    next blank =>
      simp only [hasBlank, List.any_eq_true, is_blank_iff] at blank
      exact .blank version blank
    next unblank =>
      have unblank := (has_blank_iff settings.entitlements).mp (Bool.not_eq_true _ ▸ unblank)
      rw [GateSettings.validate]
      split
      next grace => exact .grace version unblank grace
      next grace =>
        split
        next fade => exact .fade version unblank (Nat.not_lt.mp grace) fade
        next fade => exact .valid version unblank (Nat.not_lt.mp grace) (Nat.not_lt.mp fade)

theorem of_text_read (text : List Char) (settings : Settings)
    (read : ofDocument (Document.ofText text) = .ok settings) :
    ofText text = settings.validate.map fun _ => settings := by
  rw [ofText, read]
  change (settings.validate >>= fun _ => Except.ok settings) = _
  cases settings.validate <;> rfl

theorem of_text_unread (text : List Char) (refusal : Refusal)
    (refused : ofDocument (Document.ofText text) = .error refusal) :
    ofText text = .error (.badConfig refusal.message) := by
  rw [ofText, refused]
  rfl

/-- What becomes of a text that holds settings, fault by fault. -/
structure Judged (settings : Settings) (outcome : Except Error Settings) : Prop where
  version : outcome = .error (.unsupportedVersion settings.version) ↔ settings.version ≠ 1
  blank : settings.version = 1 →
    (outcome = .error (.badConfig "entitlements must not contain empty uris") ↔
      ∃ entitlement ∈ settings.entitlements, Blank entitlement)
  grace : settings.version = 1 → (∀ entitlement ∈ settings.entitlements, ¬ Blank entitlement) →
    (outcome = .error (.badConfig "gate.grace_ms must be between 0 and 600000") ↔
      600000 < settings.gate.graceMillis.toNat)
  fade : settings.version = 1 → (∀ entitlement ∈ settings.entitlements, ¬ Blank entitlement) →
    settings.gate.graceMillis.toNat ≤ 600000 →
    (outcome = .error (.badConfig "gate.fade_ms must be between 0 and 1000") ↔
      1000 < settings.gate.fadeMillis.toNat)
  accepted : settings.version = 1 →
    (∀ entitlement ∈ settings.entitlements, ¬ Blank entitlement) →
    settings.gate.graceMillis.toNat ≤ 600000 → settings.gate.fadeMillis.toNat ≤ 1000 →
    outcome = .ok settings

theorem checked_judged (settings : Settings) (outcome : Except Error Unit)
    (checked : Checked settings outcome) : Judged settings (outcome.map fun _ => settings) := by
  cases checked with
  | version other =>
      exact ⟨by simp [Except.map, other], fun one => absurd one other, fun one => absurd one other,
        fun one => absurd one other, fun one => absurd one other⟩
  | blank version blank =>
      have spoilt : ¬ ∀ entitlement ∈ settings.entitlements, ¬ Blank entitlement := by
        simpa using blank
      exact ⟨by simp [Except.map, version], fun _ => by simp [Except.map, blank],
        fun _ unblank => absurd unblank spoilt, fun _ unblank => absurd unblank spoilt,
        fun _ unblank => absurd unblank spoilt⟩
  | grace version unblank long =>
      exact ⟨by simp [Except.map, version], fun _ => by simpa [Except.map] using unblank,
        fun _ _ => by simp [Except.map, long], fun _ _ short => absurd long (Nat.not_lt.mpr short),
        fun _ _ short => absurd long (Nat.not_lt.mpr short)⟩
  | fade version unblank grace long =>
      exact ⟨by simp [Except.map, version], fun _ => by simpa [Except.map] using unblank,
        fun _ _ => by simp [Except.map, grace], fun _ _ _ => by simp [Except.map, long],
        fun _ _ _ short => absurd long (Nat.not_lt.mpr short)⟩
  | valid version unblank grace fade =>
      exact ⟨by simp [Except.map, version], fun _ => by simpa [Except.map] using unblank,
        fun _ _ => by simp [Except.map, grace], fun _ _ _ => by simp [Except.map, fade],
        fun _ _ _ _ => rfl⟩

theorem judged_faulty (settings : Settings) (outcome : Except Error Settings)
    (judged : Judged settings outcome) (version : settings.version = 1)
    (faults : (∃ entitlement ∈ settings.entitlements, Blank entitlement) ∨
      600000 < settings.gate.graceMillis.toNat ∨ 1000 < settings.gate.fadeMillis.toNat) :
    ∃ reason, outcome = .error (.badConfig reason) := by
  by_cases blank : ∃ entitlement ∈ settings.entitlements, Blank entitlement
  · exact ⟨_, (judged.blank version).mpr blank⟩
  · have unblank : ∀ entitlement ∈ settings.entitlements, ¬ Blank entitlement :=
      fun entitlement member spoilt => blank ⟨entitlement, member, spoilt⟩
    rcases Nat.lt_or_ge 600000 settings.gate.graceMillis.toNat with long | short
    · exact ⟨_, (judged.grace version unblank).mpr long⟩
    · have long : 1000 < settings.gate.fadeMillis.toNat := by
        rcases faults with spoilt | long | long
        · exact absurd spoilt blank
        · exact absurd long (Nat.not_lt.mpr short)
        · exact long
      exact ⟨_, (judged.fade version unblank short).mpr long⟩

theorem of_text_faults (text : List Char) (fault : Error) (failed : ofText text = .error fault) :
    (∃ reason, fault = .badConfig reason) ∨ ∃ version, fault = .unsupportedVersion version := by
  cases read : ofDocument (Document.ofText text) with
  | error refusal =>
      rw [of_text_unread text refusal read] at failed
      cases failed
      exact Or.inl ⟨_, rfl⟩
  | ok settings =>
      rw [of_text_read text settings read] at failed
      have checked := validate_checked settings
      generalize settings.validate = outcome at checked failed
      cases checked with
      | version _ => cases failed; exact Or.inr ⟨_, rfl⟩
      | blank _ _ => cases failed; exact Or.inl ⟨_, rfl⟩
      | grace _ _ _ => cases failed; exact Or.inl ⟨_, rfl⟩
      | fade _ _ _ _ => cases failed; exact Or.inl ⟨_, rfl⟩
      | valid _ _ _ _ => exact absurd failed nofun

theorem of_text_not_internal (text : List Char) (reason : String) :
    ofText text ≠ .error (.internal reason) := by
  intro failed
  rcases of_text_faults text _ failed with ⟨_, same⟩ | ⟨_, same⟩ <;> exact absurd same nofun

theorem of_text_not_rate (text : List Char) (rate : Numeric.Binary64) :
    ofText text ≠ .error (.invalidSampleRate rate) := by
  intro failed
  rcases of_text_faults text _ failed with ⟨_, same⟩ | ⟨_, same⟩ <;> exact absurd same nofun

theorem of_file_text (files : Files) (path : String) (text : String)
    (stored : files path = .ok text.toByteArray.data.toList) :
    ofFile files path = ofText text.toList := by
  rw [← Utf8.encode_standard] at stored
  rw [ofFile, stored]
  simp only [ofBytes, Utf8.decode_encode]

theorem of_file_internal_iff (files : Files) (path : String) :
    (∃ reason, ofFile files path = .error (.internal reason)) ↔
      ∀ text : String, files path ≠ .ok text.toByteArray.data.toList := by
  constructor
  · rintro ⟨reason, failed⟩ text stored
    rw [of_file_text files path text stored] at failed
    exact of_text_not_internal _ _ failed
  · intro unreadable
    cases stored : files path with
    | error fault => exact ⟨_, by rw [ofFile, stored]; rfl⟩
    | ok bytes =>
        rcases Utf8.decode_cases bytes with ⟨text, written⟩ | undecoded
        · rw [Utf8.encode_standard] at written
          exact absurd (written ▸ stored) (unreadable text)
        · exact ⟨_, by rw [ofFile, stored]; simp only [ofBytes, undecoded]; rfl⟩

/-- Loading tells a file that holds no text from a text with faults, and what it gives is valid. -/
theorem loading_classified (files : Files) (path : String) :
    ((∃ reason, ofFile files path = .error (.internal reason)) ↔
      ∀ text : String, files path ≠ .ok text.toByteArray.data.toList) ∧
    (∀ text : String, files path = .ok text.toByteArray.data.toList →
      ofFile files path = ofText text.toList) ∧
    (∀ text : List Char,
      (∀ reason, ofText text ≠ .error (.internal reason)) ∧
      (∀ rate, ofText text ≠ .error (.invalidSampleRate rate)) ∧
      (∀ settings, ofText text = .ok settings →
        settings.version = 1 ∧ settings.gate.graceMillis.toNat ≤ 600000 ∧
          settings.gate.fadeMillis.toNat ≤ 1000 ∧
          ∀ entitlement ∈ settings.entitlements, ¬ ∀ c ∈ entitlement.toList, isWhite c = true) ∧
      (∀ settings, ofDocument (Document.ofText text) = .ok settings →
        Judged settings (ofText text))) := by
  refine ⟨of_file_internal_iff files path, of_file_text files path, fun text => ?_⟩
  refine ⟨of_text_not_internal text, of_text_not_rate text, ?_, ?_⟩
  · intro settings loaded
    obtain ⟨version, unblank, grace, fade⟩ :=
      (validate_iff settings).mp ((of_text_iff text settings).mp loaded).2
    exact ⟨version, grace, fade, unblank⟩
  · intro settings read
    rw [of_text_read text settings read]
    exact checked_judged settings _ (validate_checked settings)

theorem loading_classified_faults :
    (∃ reason, ofFile (fun _ => .ok [0x76, 0xff]) "modla.yaml" = .error (.internal reason)) ∧
    ofText ("version: 2\ngate:\n  grace_ms: 600001\n  fade_ms: 1001\n".toList ++
      "entitlements:\n- \"\u2003 \"\n".toList) = .error (.unsupportedVersion 2) ∧
    ofText ("version: 1\ngate:\n  grace_ms: 600001\n  fade_ms: 1001\n".toList ++
      "entitlements:\n- \"\u2003 \"\n".toList) =
        .error (.badConfig "entitlements must not contain empty uris") := by
  have undecoded : Utf8.decode [0x76, 0xff] = none := by decide
  have blank : Blank "\u2003 " := (is_blank_iff _).mp (by decide)
  obtain ⟨unreadable, -, texts⟩ :=
    loading_classified (fun _ => .ok [0x76, 0xff]) "modla.yaml"
  refine ⟨unreadable.mpr ?_, ?_, ?_⟩
  · intro text stored
    rw [Except.ok.injEq, ← Utf8.encode_standard] at stored
    exact (Utf8.decode_eq_none_iff _).mp undecoded _ stored
  · exact ((texts _).2.2.2 ⟨2, ⟨600001, 1001⟩, ["\u2003 "]⟩ (by cbv)).version.mpr (by decide)
  · exact (((texts _).2.2.2 ⟨1, ⟨600001, 1001⟩, ["\u2003 "]⟩ (by cbv)).blank rfl).mpr
      ⟨_, List.mem_singleton_self _, blank⟩

end LicenseGate.Settings
