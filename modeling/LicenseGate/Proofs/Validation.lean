import LicenseGate.Settings.Load
import Mathlib

/-!
What validation asks of settings, and that nothing is loaded without it.
-/

namespace LicenseGate

open Text Yaml

/-- A text is blank when trimming it at both ends leaves nothing, so when all of it is white. -/
theorem Text.is_blank_iff (text : List Char) :
    isBlank text = true ↔ ∀ c ∈ text, isWhite c = true := by
  rw [isBlank, trim, List.isEmpty_reverse, List.isEmpty_iff, List.dropWhile_eq_nil_iff]
  constructor
  · intro white
    rw [← List.dropWhile_eq_nil_iff]
    cases kept : text.dropWhile isWhite with
    | nil => rfl
    | cons first rest =>
        have present : text.dropWhile isWhite ≠ [] := by
          rw [kept]
          exact List.cons_ne_nil first rest
        have stopped := List.head_dropWhile_not isWhite present
        simp only [kept, List.head_cons] at stopped
        rw [white first (by simp [kept])] at stopped
        exact absurd stopped nofun
  · intro white c member
    exact white c ((List.dropWhile_suffix isWhite).subset (List.mem_reverse.mp member))

namespace Settings

theorem gate_validate_iff (gate : GateSettings) :
    gate.validate = .ok () ↔
      gate.graceMillis.toNat ≤ GateSettings.graceLimit ∧
        gate.fadeMillis.toNat ≤ GateSettings.fadeLimit := by
  rw [GateSettings.validate]
  by_cases grace : GateSettings.graceLimit < gate.graceMillis.toNat
  · rw [if_pos grace]
    exact ⟨nofun, fun within => absurd grace (Nat.not_lt.mpr within.1)⟩
  rw [if_neg grace]
  by_cases fade : GateSettings.fadeLimit < gate.fadeMillis.toNat
  · rw [if_pos fade]
    exact ⟨nofun, fun within => absurd fade (Nat.not_lt.mpr within.2)⟩
  rw [if_neg fade]
  exact ⟨fun _ => ⟨Nat.not_lt.mp grace, Nat.not_lt.mp fade⟩, fun _ => rfl⟩

def Blank (entitlement : String) : Prop := ∀ c ∈ entitlement.toList, isWhite c = true

theorem has_blank_iff (entitlements : List String) :
    hasBlank entitlements = false ↔ ∀ entitlement ∈ entitlements, ¬ Blank entitlement := by
  simp only [hasBlank, List.any_eq_false, is_blank_iff, Blank]

theorem validate_iff (settings : Settings) :
    settings.validate = .ok () ↔
      settings.version = 1 ∧ (∀ entitlement ∈ settings.entitlements, ¬ Blank entitlement) ∧
        settings.gate.graceMillis.toNat ≤ GateSettings.graceLimit ∧
        settings.gate.fadeMillis.toNat ≤ GateSettings.fadeLimit := by
  rw [validate, ← has_blank_iff, ← gate_validate_iff]
  by_cases version : settings.version = 1
  · rw [if_neg (not_not_intro version)]
    cases blank : hasBlank settings.entitlements with
    | true => exact ⟨nofun, fun ⟨_, unblank, _⟩ => absurd unblank nofun⟩
    | false => exact ⟨fun valid => ⟨version, rfl, valid⟩, fun ⟨_, _, valid⟩ => valid⟩
  · rw [if_pos version]
    exact ⟨nofun, fun ⟨same, _⟩ => absurd same version⟩

theorem of_text_iff (text : List Char) (settings : Settings) :
    ofText text = .ok settings ↔
      ofDocument (Document.ofText text) = .ok settings ∧ settings.validate = .ok () := by
  rw [ofText]
  cases ofDocument (Document.ofText text) with
  | error refusal => exact ⟨nofun, fun ⟨read, _⟩ => absurd read nofun⟩
  | ok read =>
      change (read.validate >>= fun _ => Except.ok read) = .ok settings ↔ _
      cases valid : read.validate with
      | error fault =>
          refine ⟨nofun, ?_⟩
          rintro ⟨same, passed⟩
          cases same
          exact absurd (valid.symm.trans passed) nofun
      | ok checked =>
          constructor
          · intro same
            cases same
            exact ⟨rfl, valid⟩
          · rintro ⟨same, -⟩
            cases same
            rfl

theorem of_file_valid (files : Files) (path : String) (settings : Settings)
    (loaded : ofFile files path = .ok settings) : settings.validate = .ok () := by
  rw [ofFile] at loaded
  split at loaded
  next => exact absurd loaded nofun
  next bytes _ =>
    rw [ofBytes] at loaded
    split at loaded
    next => exact absurd loaded nofun
    next text _ => exact ((of_text_iff text settings).mp loaded).2

end Settings

end LicenseGate
