import LicenseGate.Proofs.Loading
import LicenseGate.Proofs.StrictSchema
import LicenseGate.Proofs.WrittenText

/-!
What is loaded from settings that are written out in full: what was written, or what is wrong with
it. No number is too large to be told from one that fits.
-/

namespace LicenseGate.Settings

open Yaml Node

theorem decimal_word_iff (number : Nat) (word : UInt32) :
    (decimal number).IsWord word ↔ word.toNat = number := by
  simp [IsWord, decimal, natural_decimal_iff]

theorem word_text (text : String) : (word text).text? = some text := by
  rw [word, text?, String.ofList_toList]

theorem quoted_text (text : String) : (quoted text).text? = some text := by
  rw [quoted, text?, String.ofList_toList]

theorem listed_texts_iff (texts others : List String) :
    (listed texts).IsTexts others ↔ others = texts := by
  cases texts with
  | nil => simp [listed, IsTexts, nothing]
  | cons first rest =>
      have texts := List.map_injective_iff.mpr (Option.some_injective String)
      have read : text? ∘ quoted = some := funext quoted_text
      simp only [listed, IsTexts, nothing, reduceCtorEq, false_and, false_or, Node.sequence.injEq,
        exists_eq_left', List.map_map, read, texts.eq_iff]
      exact eq_comm

theorem gate_written_iff (grace fade : Nat) (gate : GateSettings) :
    (writtenGate grace fade).IsGate gate ↔
      gate.graceMillis.toNat = grace ∧ gate.fadeMillis.toNat = fade := by
  have strict : Strict ["grace_ms", "fade_ms"]
      [(word "grace_ms", decimal grace), (word "fade_ms", decimal fade)] :=
    ⟨by simp [word_text], by simp [word_text]⟩
  have grace_at (last : Option UInt32) := gives_at IsWord "grace_ms" _
    (word "grace_ms", decimal grace) last strict.distinct (by simp) (word_text _)
  have fade_at (last : Option UInt32) := gives_at IsWord "fade_ms" _
    (word "fade_ms", decimal fade) last strict.distinct (by simp) (word_text _)
  simp only [decimal_word_iff] at grace_at fade_at
  constructor
  · rintro (⟨absent, -⟩ | ⟨entries, same, -, first, second, graceGiven, fadeGiven, rfl⟩)
    · exact absurd absent nofun
    · cases same
      obtain ⟨_, rfl, rfl⟩ := (grace_at _).mp graceGiven
      obtain ⟨_, rfl, rfl⟩ := (fade_at _).mp fadeGiven
      exact ⟨rfl, rfl⟩
  · rintro ⟨graceGiven, fadeGiven⟩
    exact Or.inr ⟨_, rfl, strict, some gate.graceMillis, some gate.fadeMillis,
      (grace_at _).mpr ⟨_, rfl, graceGiven⟩, (fade_at _).mpr ⟨_, rfl, fadeGiven⟩, rfl⟩

theorem written_settings_iff (version grace fade : Nat) (entitlements : List String)
    (settings : Settings) :
    (written version grace fade entitlements).IsSettings settings ↔
      settings.version.toNat = version ∧ settings.gate.graceMillis.toNat = grace ∧
        settings.gate.fadeMillis.toNat = fade ∧ settings.entitlements = entitlements := by
  have strict : Strict ["version", "gate", "entitlements"]
      [(word "version", decimal version), (word "gate", writtenGate grace fade),
        (word "entitlements", listed entitlements)] :=
    ⟨by simp [word_text], by simp [word_text]⟩
  have version_at (last : Option UInt32) := gives_at IsWord "version" _
    (word "version", decimal version) last strict.distinct (by simp) (word_text _)
  have gate_at (last : Option GateSettings) := gives_at IsGate "gate" _
    (word "gate", writtenGate grace fade) last strict.distinct (by simp) (word_text _)
  have texts_at (last : Option (List String)) := gives_at IsTexts "entitlements" _
    (word "entitlements", listed entitlements) last strict.distinct (by simp) (word_text _)
  simp only [decimal_word_iff, gate_written_iff, listed_texts_iff] at version_at gate_at texts_at
  constructor
  · rintro ⟨entries, same, -, versionGiven, gate, texts, gateGiven, textsGiven, held, kept⟩
    cases same
    obtain ⟨_, ⟨⟩, fits⟩ := (version_at _).mp versionGiven
    obtain ⟨_, rfl, grace, fade⟩ := (gate_at _).mp gateGiven
    obtain ⟨_, rfl, rfl⟩ := (texts_at _).mp textsGiven
    exact ⟨fits, held ▸ grace, held ▸ fade, kept⟩
  · rintro ⟨versionGiven, graceGiven, fadeGiven, textsGiven⟩
    exact ⟨_, rfl, strict, (version_at _).mpr ⟨_, rfl, versionGiven⟩, some settings.gate,
      some settings.entitlements, (gate_at _).mpr ⟨_, rfl, graceGiven, fadeGiven⟩,
      (texts_at _).mpr ⟨_, rfl, textsGiven⟩, rfl, rfl⟩

section

variable (version grace fade : Nat) (entitlements : List String) (ending : List Char)
  (ends : ending = [] ∨ ending = ['\n'])
  (quotable : ∀ text ∈ entitlements, ∀ c ∈ text.toList, isQuotable c = true)

include ends quotable

theorem read_written_iff (settings : Settings) :
    ofDocument (Document.ofText (writtenText version grace fade entitlements ending)) =
        .ok settings ↔
      settings.version.toNat = version ∧ settings.gate.graceMillis.toNat = grace ∧
        settings.gate.fadeMillis.toNat = fade ∧ settings.entitlements = entitlements := by
  obtain ⟨root, complete⟩ :=
    document_of_lines ending ends entitlements quotable version grace fade
  rw [of_document_iff, root, of_node_iff _ _ _ (written_resolved _ _ _ _), written_settings_iff]
  exact and_iff_left complete

theorem written_large (large : 2 ^ 32 ≤ version ∨ 2 ^ 32 ≤ grace ∨ 2 ^ 32 ≤ fade) :
    ∃ reason, ofText (writtenText version grace fade entitlements ending) =
      .error (.badConfig reason) := by
  cases given :
      ofDocument (Document.ofText (writtenText version grace fade entitlements ending)) with
  | error refusal => exact ⟨_, of_text_unread _ refusal given⟩
  | ok settings =>
      obtain ⟨versionGiven, graceGiven, fadeGiven, -⟩ :=
        (read_written_iff version grace fade entitlements ending ends quotable settings).mp given
      have versionWord := settings.version.toNat_lt
      have graceWord := settings.gate.graceMillis.toNat_lt
      have fadeWord := settings.gate.fadeMillis.toNat_lt
      omega

theorem written_judged (versionFits : version < 2 ^ 32) (graceFits : grace < 2 ^ 32)
    (fadeFits : fade < 2 ^ 32) :
    ∃ settings : Settings, settings.version.toNat = version ∧
      settings.gate.graceMillis.toNat = grace ∧ settings.gate.fadeMillis.toNat = fade ∧
      settings.entitlements = entitlements ∧
      Judged settings (ofText (writtenText version grace fade entitlements ending)) := by
  have versionWord := UInt32.toNat_ofNat_of_lt' versionFits
  have graceWord := UInt32.toNat_ofNat_of_lt' graceFits
  have fadeWord := UInt32.toNat_ofNat_of_lt' fadeFits
  have read := (read_written_iff version grace fade entitlements ending ends quotable
    ⟨.ofNat version, ⟨.ofNat grace, .ofNat fade⟩, entitlements⟩).mpr
    ⟨versionWord, graceWord, fadeWord, rfl⟩
  refine ⟨⟨.ofNat version, ⟨.ofNat grace, .ofNat fade⟩, entitlements⟩, versionWord, graceWord,
    fadeWord, rfl, ?_⟩
  rw [of_text_read _ _ read]
  exact checked_judged _ _ (validate_checked _)

end

/-- What comes of the text of settings, for numbers of any size and any number of entitlements:
a number that does not fit a word is refused whatever else there is, then the version counts, then
blank entitlements and the limits; and what is loaded is what was written. -/
theorem written_settings_load (version grace fade : Nat) (entitlements : List String)
    (ending : List Char) (ends : ending = [] ∨ ending = ['\n'])
    (printable : ∀ entitlement ∈ entitlements, ∀ c ∈ entitlement.toList,
      0x20 ≤ c.toNat ∧ c.toNat ≤ 0x7e ∧ c ≠ '"' ∧ c ≠ '\\') :
    (2 ^ 32 ≤ version ∨ 2 ^ 32 ≤ grace ∨ 2 ^ 32 ≤ fade →
      ∃ reason, ofText (writtenText version grace fade entitlements ending) =
        .error (.badConfig reason)) ∧
    (version < 2 ^ 32 → grace < 2 ^ 32 → fade < 2 ^ 32 →
      (version ≠ 1 →
        ∃ word, word.toNat = version ∧
          ofText (writtenText version grace fade entitlements ending) =
            .error (.unsupportedVersion word)) ∧
      (version = 1 →
        (∃ entitlement ∈ entitlements, Blank entitlement) ∨ 600000 < grace ∨ 1000 < fade →
        ∃ reason, ofText (writtenText version grace fade entitlements ending) =
          .error (.badConfig reason)) ∧
      (version = 1 → (∀ entitlement ∈ entitlements, ¬ Blank entitlement) → grace ≤ 600000 →
        fade ≤ 1000 →
        ∃ settings, ofText (writtenText version grace fade entitlements ending) = .ok settings ∧
          settings.version.toNat = version ∧ settings.gate.graceMillis.toNat = grace ∧
          settings.gate.fadeMillis.toNat = fade ∧ settings.entitlements = entitlements)) := by
  have quotable : ∀ text ∈ entitlements, ∀ c ∈ text.toList, isQuotable c = true := by
    intro text member c within
    simp [isQuotable, printable text member c within]
  refine ⟨written_large version grace fade entitlements ending ends quotable, ?_⟩
  intro versionFits graceFits fadeFits
  obtain ⟨settings, rfl, rfl, rfl, rfl, judged⟩ :=
    written_judged version grace fade entitlements ending ends quotable versionFits graceFits
      fadeFits
  have first : settings.version = 1 ↔ settings.version.toNat = 1 := by
    rw [← UInt32.toNat_inj]
    rfl
  refine ⟨?_, ?_, ?_⟩
  · intro other
    exact ⟨settings.version, rfl, judged.version.mpr (first.not.mpr other)⟩
  · intro one faults
    exact judged_faulty settings _ judged (first.mpr one) faults
  · intro one unblank grace fade
    exact ⟨settings, judged.accepted (first.mpr one) unblank grace fade, rfl, rfl, rfl, rfl⟩

theorem written_settings_load_lookalikes :
    (∃ reason, ofText (writtenText 2 600001 (2 ^ 128) [" "] []) = .error (.badConfig reason)) ∧
    (∃ word, word.toNat = 2 ∧
      ofText (writtenText 2 600001 1000 [" "] []) = .error (.unsupportedVersion word)) ∧
    ∃ settings,
      ofText (writtenText 1 600000 0 ["- a: b", " #", "[c"] ['\n']) = .ok settings ∧
      settings.gate.graceMillis.toNat = 600000 ∧
      settings.entitlements = ["- a: b", " #", "[c"] := by
  have large := written_settings_load 2 600001 (2 ^ 128) [" "] [] (Or.inl rfl) (by simp)
  have old := written_settings_load 2 600001 1000 [" "] [] (Or.inl rfl) (by simp)
  have kept := written_settings_load 1 600000 0 ["- a: b", " #", "[c"] ['\n'] (Or.inr rfl)
    (by simp)
  have unblank : ∀ entitlement ∈ ["- a: b", " #", "[c"], ¬ Blank entitlement := by
    simp [Blank, Text.isWhite]
  obtain ⟨settings, loaded, -, grace, -, texts⟩ :=
    (kept.2 (by decide) (by decide) (by decide)).2.2 rfl unblank (Nat.le_refl _) (Nat.zero_le _)
  exact ⟨large.1 (by decide), (old.2 (by decide) (by decide) (by decide)).1 (by decide),
    settings, loaded, grace, texts⟩

end LicenseGate.Settings
