import LicenseGate.Proofs.NumberText
import LicenseGate.Proofs.RecordFields
import LicenseGate.Proofs.Validation

/-!
What documents hold settings, told from the tree alone: which keys a mapping has, how often, and
what stands behind each.
-/

namespace LicenseGate

open Yaml

namespace Yaml.Node

/-- A tree in which aliases have been looked up, without tags, and with nothing cut off. -/
inductive Resolved : Node → Prop where
  | scalar {leaf : Scalar} : leaf.tag = none → Resolved (.scalar leaf)
  | sequence {items : List Node} : (∀ item ∈ items, Resolved item) → Resolved (.sequence items)
  | mapping {entries : List (Node × Node)} :
      (∀ entry ∈ entries, Resolved entry.1) → (∀ entry ∈ entries, Resolved entry.2) →
      Resolved (.mapping entries)

def nothing : Node := .scalar .empty

def IsWord (node : Node) (word : UInt32) : Prop :=
  ∃ text, node = .scalar ⟨.plain, none, text⟩ ∧ Natural text word.toNat

def IsTexts (node : Node) (texts : List String) : Prop :=
  node = nothing ∧ texts = [] ∨
    ∃ items, node = .sequence items ∧ items.map text? = texts.map some

theorem resolve_self (document : Document) (node : Node) (resolved : node.Resolved) :
    document.resolve node = node := by
  cases resolved <;> rfl

end Yaml.Node

namespace Settings

open Node

theorem read_text_iff (document : Document) (path : Path) (expected : String) (node : Node)
    (text : String) (resolved : node.Resolved) :
    readText document path expected node = .ok text ↔ node.text? = some text := by
  rw [readText, resolve_self document node resolved]
  cases resolved with
  | scalar untagged => simp [text?]
  | sequence items => exact ⟨nofun, nofun⟩
  | mapping keys values => exact ⟨nofun, nofun⟩

theorem scalar_natural_iff (scalar : Scalar) (untagged : scalar.tag = none) (value : Nat) :
    scalar.natural? = some value ↔
      scalar.style = .plain ∧ Natural scalar.text value ∧ value ≤ Width.normal.largest := by
  by_cases plain : scalar.style = .plain
  · simp [Scalar.natural?, plain, natural_iff]
  · simp [Scalar.natural?, plain, untagged]

/-- A word is a number so small that no limit on the width of integers refuses it. -/
theorem leaf_word_iff (leaf : Scalar) (untagged : leaf.tag = none) (word : UInt32) :
    (Node.scalar leaf).IsWord word ↔ leaf.natural? = some word.toNat := by
  have wide : lastPosition ≤ Width.normal.largest := by decide
  rw [scalar_natural_iff leaf untagged]
  constructor
  · rintro ⟨text, same, natural⟩
    cases same
    exact ⟨rfl, natural, Nat.le_trans (word_counted word) wide⟩
  · rintro ⟨plain, natural, -⟩
    obtain ⟨style, tag, text⟩ := leaf
    cases plain
    cases untagged
    exact ⟨text, rfl, natural⟩

theorem read_word_iff (document : Document) (path : Path) (node : Node) (word : UInt32)
    (resolved : node.Resolved) : readWord document path node = .ok word ↔ node.IsWord word := by
  rw [readWord, resolve_self document node resolved]
  cases resolved with
  | sequence items => exact ⟨nofun, fun ⟨_, same, _⟩ => absurd same nofun⟩
  | mapping keys values => exact ⟨nofun, fun ⟨_, same, _⟩ => absurd same nofun⟩
  | @scalar leaf untagged =>
      rw [leaf_word_iff leaf untagged]
      cases read : leaf.natural? with
      | none => simp [read]
      | some value =>
          simp only [read, Option.some.injEq]
          by_cases fits : value ≤ lastPosition
          · rw [if_pos fits, Except.ok.injEq, ← UInt32.toNat_inj, to_nat_of_counted value fits]
          · rw [if_neg fits]
            exact ⟨nofun, fun same => absurd (same ▸ word_counted word) fits⟩

theorem is_absent_iff (leaf : Scalar) (untagged : leaf.tag = none) :
    leaf.isAbsent = true ↔ Node.scalar leaf = .nothing := by
  obtain ⟨style, tag, text⟩ := leaf
  cases untagged
  simp [Scalar.isAbsent, Node.nothing, Scalar.empty]

theorem read_items_iff (document : Document) (path : Path) (index : Nat) (items : List Node)
    (texts : List String) (resolved : ∀ item ∈ items, item.Resolved) :
    readItems document path index items = .ok texts ↔ items.map Node.text? = texts.map some := by
  induction items generalizing index texts with
  | nil => cases texts <;> simp [readItems]
  | cons item rest ih =>
      obtain ⟨first, later⟩ := List.forall_mem_cons.mp resolved
      simp only [readItems, bind_ok_iff, read_text_iff _ _ _ item _ first,
        ih (index + 1) _ later, Except.ok.injEq]
      constructor
      · rintro ⟨text, here, tail, there, rfl⟩
        rw [List.map_cons, here, there, List.map_cons]
      · intro same
        cases texts with
        | nil => exact absurd same nofun
        | cons text tail =>
            obtain ⟨here, there⟩ := List.cons.inj same
            exact ⟨text, here, tail, there, rfl⟩

theorem read_texts_iff (document : Document) (path : Path) (node : Node) (texts : List String)
    (resolved : node.Resolved) : readTexts document path node = .ok texts ↔ node.IsTexts texts := by
  rw [readTexts, resolve_self document node resolved]
  cases resolved with
  | @scalar leaf untagged =>
      have absent := is_absent_iff leaf untagged
      by_cases empty : leaf.isAbsent = true
      · simp [IsTexts, empty, absent.mp empty, nothing, eq_comm]
      · simp [IsTexts, empty, absent.not.mp empty]
  | @sequence items inner =>
      change readItems document path 0 items = .ok texts ↔ _
      rw [read_items_iff document path 0 items texts inner]
      constructor
      · exact fun same => Or.inr ⟨items, rfl, same⟩
      · rintro (⟨absent, -⟩ | ⟨_, same, read⟩)
        · exact absurd absent nofun
        · cases same
          exact read
  | mapping keys values =>
      refine ⟨nofun, ?_⟩
      rintro (⟨absent, -⟩ | ⟨_, same, -⟩)
      · exact absurd absent nofun
      · exact absurd same nofun

theorem read_entries_iff (document : Document) (path : Path) (expected : String) (node : Node)
    (entries : List (Node × Node)) (resolved : node.Resolved) :
    readEntries document path expected node = .ok entries ↔
      node = nothing ∧ entries = [] ∨ node = .mapping entries := by
  rw [readEntries, resolve_self document node resolved]
  cases resolved with
  | @scalar leaf untagged =>
      have absent := is_absent_iff leaf untagged
      by_cases empty : leaf.isAbsent = true
      · simp [empty, absent.mp empty, nothing, eq_comm]
      · simp [empty, absent.not.mp empty]
  | sequence inner => simp [refuse, nothing]
  | mapping keys values => simp [nothing]

theorem once_iff (path : Path) (name : String) (known : Option α) (value : Except Refusal α)
    (set : Option α → β) (last : β) :
    (once path name known value >>= fun read => Except.ok (set read)) = .ok last ↔
      known = none ∧ ∃ read, value = .ok read ∧ last = set (some read) := by
  cases known with
  | some _ => exact ⟨nofun, fun ⟨absent, _⟩ => absurd absent nofun⟩
  | none =>
      cases value with
      | error _ => exact ⟨nofun, fun ⟨_, _, absent, _⟩ => absurd absent nofun⟩
      | ok read =>
          change Except.ok (set (some read)) = .ok last ↔ _
          simp [eq_comm]

def gateLayout : Layout GateFields where
  slots :=
    [⟨UInt32, "grace_ms", IsWord, GateFields.graceMillis,
        fun fields word => { fields with graceMillis := some word }, fun _ _ => rfl⟩,
      ⟨UInt32, "fade_ms", IsWord, GateFields.fadeMillis,
        fun fields word => { fields with fadeMillis := some word }, fun _ _ => rfl⟩]
  blank := {}
  unset := by simp
  apart := by simp
  whole := by
    rintro ⟨_, _⟩ ⟨_, _⟩ same
    simpa using same

theorem gate_read_iff (document : Document) (path : Path) (entry : Node × Node)
    (key : entry.1.Resolved) (value : entry.2.Resolved) (fields next : GateFields) :
    GateFields.read document path fields entry = .ok next ↔
      gateLayout.Puts entry fields next := by
  simp only [GateFields.read, bind_ok_iff, readName, read_text_iff _ _ _ _ _ key, Layout.Puts,
    gateLayout, List.mem_cons, List.not_mem_nil, or_false, exists_eq_or_imp, exists_eq_left]
  cases entry.1.text? with
  | none => simp
  | some name =>
      simp only [Option.some.injEq, exists_eq_left']
      by_cases grace : name = "grace_ms"
      · subst grace
        simp only [↓reduceIte, once_iff, read_word_iff _ _ _ _ value]
        simp
      by_cases fade : name = "fade_ms"
      · subst fade
        simp only [grace, ↓reduceIte, once_iff, read_word_iff _ _ _ _ value]
        simp
      · simp [grace, fade]

end Settings

namespace Yaml.Node

open Settings

/-- A gate as a document gives it: two words, each of which may be left out, and so may both. -/
def IsGate (node : Node) (gate : GateSettings) : Prop :=
  node = nothing ∧ gate = ⟨0, 10⟩ ∨
    ∃ entries, node = .mapping entries ∧ Strict ["grace_ms", "fade_ms"] entries ∧
      ∃ grace fade, Gives IsWord entries "grace_ms" grace ∧ Gives IsWord entries "fade_ms" fade ∧
        gate = ⟨grace.getD 0, fade.getD 10⟩

end Yaml.Node

namespace Settings

open Node

theorem gate_fields_iff (document : Document) (path : Path) (entries : List (Node × Node))
    (last : GateFields) (keys : ∀ entry ∈ entries, entry.1.Resolved)
    (values : ∀ entry ∈ entries, entry.2.Resolved) :
    entries.foldlM (GateFields.read document path) {} = .ok last ↔
      Strict ["grace_ms", "fade_ms"] entries ∧ Gives IsWord entries "grace_ms" last.graceMillis ∧
        Gives IsWord entries "fade_ms" last.fadeMillis := by
  have read := gateLayout.read_iff (GateFields.read document path) entries
    (fun entry member => gate_read_iff document path entry (keys entry member)
      (values entry member)) last
  simpa [gateLayout, Layout.names] using read

theorem read_gate_iff (document : Document) (path : Path) (node : Node) (gate : GateSettings)
    (resolved : node.Resolved) : readGate document path node = .ok gate ↔ node.IsGate gate := by
  simp only [readGate, bind_ok_iff, read_entries_iff _ _ _ _ _ resolved, Except.ok.injEq]
  constructor
  · rintro ⟨entries, ⟨rfl, rfl⟩ | rfl, fields, read, rfl⟩
    · cases read
      exact Or.inl ⟨rfl, rfl⟩
    · cases resolved with
      | mapping keys values =>
          obtain ⟨strict, grace, fade⟩ :=
            (gate_fields_iff document path entries fields keys values).mp read
          exact Or.inr ⟨entries, rfl, strict, fields.graceMillis, fields.fadeMillis, grace, fade,
            rfl⟩
  · rintro (⟨rfl, rfl⟩ | ⟨entries, rfl, strict, grace, fade, graceGiven, fadeGiven, rfl⟩)
    · exact ⟨[], Or.inl ⟨rfl, rfl⟩, {}, rfl, rfl⟩
    · cases resolved with
      | mapping keys values =>
          refine ⟨entries, Or.inr rfl, ⟨grace, fade⟩, ?_, rfl⟩
          exact (gate_fields_iff document path entries _ keys values).mpr
            ⟨strict, graceGiven, fadeGiven⟩

def fieldsLayout : Layout Fields where
  slots :=
    [⟨UInt32, "version", IsWord, Fields.version,
        fun fields version => { fields with version := some version }, fun _ _ => rfl⟩,
      ⟨GateSettings, "gate", IsGate, Fields.gate,
        fun fields gate => { fields with gate := some gate }, fun _ _ => rfl⟩,
      ⟨List String, "entitlements", IsTexts, Fields.entitlements,
        fun fields entitlements => { fields with entitlements := some entitlements },
        fun _ _ => rfl⟩]
  blank := {}
  unset := by simp
  apart := by simp
  whole := by
    rintro ⟨_, _, _⟩ ⟨_, _, _⟩ same
    simpa using same

theorem fields_read_iff (document : Document) (entry : Node × Node) (key : entry.1.Resolved)
    (value : entry.2.Resolved) (fields next : Fields) :
    Fields.read document fields entry = .ok next ↔ fieldsLayout.Puts entry fields next := by
  simp only [Fields.read, bind_ok_iff, readName, read_text_iff _ _ _ _ _ key, Layout.Puts,
    fieldsLayout, List.mem_cons, List.not_mem_nil, or_false, exists_eq_or_imp, exists_eq_left]
  cases entry.1.text? with
  | none => simp
  | some name =>
      simp only [Option.some.injEq, exists_eq_left']
      by_cases version : name = "version"
      · subst version
        simp only [↓reduceIte, once_iff, read_word_iff _ _ _ _ value]
        simp
      by_cases gate : name = "gate"
      · subst gate
        simp only [version, ↓reduceIte, once_iff, read_gate_iff _ _ _ _ value]
        simp
      by_cases entitlements : name = "entitlements"
      · subst entitlements
        simp only [version, gate, ↓reduceIte, once_iff, read_texts_iff _ _ _ _ value]
        simp
      · simp [version, gate, entitlements]

theorem fields_iff (document : Document) (entries : List (Node × Node)) (last : Fields)
    (keys : ∀ entry ∈ entries, entry.1.Resolved) (values : ∀ entry ∈ entries, entry.2.Resolved) :
    entries.foldlM (Fields.read document) {} = .ok last ↔
      Strict ["version", "gate", "entitlements"] entries ∧
        Gives IsWord entries "version" last.version ∧ Gives IsGate entries "gate" last.gate ∧
        Gives IsTexts entries "entitlements" last.entitlements := by
  have read := fieldsLayout.read_iff (Fields.read document) entries
    (fun entry member => fields_read_iff document entry (keys entry member)
      (values entry member)) last
  simpa [fieldsLayout, Layout.names] using read

theorem finish_iff (fields : Fields) (settings : Settings) :
    fields.finish = .ok settings ↔ fields.version = some settings.version ∧
      settings.gate = fields.gate.getD ⟨0, 10⟩ ∧
      settings.entitlements = fields.entitlements.getD [] := by
  obtain ⟨version, gate, entitlements⟩ := settings
  cases known : fields.version with
  | none => simp [Fields.finish, known]
  | some read =>
      simp only [Fields.finish, known, Except.ok.injEq, Settings.mk.injEq, Option.some.injEq]
      exact and_congr Iff.rfl (and_congr eq_comm eq_comm)

end Settings

namespace Yaml.Node

open Settings

/-- Settings as a document gives them: only the version may not be left out. -/
def IsSettings (node : Node) (settings : Settings) : Prop :=
  ∃ entries, node = .mapping entries ∧ Strict ["version", "gate", "entitlements"] entries ∧
    Gives IsWord entries "version" (some settings.version) ∧
    ∃ gate entitlements, Gives IsGate entries "gate" gate ∧
      Gives IsTexts entries "entitlements" entitlements ∧
      settings.gate = gate.getD ⟨0, 10⟩ ∧ settings.entitlements = entitlements.getD []

def IsValidSettings (node : Node) (settings : Settings) : Prop :=
  node.IsSettings settings ∧ settings.version = 1 ∧
    settings.gate.graceMillis.toNat ≤ 600000 ∧ settings.gate.fadeMillis.toNat ≤ 1000 ∧
    ∀ entitlement ∈ settings.entitlements, ¬ Blank entitlement

end Yaml.Node

namespace Settings

open Node

theorem of_node_iff (document : Document) (node : Node) (settings : Settings)
    (resolved : node.Resolved) :
    ofNode document node = .ok settings ↔ node.IsSettings settings := by
  simp only [ofNode, bind_ok_iff, read_entries_iff _ _ _ _ _ resolved, finish_iff]
  constructor
  · rintro ⟨entries, ⟨rfl, rfl⟩ | rfl, fields, read, version, gate, entitlements⟩
    -- An empty document is read as an empty mapping, which lacks the version.
    · cases read
      exact absurd version nofun
    · cases resolved with
      | mapping keys values =>
          obtain ⟨strict, versionGiven, gateGiven, textsGiven⟩ :=
            (fields_iff document entries fields keys values).mp read
          rw [version] at versionGiven
          exact ⟨entries, rfl, strict, versionGiven, fields.gate, fields.entitlements, gateGiven,
            textsGiven, gate, entitlements⟩
  · rintro ⟨entries, rfl, strict, version, gate, entitlements, gateGiven, textsGiven, same⟩
    cases resolved with
    | mapping keys values =>
        refine ⟨entries, Or.inr rfl, ⟨some settings.version, gate, entitlements⟩, ?_, rfl, same⟩
        exact (fields_iff document entries _ keys values).mpr
          ⟨strict, version, gateGiven, textsGiven⟩

end Settings

end LicenseGate
