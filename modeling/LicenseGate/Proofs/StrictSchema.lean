import LicenseGate.Proofs.Schema

/-!
Documents with the same entries in another order hold the same settings.
-/

namespace LicenseGate

open Yaml

namespace Yaml.Node

/-- Trees that differ in the order of entries only, in a mapping or in mappings inside it. -/
inductive Reordered : Node → Node → Prop where
  | refl (node : Node) : Reordered node node
  | entries {entries others : List (Node × Node)} : entries.Perm others →
      Reordered (.mapping entries) (.mapping others)
  | value {before after : List (Node × Node)} {key value other : Node} : Reordered value other →
      Reordered (.mapping (before ++ (key, value) :: after))
        (.mapping (before ++ (key, other) :: after))
  | trans {first second third : Node} : Reordered first second → Reordered second third →
      Reordered first third

/-- Entries that have the keys of others, and each value reordered under its key among them. -/
structure Carried (entries others : List (Node × Node)) : Prop where
  keys : (entries.map Prod.fst).Perm (others.map Prod.fst)
  values : ∀ entry ∈ entries, ∃ like, (entry.1, like) ∈ others ∧ entry.2.Reordered like

theorem carried_trans (first second third : List (Node × Node)) (one : Carried first second)
    (two : Carried second third) : Carried first third := by
  refine ⟨one.keys.trans two.keys, ?_⟩
  intro entry member
  obtain ⟨middle, listed, near⟩ := one.values entry member
  obtain ⟨last, found, far⟩ := two.values (entry.1, middle) listed
  exact ⟨last, found, near.trans far⟩

theorem reordered_cases (node other : Node) (reordered : node.Reordered other) :
    other = node ∨ ∃ entries others, node = .mapping entries ∧ other = .mapping others ∧
      Carried entries others := by
  induction reordered with
  | refl node => exact Or.inl rfl
  | @entries entries others same =>
      refine Or.inr ⟨entries, others, rfl, rfl, same.map Prod.fst, ?_⟩
      exact fun entry member => ⟨entry.2, same.mem_iff.mp member, Reordered.refl entry.2⟩
  | @value before after key value other inner _ =>
      refine Or.inr ⟨_, _, rfl, rfl, by simp, ?_⟩
      intro entry member
      rcases List.mem_append.mp member with earlier | within
      · exact ⟨entry.2, List.mem_append_left _ earlier, Reordered.refl entry.2⟩
      rcases List.mem_cons.mp within with rfl | later
      · exact ⟨other, by simp, inner⟩
      · exact ⟨entry.2, List.mem_append_right before (List.mem_cons_of_mem _ later),
          Reordered.refl entry.2⟩
  | trans _ _ near far =>
      rcases near with rfl | ⟨entries, middle, rfl, rfl, one⟩
      · exact far
      rcases far with rfl | ⟨_, others, same, rfl, two⟩
      · exact Or.inr ⟨entries, middle, rfl, rfl, one⟩
      · cases same
        exact Or.inr ⟨entries, others, rfl, rfl, carried_trans entries middle others one two⟩

theorem Reordered.symm {node other : Node} (reordered : node.Reordered other) :
    other.Reordered node := by
  induction reordered with
  | refl node => exact Reordered.refl node
  | entries same => exact Reordered.entries same.symm
  | value _ ih => exact Reordered.value ih
  | trans _ _ near far => exact far.trans near

theorem resolved_reordered (node other : Node) (reordered : node.Reordered other)
    (resolved : node.Resolved) : other.Resolved := by
  induction reordered with
  | refl node => exact resolved
  | entries same =>
      cases resolved with
      | mapping keys values =>
          exact Resolved.mapping (fun entry member => keys entry (same.mem_iff.mpr member))
            (fun entry member => values entry (same.mem_iff.mpr member))
  | value _ ih =>
      cases resolved with
      | mapping keys values =>
          simp only [List.forall_mem_append, List.forall_mem_cons] at keys values
          refine Resolved.mapping ?_ ?_
          · simpa only [List.forall_mem_append, List.forall_mem_cons] using keys
          · simpa only [List.forall_mem_append, List.forall_mem_cons] using
              ⟨values.1, ih values.2.1, values.2.2⟩
  | trans _ _ near far => exact far (near resolved)

theorem word_reordered (node other : Node) (reordered : node.Reordered other) (word : UInt32)
    (held : node.IsWord word) : other.IsWord word := by
  rcases reordered_cases node other reordered with rfl | ⟨_, _, rfl, -, -⟩
  · exact held
  · obtain ⟨_, absurdity, -⟩ := held
    exact absurd absurdity nofun

theorem texts_reordered (node other : Node) (reordered : node.Reordered other)
    (texts : List String) (held : node.IsTexts texts) : other.IsTexts texts := by
  rcases reordered_cases node other reordered with rfl | ⟨_, _, rfl, -, -⟩
  · exact held
  · rcases held with ⟨absurdity, -⟩ | ⟨_, absurdity, -⟩
    · exact absurd absurdity nofun
    · exact absurd absurdity nofun

end Yaml.Node

namespace Settings

open Node

theorem gives_carried (holds : Node → α → Prop) (name : String)
    (entries others : List (Node × Node)) (last : Option α) (carried : Carried entries others)
    (kept : ∀ node other, node.Reordered other → ∀ value, holds node value → holds other value)
    (gives : Gives holds entries name last) : Gives holds others name last := by
  refine gives_keys holds name entries others last carried.keys ?_ gives
  intro entry member value held
  obtain ⟨like, listed, inner⟩ := carried.values entry member
  exact ⟨like, listed, kept entry.2 like inner value held⟩

theorem gate_reordered (node other : Node) (reordered : node.Reordered other)
    (gate : GateSettings) (held : node.IsGate gate) : other.IsGate gate := by
  rcases reordered_cases node other reordered with rfl | ⟨entries, others, rfl, rfl, carried⟩
  · exact held
  rcases held with ⟨absurdity, -⟩ | ⟨_, same, strict, grace, fade, graceGiven, fadeGiven, rfl⟩
  · exact absurd absurdity nofun
  · cases same
    exact Or.inr ⟨others, rfl, strict_keys _ entries others carried.keys strict, grace, fade,
      gives_carried _ _ entries others _ carried word_reordered graceGiven,
      gives_carried _ _ entries others _ carried word_reordered fadeGiven, rfl⟩

theorem settings_reordered (node other : Node) (reordered : node.Reordered other)
    (settings : Settings) (held : node.IsSettings settings) : other.IsSettings settings := by
  rcases reordered_cases node other reordered with rfl | ⟨entries, others, rfl, rfl, carried⟩
  · exact held
  obtain ⟨_, same, strict, version, gate, entitlements, gateGiven, textsGiven, parts⟩ := held
  cases same
  exact ⟨others, rfl, strict_keys _ entries others carried.keys strict,
    gives_carried _ _ entries others _ carried word_reordered version, gate, entitlements,
    gives_carried _ _ entries others _ carried gate_reordered gateGiven,
    gives_carried _ _ entries others _ carried texts_reordered textsGiven, parts⟩

theorem valid_reordered_iff (node other : Node) (reordered : node.Reordered other)
    (settings : Settings) : other.IsValidSettings settings ↔ node.IsValidSettings settings := by
  -- The limits are about the settings and do not look at the tree.
  apply and_congr_left
  intro _
  exact ⟨settings_reordered other node reordered.symm settings,
    settings_reordered node other reordered settings⟩

theorem accepted_iff (document : Document) (node : Node) (resolved : node.Resolved)
    (settings : Settings) :
    (ofNode document node = .ok settings ∧ settings.validate = .ok ()) ↔
      node.IsValidSettings settings := by
  rw [of_node_iff document node settings resolved, validate_iff, IsValidSettings]
  constructor
  · rintro ⟨read, version, unblank, grace, fade⟩
    exact ⟨read, version, grace, fade, unblank⟩
  · rintro ⟨read, version, grace, fade, unblank⟩
    exact ⟨read, version, unblank, grace, fade⟩

theorem of_document_iff (document : Document) (settings : Settings) :
    ofDocument document = .ok settings ↔
      ofNode document document.root = .ok settings ∧ document.complete = true := by
  rw [ofDocument, bind_ok_iff]
  cases document.complete <;> simp

/-- Which trees are accepted, and as what settings, whatever the order of their entries. A text is
accepted when its tree is and nothing follows it. -/
theorem strict_schema (document : Document) (node : Node) (resolved : node.Resolved) :
    (∀ settings, (ofNode document node = .ok settings ∧ settings.validate = .ok ()) ↔
      node.IsValidSettings settings) ∧
    (∀ other, node.Reordered other → ∀ settings,
      (ofNode document other = .ok settings ∧ settings.validate = .ok ()) ↔
        node.IsValidSettings settings) ∧
    (∀ text, (Document.ofText text).root = node → ∀ settings, ofText text = .ok settings ↔
      (Document.ofText text).complete = true ∧ node.IsValidSettings settings) := by
  refine ⟨accepted_iff document node resolved, ?_, ?_⟩
  · intro other reordered settings
    rw [accepted_iff document other (resolved_reordered node other reordered resolved)]
    exact valid_reordered_iff node other reordered settings
  · intro text root settings
    rw [of_text_iff, of_document_iff, root, ← accepted_iff (Document.ofText text) node resolved]
    exact ⟨fun ⟨⟨read, complete⟩, valid⟩ => ⟨complete, read, valid⟩,
      fun ⟨complete, read, valid⟩ => ⟨⟨read, complete⟩, valid⟩⟩

def backwards : Node :=
  let plain (text : String) : Node := .scalar ⟨.plain, none, text.toList⟩
  .mapping [(plain "gate", .mapping [(plain "fade_ms", plain "0x10")]),
    (plain "version", plain "+1")]

theorem strict_schema_backwards :
    backwards.Resolved ∧ backwards.IsValidSettings ⟨1, ⟨0, 16⟩, []⟩ ∧
      (∀ other, backwards.Reordered other →
        ofNode .void other = .ok ⟨1, ⟨0, 16⟩, []⟩) ∧
      ofText "gate:\n  fade_ms: 0x10\nversion: +1\n".toList = .ok ⟨1, ⟨0, 16⟩, []⟩ := by
  have resolved : backwards.Resolved := by
    refine Resolved.mapping ?_ ?_ <;> simp [Resolved.scalar, Resolved.mapping]
  obtain ⟨accepted, order, texts⟩ := strict_schema .void backwards resolved
  have valid := (accepted ⟨1, ⟨0, 16⟩, []⟩).mp ⟨by cbv, by decide⟩
  refine ⟨resolved, valid, ?_, ?_⟩
  · exact fun other reordered => ((order other reordered _).mpr valid).1
  · exact (texts _ (by cbv) _).mpr ⟨by cbv, valid⟩

end Settings

end LicenseGate
