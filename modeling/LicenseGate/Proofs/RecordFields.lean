import LicenseGate.Yaml.Node
import Mathlib

/-!
Records read from the entries of a mapping, one entry after another, with no name twice. What is
read is what the mapping gives under each name; no trace is left of the order of the entries.
-/

namespace LicenseGate

open Yaml

def Yaml.Node.text? : Node → Option String
  | .scalar leaf => some (String.ofList leaf.text)
  | .sequence _ | .mapping _ | .alias _ | .cut => none

namespace Settings

theorem bind_ok_iff (first : Except ε α) (next : α → Except ε β) (last : β) :
    (first >>= next) = .ok last ↔ ∃ value, first = .ok value ∧ next value = .ok last := by
  cases first with
  | error fault => exact ⟨nofun, fun ⟨_, absent, _⟩ => absurd absent nofun⟩
  | ok value =>
      constructor
      · exact fun same => ⟨value, rfl, same⟩
      · rintro ⟨_, same, later⟩
        cases same
        exact later

/-- How the entries of a mapping, met in order, fill one field. -/
def Fills (holds : Node → α → Prop) (name : String) :
    List (Node × Node) → Option α → Option α → Prop
  | [], known, last => last = known
  | entry :: rest, known, last =>
      if entry.1.text? = some name then
        known = none ∧ ∃ value, holds entry.2 value ∧ Fills holds name rest (some value) last
      else Fills holds name rest known last

/-- What a mapping gives for a field: nothing, or a value somewhere in it. -/
def Gives (holds : Node → α → Prop) (entries : List (Node × Node)) (name : String) :
    Option α → Prop
  | none => ∀ entry ∈ entries, entry.1.text? ≠ some name
  | some value => ∃ entry ∈ entries, entry.1.text? = some name ∧ holds entry.2 value

section

variable (holds : Node → α → Prop) (name : String)

theorem fills_here (entry : Node × Node) (rest : List (Node × Node)) (known last : Option α)
    (named : entry.1.text? = some name) :
    Fills holds name (entry :: rest) known last ↔
      known = none ∧ ∃ value, holds entry.2 value ∧ Fills holds name rest (some value) last := by
  rw [Fills, if_pos named]

theorem fills_elsewhere (other : String) (entry : Node × Node) (rest : List (Node × Node))
    (known last : Option α) (named : entry.1.text? = some other) (different : other ≠ name) :
    Fills holds name (entry :: rest) known last ↔ Fills holds name rest known last := by
  rw [Fills, if_neg (by rw [named, Option.some.injEq]; exact different)]

theorem fills_known (entries : List (Node × Node)) (value : α) (last : Option α) :
    Fills holds name entries (some value) last ↔
      last = some value ∧ ∀ entry ∈ entries, entry.1.text? ≠ some name := by
  induction entries with
  | nil => simp [Fills]
  | cons entry rest ih =>
      by_cases named : entry.1.text? = some name
      · simp [Fills, named]
      · simp [Fills, named, ih]

theorem fills_gives (entries : List (Node × Node)) (last : Option α)
    (distinct : (entries.map fun entry => entry.1.text?).Nodup) :
    Fills holds name entries none last ↔ Gives holds entries name last := by
  induction entries with
  | nil => cases last <;> simp [Fills, Gives]
  | cons entry rest ih =>
      obtain ⟨fresh, later⟩ := List.nodup_cons.mp distinct
      by_cases named : entry.1.text? = some name
      · have alone : ∀ other ∈ rest, other.1.text? ≠ some name := by
          intro other member same
          exact fresh (List.mem_map.mpr ⟨other, member, same.trans named.symm⟩)
        -- Once filled, a field only has to be absent from the rest.
        cases last with
        | none => simp [Fills, Gives, named, fills_known]
        | some value =>
            simp only [Fills, Gives, named, ↓reduceIte, true_and, fills_known]
            constructor
            · rintro ⟨_, here, same, -⟩
              cases same
              exact ⟨entry, List.mem_cons_self, named, here⟩
            · rintro ⟨other, member, same, here⟩
              rcases List.mem_cons.mp member with rfl | elsewhere
              · exact ⟨value, here, rfl, alone⟩
              · exact absurd same (alone other elsewhere)
      · cases last with
        | none => simp [Fills, Gives, named, ih later]
        | some value => simp [Fills, Gives, named, ih later]

theorem gives_at (entries : List (Node × Node)) (entry : Node × Node) (last : Option α)
    (distinct : (entries.map fun entry => entry.1.text?).Nodup) (member : entry ∈ entries)
    (named : entry.1.text? = some name) :
    Gives holds entries name last ↔ ∃ value, last = some value ∧ holds entry.2 value := by
  cases last with
  | none =>
      exact ⟨fun absent => absurd named (absent entry member), fun ⟨_, given, _⟩ => nomatch given⟩
  | some value =>
      constructor
      · rintro ⟨other, listed, same, held⟩
        cases List.inj_on_of_nodup_map distinct listed member (same.trans named.symm)
        exact ⟨value, rfl, held⟩
      · rintro ⟨_, ⟨⟩, held⟩
        exact ⟨entry, member, named, held⟩

theorem fills_once (entries : List (Node × Node)) (last : Option α)
    (fills : Fills holds name entries none last) :
    (entries.map fun entry => entry.1.text?).count (some name) ≤ 1 := by
  induction entries with
  | nil => simp
  | cons entry rest ih =>
      by_cases named : entry.1.text? = some name
      · simp only [Fills, named, ↓reduceIte, true_and, fills_known] at fills
        obtain ⟨_, _, -, alone⟩ := fills
        have absent : some name ∉ rest.map fun entry => entry.1.text? := by
          intro member
          obtain ⟨other, listed, same⟩ := List.mem_map.mp member
          exact alone other listed same
        simp [named, List.count_eq_zero.mpr absent]
      · simp only [Fills, named, ↓reduceIte] at fills
        simpa [named] using ih fills

end

/-- A mapping whose keys are all known names, each at most once. -/
structure Strict (known : List String) (entries : List (Node × Node)) : Prop where
  named : ∀ entry ∈ entries, ∃ name ∈ known, entry.1.text? = some name
  distinct : (entries.map fun entry => entry.1.text?).Nodup

theorem strict_of_counts (known : List String) (entries : List (Node × Node))
    (named : ∀ entry ∈ entries, ∃ name ∈ known, entry.1.text? = some name)
    (counts : ∀ name ∈ known, (entries.map fun entry => entry.1.text?).count (some name) ≤ 1) :
    Strict known entries := by
  refine ⟨named, List.nodup_iff_count_le_one.mpr ?_⟩
  intro key
  by_cases member : key ∈ entries.map fun entry => entry.1.text?
  · obtain ⟨entry, listed, rfl⟩ := List.mem_map.mp member
    obtain ⟨name, allowed, same⟩ := named entry listed
    rw [same]
    exact counts name allowed
  · rw [List.count_eq_zero.mpr member]
    exact Nat.zero_le 1

theorem strict_keys (known : List String) (entries others : List (Node × Node))
    (keys : (entries.map Prod.fst).Perm (others.map Prod.fst)) (strict : Strict known entries) :
    Strict known others := by
  have texts := keys.map Node.text?
  simp only [List.map_map] at texts
  refine ⟨?_, texts.nodup_iff.mp strict.distinct⟩
  intro entry member
  obtain ⟨first, listed, same⟩ := List.mem_map.mp (keys.mem_iff.mpr (List.mem_map_of_mem member))
  exact same ▸ strict.named first listed

theorem gives_keys (holds : Node → α → Prop) (name : String) (entries others : List (Node × Node))
    (last : Option α) (keys : (entries.map Prod.fst).Perm (others.map Prod.fst))
    (carried : ∀ entry ∈ entries, ∀ value, holds entry.2 value →
      ∃ like, (entry.1, like) ∈ others ∧ holds like value)
    (gives : Gives holds entries name last) : Gives holds others name last := by
  cases last with
  | none =>
      intro entry member
      obtain ⟨first, listed, same⟩ :=
        List.mem_map.mp (keys.mem_iff.mpr (List.mem_map_of_mem member))
      exact same ▸ gives first listed
  | some value =>
      obtain ⟨entry, member, named, held⟩ := gives
      obtain ⟨like, listed, kept⟩ := carried entry member value held
      exact ⟨(entry.1, like), listed, named, kept⟩

structure Slot (Record : Type) where
  Held : Type
  name : String
  holds : Node → Held → Prop
  get : Record → Option Held
  set : Record → Held → Record
  get_set : ∀ record value, get (set record value) = some value

/-- The fields of a record. No two have one name or one place, and nothing else is in the record. -/
structure Layout (Record : Type) where
  slots : List (Slot Record)
  blank : Record
  unset : ∀ slot ∈ slots, slot.get blank = none
  apart : ∀ slot ∈ slots, ∀ other ∈ slots, slot = other ∨
    slot.name ≠ other.name ∧ ∀ record value, other.get (slot.set record value) = other.get record
  whole : ∀ record last, (∀ slot ∈ slots, slot.get last = slot.get record) → last = record

namespace Layout

variable {Record : Type} (layout : Layout Record)

def names : List String := layout.slots.map Slot.name

def Puts (entry : Node × Node) (record next : Record) : Prop :=
  ∃ slot ∈ layout.slots, entry.1.text? = some slot.name ∧ slot.get record = none ∧
    ∃ value, slot.holds entry.2 value ∧ next = slot.set record value

theorem put_fills (entry : Node × Node) (rest : List (Node × Node)) (record last : Record)
    (slot : Slot Record) (listed : slot ∈ layout.slots)
    (named : entry.1.text? = some slot.name) (unset : slot.get record = none)
    (value : slot.Held) (held : slot.holds entry.2 value)
    (other : Slot Record) (member : other ∈ layout.slots)
    (fills : Fills other.holds other.name rest (other.get (slot.set record value))
      (other.get last)) :
    Fills other.holds other.name (entry :: rest) (other.get record) (other.get last) := by
  rcases layout.apart slot listed other member with rfl | ⟨different, kept⟩
  · rw [slot.get_set] at fills
    exact (fills_here _ _ entry rest _ _ named).mpr ⟨unset, value, held, fills⟩
  · rw [kept] at fills
    exact (fills_elsewhere _ _ _ entry rest _ _ named different).mpr fills

theorem fold_iff (step : Record → Node × Node → Except ε Record) (entries : List (Node × Node))
    (steps : ∀ entry ∈ entries, ∀ record next,
      step record entry = .ok next ↔ layout.Puts entry record next) (record last : Record) :
    entries.foldlM step record = .ok last ↔
      (∀ entry ∈ entries, ∃ name ∈ layout.names, entry.1.text? = some name) ∧
      ∀ slot ∈ layout.slots, Fills slot.holds slot.name entries (slot.get record)
        (slot.get last) := by
  induction entries generalizing record with
  | nil =>
      change Except.ok record = .ok last ↔ _
      rw [Except.ok.injEq]
      constructor
      · rintro rfl
        exact ⟨fun _ member => absurd member List.not_mem_nil, fun _ _ => rfl⟩
      · rintro ⟨-, same⟩
        exact (layout.whole record last same).symm
  | cons entry rest ih =>
      obtain ⟨first, later⟩ := List.forall_mem_cons.mp steps
      simp only [List.foldlM_cons, bind_ok_iff, first, ih later, List.forall_mem_cons]
      -- The key picks the field: it is filled here, the others by the rest alone.
      constructor
      · rintro ⟨_, ⟨slot, listed, named, unset, value, held, rfl⟩, known, fills⟩
        refine ⟨⟨⟨slot.name, List.mem_map_of_mem listed, named⟩, known⟩, ?_⟩
        intro other member
        exact layout.put_fills entry rest record last slot listed named unset value held other
          member (fills other member)
      · rintro ⟨⟨⟨name, among, named⟩, known⟩, fills⟩
        obtain ⟨slot, listed, rfl⟩ := List.mem_map.mp among
        obtain ⟨unset, value, held, filled⟩ :=
          (fills_here _ _ entry rest _ _ named).mp (fills slot listed)
        refine ⟨slot.set record value, ⟨slot, listed, named, unset, value, held, rfl⟩, known, ?_⟩
        intro other member
        rcases layout.apart slot listed other member with rfl | ⟨different, kept⟩
        · rw [slot.get_set]
          exact filled
        · rw [kept]
          exact (fills_elsewhere _ _ _ entry rest _ _ named different).mp (fills other member)

theorem read_iff (step : Record → Node × Node → Except ε Record) (entries : List (Node × Node))
    (steps : ∀ entry ∈ entries, ∀ record next,
      step record entry = .ok next ↔ layout.Puts entry record next) (last : Record) :
    entries.foldlM step layout.blank = .ok last ↔
      Strict layout.names entries ∧
      ∀ slot ∈ layout.slots, Gives slot.holds entries slot.name (slot.get last) := by
  rw [layout.fold_iff step entries steps]
  constructor
  · rintro ⟨known, fills⟩
    have filled : ∀ slot ∈ layout.slots,
        Fills slot.holds slot.name entries none (slot.get last) := by
      intro slot listed
      rw [← layout.unset slot listed]
      exact fills slot listed
    have strict : Strict layout.names entries := by
      refine strict_of_counts layout.names entries known ?_
      intro name among
      obtain ⟨slot, listed, rfl⟩ := List.mem_map.mp among
      exact fills_once _ _ entries _ (filled slot listed)
    exact ⟨strict, fun slot listed =>
      (fills_gives _ _ entries _ strict.distinct).mp (filled slot listed)⟩
  · rintro ⟨strict, gives⟩
    refine ⟨strict.named, ?_⟩
    intro slot listed
    rw [layout.unset slot listed]
    exact (fills_gives _ _ entries _ strict.distinct).mpr (gives slot listed)

end Layout

end Settings

end LicenseGate
