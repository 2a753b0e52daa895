import LicenseGate.Proofs.LicenseDecision

/-!
What is read from a feature array. An entry may end the array, be passed over or be kept, and which
of these it is depends on it alone; the features that a host means are read back from the array that
it writes for them.
-/

namespace LicenseGate

open Text

namespace RawFeature

/-- What callers promise of an entry: behind the licensing feature there is a host or nothing. -/
def Promised (entry : Option RawFeature) : Prop :=
  ∀ value, entry = some ⟨some (Utf8.encode licenseFeature.toList), .address value⟩ → value = 0

/-- What an entry before the end of an array is read as, if it is kept. -/
inductive ReadAs (place : Nat) : Option RawFeature → Option Capability → Prop where
  | unreadable {uri : List UInt8} {data : RawData} : (∀ text, uri ≠ Utf8.encode text) →
      ReadAs place (some ⟨some uri, data⟩) none
  | empty {data : RawData} : data.asAddress = 0 →
      ReadAs place (some ⟨some (Utf8.encode licenseFeature.toList), data⟩) none
  | licensing {address : Nat} {host : Host} {present : address ≠ 0} :
      ReadAs place (some ⟨some (Utf8.encode licenseFeature.toList), .host address host present⟩)
        (some (.licensing (.ofHost place host)))
  | other {uri : String} {data : RawData} : uri ≠ licenseFeature →
      ReadAs place (some ⟨some (Utf8.encode uri.toList), data⟩) (some (.other uri data.asAddress))

theorem read_as_iff (place : Nat) (uri : List UInt8) (data : RawData) (read : Option Capability)
    (promised : Promised (some ⟨some uri, data⟩)) :
    ReadAs place (some ⟨some uri, data⟩) read ↔ capability? place uri data = read := by
  constructor
  · intro reading
    cases reading with
    | unreadable unwritten => simp only [capability?, (Utf8.decode_eq_none_iff uri).mpr unwritten]
    | empty absent =>
        cases data with
        | address value => simp [capability?, Utf8.decode_encode]
        | host address host present => exact absurd absent present
    | licensing => simp [capability?, Utf8.decode_encode]
    | other different => simp [capability?, Utf8.decode_encode, different]
  · rintro rfl
    rcases Utf8.decode_cases uri with ⟨text, rfl⟩ | unread
    · simp only [capability?, Utf8.decode_encode, String.ofList_toList]
      by_cases identified : text = licenseFeature
      · rw [if_pos identified, identified]
        rw [identified] at promised
        cases data with
        | address value => exact .empty (promised value rfl)
        | host address host present => exact .licensing
      · rw [if_neg identified]
        exact .other identified
    · simp only [capability?, unread]
      exact .unreadable ((Utf8.decode_eq_none_iff uri).mp unread)

theorem read_as_licensing_iff (place : Nat) (entry : Option RawFeature) (capability : Capability)
    (reading : ReadAs place entry (some capability)) :
    (∃ service, capability.data = .licensing service) ↔ capability.uri = licenseFeature := by
  cases reading with
  | licensing => exact ⟨fun _ => rfl, fun _ => ⟨_, rfl⟩⟩
  | other different => exact ⟨nofun, fun same => absurd same different⟩

end RawFeature

namespace CapabilityList

def entriesRead (place : Nat) (features : List (Option RawFeature)) :
    List (Option RawFeature × Nat) :=
  (features.takeWhile RawFeature.goesOn).zipIdx place

theorem kept_cons (reading : Option Capability) (readings : List (Option Capability)) :
    (reading :: readings).reduceOption = reading.toList ++ readings.reduceOption := by
  cases reading <;> rfl

theorem read_entries_iff (place : Nat) (features : List (Option RawFeature))
    (promised : ∀ entry ∈ features.takeWhile RawFeature.goesOn, RawFeature.Promised entry)
    (capabilities : CapabilityList) :
    readEntries place features = capabilities ↔
      ∃ readings, List.Forall₂ (fun entry reading => RawFeature.ReadAs entry.2 entry.1 reading)
          (entriesRead place features) readings ∧ readings.reduceOption = capabilities := by
  induction features generalizing place capabilities with
  | nil => simp [readEntries, entriesRead]
  | cons entry rest ih =>
      rcases entry with - | ⟨- | uri, data⟩
      · simp [readEntries, entriesRead, RawFeature.goesOn]
      · simp [readEntries, entriesRead, RawFeature.goesOn]
      · have reached : RawFeature.goesOn (some ⟨some uri, data⟩) = true := rfl
        rw [List.takeWhile_cons_of_pos reached] at promised
        have reads := RawFeature.read_as_iff place uri data
        have later := ih (place + 1) fun entry listed => promised entry (List.mem_cons_of_mem _ listed)
        have first := promised _ List.mem_cons_self
        rw [entriesRead, List.takeWhile_cons_of_pos reached, List.zipIdx_cons, readEntries]
        constructor
        · rintro rfl
          obtain ⟨readings, listed, kept⟩ := (later _).mp rfl
          exact ⟨_, .cons ((reads _ first).mpr rfl) listed, by rw [kept_cons, kept]⟩
        · rintro ⟨readings, listed, rfl⟩
          cases listed with
          | cons reading listed =>
              rw [(later _).mpr ⟨_, listed, rfl⟩, (reads _ first).mp reading, kept_cons]

theorem read_entries_ended (place : Nat) (before after : List (Option RawFeature))
    (stop : Option RawFeature) (stopped : RawFeature.goesOn stop = false) :
    readEntries place (before ++ stop :: after) = readEntries place before := by
  induction before generalizing place with
  | nil =>
      rcases stop with - | ⟨- | uri, data⟩
      · rfl
      · rfl
      · exact absurd stopped nofun
  | cons entry rest ih =>
      rcases entry with - | ⟨- | uri, data⟩
      · rfl
      · rfl
      · rw [List.cons_append, readEntries, readEntries, ih]

end CapabilityList

/-- A feature as a host means it: its licensing, or another one under an identifier of its own that
a zero byte may end. -/
inductive Offer where
  | licensing (address : Nat) (host : Host) (present : address ≠ 0)
  | other (uri : String) (address : Nat) (different : uri ≠ licenseFeature)
      (unbroken : '\x00' ∉ uri.toList)

namespace Offer

def uri : Offer → String
  | licensing .. => licenseFeature
  | other uri .. => uri

def data : Offer → RawData
  | licensing address host present => .host address host present
  | other _ address .. => .address address

def entry (offer : Offer) : Option RawFeature :=
  some ⟨some (Utf8.terminated offer.uri.toList), offer.data⟩

def capability (place : Nat) : Offer → Capability
  | licensing _ host _ => .licensing (.ofHost place host)
  | other uri address .. => .other uri address

theorem uri_unbroken (offer : Offer) : '\x00' ∉ offer.uri.toList := by
  cases offer with
  | licensing =>
      change '\x00' ∉ licenseFeature.toList
      decide
  | other _ _ _ unbroken => exact unbroken

theorem read_back (offer : Offer) (place : Nat) :
    RawFeature.capability? place (Utf8.terminated offer.uri.toList) offer.data =
      some (offer.capability place) := by
  rw [Utf8.terminated_exact _ offer.uri_unbroken]
  simp only [RawFeature.capability?, Utf8.decode_encode, String.ofList_toList]
  cases offer with
  | licensing => simp [uri, data, capability]
  | other _ _ different _ => simp [uri, data, capability, different, RawData.asAddress]

end Offer

namespace CapabilityList

theorem read_entries_offers (place : Nat) (offers : List Offer) :
    readEntries place (offers.map Offer.entry) =
      offers.mapIdx fun index offer => offer.capability (place + index) := by
  induction offers generalizing place with
  | nil => rfl
  | cons offer rest ih =>
      have shift (index : Nat) : place + 1 + index = place + (index + 1) := by omega
      rw [List.map_cons, Offer.entry, readEntries, offer.read_back, ih, List.mapIdx_cons]
      simp only [Option.toList_some, List.singleton_append, Nat.add_zero, shift]

/-- Reading an array stops at its end, passes over what cannot be used, and keeps the rest as it is
and in order. -/
theorem array_reading (features : Option (List (Option RawFeature)))
    (promised : ∀ entry ∈ (features.getD []).takeWhile RawFeature.goesOn,
      RawFeature.Promised entry) :
    (∀ capabilities, ofArray features = capabilities ↔
      ∃ readings, List.Forall₂ (fun entry reading => RawFeature.ReadAs entry.2 entry.1 reading)
          (entriesRead 0 (features.getD [])) readings ∧ readings.reduceOption = capabilities) ∧
    (∀ capability ∈ ofArray features,
      (∃ service, capability.data = .licensing service) ↔ capability.uri = licenseFeature) ∧
    (∀ (before after : List (Option RawFeature)) (stop : Option RawFeature),
      RawFeature.goesOn stop = false →
        ofArray (some (before ++ stop :: after)) = ofArray (some before)) ∧
    (∀ (offers : List Offer) (after : List (Option RawFeature)),
      ofArray (some (offers.map Offer.entry ++ none :: after)) =
        offers.mapIdx fun place offer => offer.capability place) := by
  have walked := read_entries_iff 0 (features.getD []) promised
  refine ⟨walked, ?_, fun before after stop stopped =>
    read_entries_ended 0 before after stop stopped, ?_⟩
  · intro capability kept
    obtain ⟨readings, listed, same⟩ := (walked _).mp rfl
    rw [ofArray, ← same, List.reduceOption_mem_iff] at kept
    obtain ⟨index, inside, found⟩ := List.getElem_of_mem kept
    have reading := listed.get (by rwa [listed.length_eq]) inside
    rw [List.get_eq_getElem, List.get_eq_getElem, found] at reading
    exact RawFeature.read_as_licensing_iff _ _ capability reading
  · intro offers after
    simpa [ofArray, read_entries_ended 0 (offers.map Offer.entry) after none rfl] using
      read_entries_offers 0 offers

theorem array_reading_passes_over :
    (∀ entry ∈ [some ⟨some [0xc0, 0x80], .address 1⟩,
        some ⟨some (Utf8.encode licenseFeature.toList), .address 0⟩,
        some ⟨some (Utf8.encode licenseFeature.toList), .host 9 ⟨none, false⟩⟩,
        some ⟨some (Utf8.encode "a".toList), .address 0⟩], RawFeature.Promised entry) ∧
      ofArray (some [some ⟨some [0xc0, 0x80], .address 1⟩,
        some ⟨some (Utf8.encode licenseFeature.toList), .address 0⟩,
        some ⟨some (Utf8.encode licenseFeature.toList), .host 9 ⟨none, false⟩⟩,
        some ⟨some (Utf8.encode "a".toList), .address 0⟩,
        some ⟨none, .address 5⟩, some ⟨some [0x62], .address 6⟩]) =
      [.licensing (.ofHost 2 ⟨none, false⟩), .other "a" 0] := by
  have promised : ∀ entry ∈ [some ⟨some [0xc0, 0x80], .address 1⟩,
      some ⟨some (Utf8.encode licenseFeature.toList), .address 0⟩,
      some ⟨some (Utf8.encode licenseFeature.toList), .host 9 ⟨none, false⟩⟩,
      some ⟨some (Utf8.encode "a".toList), .address 0⟩], RawFeature.Promised entry := by
    intro entry listed value same
    simp only [List.mem_cons, List.not_mem_nil, or_false] at listed
    rcases listed with rfl | rfl | rfl | rfl <;>
      simp only [Option.some.injEq, RawFeature.mk.injEq, RawData.address.injEq] at same <;>
      obtain ⟨identified, found⟩ := same
    · exact absurd identified (by decide)
    · exact found.symm
    · cases found
    · exact absurd identified (by decide)
  refine ⟨promised, ((array_reading (some _) ?_).1 _).mpr
    ⟨[none, none, some _, some _], ?_, rfl⟩⟩
  · exact promised
  · have unwritten : ∀ text, [0xc0, 0x80] ≠ Utf8.encode text :=
      (Utf8.decode_eq_none_iff _).mp (by decide)
    exact .cons (.unreadable unwritten) (.cons (.empty rfl) (.cons .licensing
      (.cons (.other (by decide)) .nil)))

end CapabilityList

end LicenseGate
