import LicenseGate.Proofs.InstanceRun

/-!
What an instance notes of the outputs that it gates: one action for each connected output, under
the number of its channel. Every call that gates outputs leaves the state that this record gives.
-/

namespace LicenseGate

namespace GateStats

def count (stats : GateStats) : GateAction → Nat
  | .passed => stats.passed
  | .faded => stats.faded
  | .silenced => stats.silenced

theorem count_seen (stats : GateStats) (channel : UInt32) (action : GateAction) :
    (stats.seeChannel channel).count action = stats.count action := by
  cases action <;> rfl

theorem count_counted (stats : GateStats) (done action : GateAction) :
    (stats.countAction done).count action =
      stats.count action + if done == action then 1 else 0 := by
  cases done <;> cases action <;> rfl

theorem channels_counted (stats : GateStats) (done : GateAction) :
    (stats.countAction done).channels = stats.channels := by
  cases done <;> rfl

/-- Statistics that differ at most in the channels seen. -/
def SameCounts (left right : GateStats) : Prop := left = { right with channels := left.channels }

theorem same_counts_counted (left right : GateStats) (channel other : UInt32) (done : GateAction)
    (same : SameCounts left right) :
    SameCounts ((left.seeChannel channel).countAction done)
      ((right.seeChannel other).countAction done) := by
  rw [SameCounts] at same
  rw [same]
  cases done <;> rfl

end GateStats

namespace Instance

theorem apply_count (plugin : Instance) (channel : UInt32) (buffer : Buffer)
    (action : GateAction) :
    (plugin.gate.apply plugin.verdict plugin.runCount channel buffer).1.stats.count action =
      plugin.gate.stats.count action + if (plugin.outcome buffer).1 == action then 1 else 0 := by
  rw [outcome]
  cases plugin.verdict <;> exact (GateStats.count_counted _ _ action).trans
    (congrArg (· + _) (GateStats.count_seen plugin.gate.stats channel action))

theorem apply_stats (plugin : Instance) (channel : UInt32) (buffer : Buffer) :
    (plugin.gate.apply plugin.verdict plugin.runCount channel buffer).1.stats =
      (plugin.gate.stats.seeChannel channel).countAction (plugin.outcome buffer).1 := by
  rw [outcome]
  cases plugin.verdict <;> rfl

def Connected (ports : List (Option Buffer)) (index : Nat) : Prop :=
  ∃ buffer, ports[index]? = some (some buffer)

theorem connected_map_iff (change : Buffer → Buffer) (ports : List (Option Buffer)) (index : Nat) :
    Connected (ports.map (Option.map change)) index ↔ Connected ports index := by
  rw [Connected, List.getElem?_map]
  constructor
  · rintro ⟨_, found⟩
    obtain ⟨port, found, changed⟩ := Option.map_eq_some_iff.mp found
    obtain ⟨buffer, same, -⟩ := Option.map_eq_some_iff.mp changed
    exact ⟨buffer, found.trans (congrArg some same)⟩
  · rintro ⟨buffer, found⟩
    exact ⟨change buffer, by rw [found]; rfl⟩

theorem connected_outputs_iff (outputs : List Buffer) (index : Nat) :
    Connected (outputs.map some) index ↔ index < outputs.length := by
  rw [Connected, List.getElem?_map]
  constructor
  · rintro ⟨_, found⟩
    obtain ⟨_, found, -⟩ := Option.map_eq_some_iff.mp found
    exact (List.getElem?_eq_some_iff.mp found).1
  · intro inside
    exact ⟨outputs[index], by rw [List.getElem?_eq_getElem inside]; rfl⟩

def recordPorts (plugin : Instance) (channel : Nat) : List (Option Buffer) → Instance
  | [] => plugin
  | none :: rest => plugin.recordPorts (channel + 1) rest
  | some buffer :: rest =>
      { plugin with
        gate := (plugin.gate.apply plugin.verdict plugin.runCount (UInt32.ofNat channel)
          buffer).1 }.recordPorts (channel + 1) rest

theorem gate_buffers_record (plugin : Instance) (channel : Nat) (outputs : List Buffer) :
    (plugin.gateBuffers channel outputs).1 = plugin.recordPorts channel (outputs.map some) := by
  induction outputs generalizing plugin channel with
  | nil => rfl
  | cons buffer rest ih => exact ih _ (channel + 1)

theorem gate_connected_record (plugin : Instance) (samples channel : Nat)
    (ports : List (Option Buffer)) :
    (plugin.gateConnected samples channel ports).1 =
      plugin.recordPorts channel (ports.map (Option.map (List.take samples))) := by
  induction ports generalizing plugin channel with
  | nil => rfl
  | cons port rest ih =>
      cases port with
      | none => exact ih plugin (channel + 1)
      | some buffer => exact ih _ (channel + 1)

theorem record_alike (plugin : Instance) (channel : Nat) (ports : List (Option Buffer)) :
    Alike (plugin.recordPorts channel ports) plugin := by
  induction ports generalizing plugin channel with
  | nil => exact ⟨rfl, rfl, rfl⟩
  | cons port rest ih =>
      cases port with
      | none => exact ih plugin (channel + 1)
      | some buffer =>
          exact alike_trans _ _ plugin (ih _ (channel + 1)) (plugin.apply_alike _ buffer)

theorem record_count (plugin : Instance) (channel : Nat) (ports : List (Option Buffer))
    (action : GateAction) :
    (plugin.recordPorts channel ports).gate.stats.count action =
      plugin.gate.stats.count action +
        (ports.reduceOption.map fun buffer => (plugin.outcome buffer).1).count action := by
  induction ports generalizing plugin channel with
  | nil => rfl
  | cons port rest ih =>
      cases port with
      | none => exact ih plugin (channel + 1)
      | some buffer =>
          have kept := plugin.apply_alike (UInt32.ofNat channel) buffer
          have first := plugin.apply_count (UInt32.ofNat channel) buffer action
          rw [recordPorts, ih, List.reduceOption_cons_of_some, List.map_cons, List.count_cons]
          simp only [alike_outcome _ plugin kept, first]
          omega

/-- The channels that an output makes at its place: its number, which is a word, and one more. -/
def channelsWith (index : Nat) : Nat := (saturate ((UInt32.ofNat index).toNat + 1)).toNat

theorem channels_with_counted (index : Nat) (counted : index < lastPosition) :
    channelsWith index = index + 1 := by
  rw [channelsWith, toNat_saturate, to_nat_of_counted index (Nat.le_of_lt counted)]
  omega

theorem apply_channels (plugin : Instance) (channel : Nat) (buffer : Buffer) :
    (plugin.gate.apply plugin.verdict plugin.runCount (UInt32.ofNat channel)
        buffer).1.stats.channels.toNat =
      max plugin.gate.stats.channels.toNat (channelsWith channel) := by
  have seen := word_counted plugin.gate.stats.channels
  rw [apply_stats, GateStats.channels_counted, GateStats.seeChannel, channelsWith, toNat_saturate,
    toNat_saturate]
  omega

/-- The channels seen are the fewest that take in every connected output at its own place. -/
theorem record_channels (plugin : Instance) (channel : Nat) (ports : List (Option Buffer))
    (bound : Nat) :
    (plugin.recordPorts channel ports).gate.stats.channels.toNat ≤ bound ↔
      plugin.gate.stats.channels.toNat ≤ bound ∧
        ∀ index, Connected ports index → channelsWith (channel + index) ≤ bound := by
  induction ports generalizing plugin channel with
  | nil => exact ⟨fun below => ⟨below, fun index ⟨_, found⟩ => absurd found nofun⟩, And.left⟩
  | cons port rest ih =>
      -- What stands at an index of the rest stands one further on among all.
      have shift (index : Nat) : channel + 1 + index = channel + (index + 1) := by omega
      cases port with
      | none =>
          rw [recordPorts, ih plugin (channel + 1)]
          simp only [shift]
          refine and_congr_right fun _ => ⟨fun later index connected => ?_,
            fun all index connected => all (index + 1) connected⟩
          cases index with
          | zero =>
              obtain ⟨_, found⟩ := connected
              exact absurd found nofun
          | succ index => exact later index connected
      | some first =>
          rw [recordPorts, ih _ (channel + 1), plugin.apply_channels channel first, Nat.max_le]
          simp only [shift]
          constructor
          · rintro ⟨⟨seen, here⟩, later⟩
            refine ⟨seen, fun index connected => ?_⟩
            cases index with
            | zero => exact here
            | succ index => exact later index connected
          · rintro ⟨seen, all⟩
            exact ⟨⟨seen, all 0 ⟨first, rfl⟩⟩, fun index connected => all (index + 1) connected⟩

theorem record_counts_alone (plugin other : Instance) (channel place : Nat)
    (ports : List (Option Buffer)) (alike : Alike plugin other)
    (same : GateStats.SameCounts plugin.gate.stats other.gate.stats) :
    GateStats.SameCounts (plugin.recordPorts channel ports).gate.stats
      (other.recordPorts place (ports.reduceOption.map some)).gate.stats := by
  induction ports generalizing plugin other channel place with
  | nil => exact same
  | cons port rest ih =>
      cases port with
      | none => exact ih plugin other (channel + 1) place alike same
      | some buffer =>
          have kept := plugin.apply_alike (UInt32.ofNat channel) buffer
          have otherKept := other.apply_alike (UInt32.ofNat place) buffer
          rw [List.reduceOption_cons_of_some, List.map_cons, recordPorts, recordPorts]
          apply ih
          · exact alike_trans _ plugin _ kept (alike_trans _ other _ alike (alike_symm _ _ otherKept))
          · simp only [apply_stats, alike_outcome plugin other alike]
            exact GateStats.same_counts_counted _ _ _ _ _ same

end Instance

end LicenseGate
