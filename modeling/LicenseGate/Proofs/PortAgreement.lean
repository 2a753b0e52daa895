import LicenseGate.Proofs.Regating

/-!
Gating the ports of a block as the host gives them, unconnected ones among them and each with room
for more than the block, against gating the samples of the block alone.
-/

namespace LicenseGate

namespace Instance

def gatedSlice (enforcement : Enforcement) (plugin : Instance) : Buffer → Buffer :=
  match enforcement with
  | .on => fun buffer => (plugin.outcome buffer).2
  | .off => id

theorem gated_slice_length (enforcement : Enforcement) (plugin : Instance) (buffer : Buffer) :
    (plugin.gatedSlice enforcement buffer).length = buffer.length := by
  cases enforcement with
  | on => exact plugin.outcome_length buffer
  | off => rfl

theorem gated_slice_alike (enforcement : Enforcement) (left right : Instance)
    (same : Alike left right) : left.gatedSlice enforcement = right.gatedSlice enforcement := by
  cases enforcement with
  | on => exact funext fun buffer => congrArg Prod.snd (alike_outcome left right same buffer)
  | off => rfl

theorem run_silence_slices (enforcement : Enforcement) (plugin : Instance)
    (outputs : List Buffer) :
    (plugin.runSilence enforcement outputs).2 = outputs.map (plugin.gatedSlice enforcement) := by
  cases enforcement with
  | on => exact (plugin.gateBuffers_exact 0 outputs).1
  | off => exact (List.map_id outputs).symm

theorem gated_port_front (enforcement : Enforcement) (samples : UInt32) (plugin : Instance) :
    plugin.gatedPort enforcement samples =
      onFront (plugin.gatedSlice enforcement) samples.toNat := by
  cases enforcement with
  | on => rfl
  | off => exact funext fun buffer => (List.take_append_drop samples.toNat buffer).symm

theorem gated_port_take (enforcement : Enforcement) (samples : UInt32) (plugin : Instance)
    (buffer : Buffer) :
    (plugin.gatedPort enforcement samples buffer).take samples.toNat =
      plugin.gatedSlice enforcement (buffer.take samples.toNat) := by
  rw [gated_port_front]
  exact take_on_front _ _ _ (plugin.gated_slice_length enforcement)

theorem gated_port_drop (enforcement : Enforcement) (samples : UInt32) (plugin : Instance)
    (buffer : Buffer) :
    (plugin.gatedPort enforcement samples buffer).drop samples.toNat =
      buffer.drop samples.toNat := by
  rw [gated_port_front]
  exact drop_on_front _ _ _ (plugin.gated_slice_length enforcement)

theorem gated_port_length (enforcement : Enforcement) (samples : UInt32) (plugin : Instance)
    (buffer : Buffer) :
    (plugin.gatedPort enforcement samples buffer).length = buffer.length := by
  rw [gated_port_front, onFront, List.length_append, gated_slice_length, ← List.length_append,
    List.take_append_drop]

theorem run_connected_exact (enforcement : Enforcement) (plugin : Instance)
    (ports : List (Option Buffer)) (samples : UInt32) :
    (plugin.runSilenceConnected enforcement ports samples).2 =
      ports.map (Option.map (plugin.gatedPort enforcement samples)) :=
  (plugin.gate_once_exact enforcement samples ports .connected).1

def heads (samples : UInt32) (ports : List (Option Buffer)) : List (Option Buffer) :=
  ports.map (Option.map (List.take samples.toNat))

theorem heads_gated (enforcement : Enforcement) (samples : UInt32) (plugin : Instance)
    (ports : List (Option Buffer)) :
    heads samples (plugin.runSilenceConnected enforcement ports samples).2 =
      (heads samples ports).map (Option.map (plugin.gatedSlice enforcement)) := by
  have front : List.take samples.toNat ∘ plugin.gatedPort enforcement samples =
      plugin.gatedSlice enforcement ∘ List.take samples.toNat :=
    funext (plugin.gated_port_take enforcement samples)
  rw [run_connected_exact, heads, heads, List.map_map, List.map_map, Option.map_comp_map,
    Option.map_comp_map, front]

theorem run_connected_slices (enforcement : Enforcement) (samples : UInt32) (plugin : Instance)
    (ports : List (Option Buffer)) :
    slices samples (plugin.runSilenceConnected enforcement ports samples).2 =
      (plugin.runSilence enforcement (slices samples ports)).2 := by
  rw [run_connected_exact, run_silence_slices]
  exact slices_mapped samples _ _ (plugin.gated_port_take enforcement samples) ports

theorem run_connected_state (plugin : Instance) (ports : List (Option Buffer)) (samples : UInt32) :
    (plugin.runSilenceConnected .on ports samples).1 =
      plugin.recordPorts 0 (ports.map (Option.map (List.take samples.toNat))) :=
  plugin.gate_connected_record samples.toNat 0 ports

theorem run_silence_state (plugin : Instance) (outputs : List Buffer) :
    (plugin.runSilence .on outputs).1 = plugin.recordPorts 0 (outputs.map some) :=
  plugin.gate_buffers_record 0 outputs

theorem slices_connected (samples : UInt32) (ports : List (Option Buffer))
    (connected : ∀ port ∈ ports, port.isSome = true) :
    ports.map (Option.map (List.take samples.toNat)) = (slices samples ports).map some := by
  induction ports with
  | nil => rfl
  | cons port rest ih =>
      have tail := ih fun later member => connected later (List.mem_cons_of_mem port member)
      cases port with
      | none => exact absurd (connected none List.mem_cons_self) nofun
      | some buffer => exact congrArg (List.cons (some (buffer.take samples.toNat))) tail

/-- The state with the channels seen taken from elsewhere. -/
def withChannels (plugin : Instance) (channels : UInt32) : Instance :=
  { plugin with gate := { plugin.gate with stats := { plugin.gate.stats with channels } } }

theorem alike_with_channels (left right : Instance) (alike : Alike left right)
    (same : GateStats.SameCounts left.gate.stats right.gate.stats) :
    left = right.withChannels left.gate.stats.channels := by
  obtain ⟨verdict, runCount, timing, stats⟩ := left
  obtain ⟨sameVerdict, sameCount, sameTiming⟩ := alike
  simp only at sameVerdict sameCount sameTiming same
  rw [withChannels, sameVerdict, sameCount, sameTiming]
  congr 2

theorem run_connected_alike (enforcement : Enforcement) (plugin : Instance)
    (ports : List (Option Buffer)) (samples : UInt32) :
    Alike (plugin.runSilenceConnected enforcement ports samples).1
      (plugin.runSilence enforcement (slices samples ports)).1 := by
  cases enforcement with
  | off => exact ⟨rfl, rfl, rfl⟩
  | on =>
      rw [run_connected_state, run_silence_state]
      exact alike_trans _ plugin _ (plugin.record_alike 0 _)
        (alike_symm _ plugin (plugin.record_alike 0 _))

theorem run_connected_counts (enforcement : Enforcement) (plugin : Instance)
    (ports : List (Option Buffer)) (samples : UInt32) :
    GateStats.SameCounts (plugin.runSilenceConnected enforcement ports samples).1.gate.stats
      (plugin.runSilence enforcement (slices samples ports)).1.gate.stats := by
  cases enforcement with
  | off => rfl
  | on =>
      rw [run_connected_state, run_silence_state, ← slices_reduced]
      exact plugin.record_counts_alone plugin 0 0 _ ⟨rfl, rfl, rfl⟩ rfl

theorem run_connected_same (enforcement : Enforcement) (plugin : Instance)
    (ports : List (Option Buffer)) (samples : UInt32)
    (connected : ∀ port ∈ ports, port.isSome = true) :
    (plugin.runSilenceConnected enforcement ports samples).1 =
      (plugin.runSilence enforcement (slices samples ports)).1 := by
  cases enforcement with
  | off => rfl
  | on => rw [run_connected_state, run_silence_state, slices_connected samples ports connected]

end Instance

/-- Past its first samples a buffer has been left alone. -/
def SameRest (samples : Nat) (before after : Buffer) : Prop :=
  after.length = before.length ∧ after.drop samples = before.drop samples

theorem gated_port_rest (enforcement : Enforcement) (samples : UInt32) (plugin : Instance)
    (port : Option Buffer) :
    Option.Rel (SameRest samples.toNat) port
      (port.map (plugin.gatedPort enforcement samples)) := by
  cases port with
  | none => exact .none
  | some buffer =>
      exact .some ⟨plugin.gated_port_length enforcement samples buffer,
        plugin.gated_port_drop enforcement samples buffer⟩

/-- Gating ports leaves of each of them what gating the samples of the block leaves of those, and
nothing else changes: not what lies past the block, nor a port that is not connected. The states
left differ at most in the channels, which count the places among all ports. What becomes of a port
follows from its own samples, so the ports may come in any order. -/
theorem ports_agree_with_slices (enforcement : Enforcement) (plugin : Instance)
    (ports : List (Option Buffer)) (samples : UInt32) :
    List.Forall₂ (Option.Rel (SameRest samples.toNat)) ports
      (plugin.runSilenceConnected enforcement ports samples).2 ∧
    Instance.slices samples (plugin.runSilenceConnected enforcement ports samples).2 =
      (plugin.runSilence enforcement (Instance.slices samples ports)).2 ∧
    ((∀ port ∈ ports, port.isSome = true) →
      (plugin.runSilenceConnected enforcement ports samples).1 =
        (plugin.runSilence enforcement (Instance.slices samples ports)).1) ∧
    (plugin.runSilenceConnected enforcement ports samples).1 =
      (plugin.runSilence enforcement (Instance.slices samples ports)).1.withChannels
        (plugin.runSilenceConnected enforcement ports samples).1.gate.stats.channels ∧
    (∀ bound : Nat,
      ((plugin.runSilenceConnected .on ports samples).1.gate.stats.channels.toNat ≤ bound ↔
        plugin.gate.stats.channels.toNat ≤ bound ∧
          ∀ index, Instance.Connected ports index → Instance.channelsWith index ≤ bound) ∧
      ((plugin.runSilence .on (Instance.slices samples ports)).1.gate.stats.channels.toNat ≤
          bound ↔
        plugin.gate.stats.channels.toNat ≤ bound ∧
          ∀ index < (Instance.slices samples ports).length,
            Instance.channelsWith index ≤ bound)) ∧
    (∀ (other : Instance) (others : List (Option Buffer)), Instance.Alike other plugin →
      ∀ index place : Nat,
        (Instance.heads samples others)[place]? = (Instance.heads samples ports)[index]? →
        (Instance.heads samples
            (other.runSilenceConnected enforcement others samples).2)[place]? =
          (Instance.heads samples
            (plugin.runSilenceConnected enforcement ports samples).2)[index]?) ∧
    (∀ (order : Equiv.Perm (Fin ports.length)) (place : Fin ports.length),
      (plugin.runSilenceConnected enforcement
          (List.ofFn fun place => ports.get (order place)) samples).2[place.val]? =
        (plugin.runSilenceConnected enforcement ports samples).2[(order place).val]?) := by
  refine ⟨?_, plugin.run_connected_slices enforcement samples ports,
    plugin.run_connected_same enforcement ports samples, ?_, ?_, ?_, ?_⟩
  · rw [Instance.run_connected_exact, List.forall₂_map_right_iff, List.forall₂_same]
    exact fun port _ => gated_port_rest enforcement samples plugin port
  · exact Instance.alike_with_channels _ _ (plugin.run_connected_alike enforcement ports samples)
      (plugin.run_connected_counts enforcement ports samples)
  · intro bound
    rw [Instance.run_connected_state, Instance.run_silence_state, Instance.record_channels,
      Instance.record_channels]
    simp only [Instance.connected_map_iff, Instance.connected_outputs_iff, Nat.zero_add, iff_self,
      and_self]
  · intro other others alike index place same
    rw [Instance.heads_gated, Instance.heads_gated, List.getElem?_map, List.getElem?_map, same,
      Instance.gated_slice_alike enforcement other plugin alike]
  · intro order place
    rw [Instance.run_connected_exact, Instance.run_connected_exact, List.getElem?_map,
      List.getElem?_map, List.getElem?_ofFn]
    simp

def halfway : Instance := ⟨.unlicensed, 1, { timing := ⟨0, 2⟩ }⟩

theorem ports_agree_with_slices_apart :
    (∀ port ∈ [some [Sample.one, ⟨0x7fa00001⟩], some [Sample.one]], port.isSome = true) ∧
    (halfway.runSilenceConnected .on [some [.one, ⟨0x7fa00001⟩], some [.one]] 1).1 =
      (halfway.runSilence .on [[.one], [.one]]).1 ∧
    (halfway.runSilenceConnected .on [none, some [.one, ⟨0x7fa00001⟩], some [.one]] 1).2 =
      [none, some [⟨0x3f000000⟩, ⟨0x7fa00001⟩], some [⟨0x3f000000⟩]] ∧
    (halfway.runSilenceConnected .on [none, some [.one, ⟨0x7fa00001⟩], some [.one]] 1).1 =
      (halfway.runSilence .on [[.one], [.one]]).1.withChannels 3 ∧
    (halfway.runSilence .on [[.one], [.one]]).1.gate.stats.channels = 2 := by
  have connected :
      ∀ port ∈ [some [Sample.one, ⟨0x7fa00001⟩], some [Sample.one]], port.isSome = true := by
    decide
  have together := (ports_agree_with_slices .on halfway
    [some [.one, ⟨0x7fa00001⟩], some [.one]] 1).2.2.1 connected
  have apart := (ports_agree_with_slices .on halfway
    [none, some [.one, ⟨0x7fa00001⟩], some [.one]] 1).2.2.2.1
  have seen : (halfway.runSilenceConnected .on
      [none, some [.one, ⟨0x7fa00001⟩], some [.one]] 1).1.gate.stats.channels = 3 := by
    decide +kernel
  rw [seen] at apart
  exact ⟨connected, together, by decide +kernel, apart, by decide +kernel⟩

end LicenseGate
