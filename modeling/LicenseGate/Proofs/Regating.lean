import LicenseGate.Proofs.BlockPolicy
import LicenseGate.Proofs.LatchSession
import LicenseGate.Proofs.PortRecord
import LicenseGate.Proofs.SampleLimit

/-!
Gating what is gated already. How a block is gated depends on its length and place and not on what
it holds, and a limited sample is within its limit, so a second call for the same block finds
nothing to do. This holds of the gate, of an instance however it is asked, and through the latch.
-/

namespace LicenseGate

namespace GateTiming

theorem limit_again (timing : GateTiming) (position : UInt32) (sample : Sample) :
    timing.limit position (timing.limit position sample) = timing.limit position sample := by
  by_cases early : position < timing.grace
  · simp only [limit, if_pos early]
  · simp only [limit, if_neg early, Sample.clamp_again]

/-- A gated block takes the same way through the gate, whatever its length. -/
theorem silence_again (timing : GateTiming) (counter : UInt32) (buffer : Buffer) :
    timing.silence counter (timing.silence counter buffer).2 = timing.silence counter buffer := by
  have length := timing.silence_length counter buffer
  have start : startOf counter (timing.silence counter buffer).2 = startOf counter buffer := by
    rw [startOf, startOf, length]
  rw [silence, start, length]
  simp only [silence]
  split
  next => rw [List.map_map]; rfl
  split
  next => rfl
  next =>
    rw [List.mapIdx_mapIdx]
    simp only [Function.comp_def, limit_again]

theorem silence_times_exact (timing : GateTiming) (counter : UInt32) (times : Nat)
    (buffer : Buffer) :
    timing.silenceTimes counter times buffer =
      List.replicate times (timing.silence counter buffer) := by
  induction times generalizing buffer with
  | zero => rfl
  | succ times ih => rw [silenceTimes, ih, silence_again, List.replicate_succ]

end GateTiming

def onFront (change : Buffer → Buffer) (samples : Nat) (buffer : Buffer) : Buffer :=
  change (buffer.take samples) ++ buffer.drop samples

section Front
variable (change : Buffer → Buffer) (samples : Nat) (buffer : Buffer)

theorem take_on_front (length : ∀ part, (change part).length = part.length) :
    (onFront change samples buffer).take samples = change (buffer.take samples) := by
  have front := length (buffer.take samples)
  rw [List.length_take] at front
  rcases Nat.le_total samples buffer.length with filled | short
  · exact List.take_left' (by omega)
  · rw [onFront, List.drop_eq_nil_of_le short, List.append_nil]
    exact List.take_of_length_le (by omega)

theorem drop_on_front (length : ∀ part, (change part).length = part.length) :
    (onFront change samples buffer).drop samples = buffer.drop samples := by
  have front := length (buffer.take samples)
  rw [List.length_take] at front
  rcases Nat.le_total samples buffer.length with filled | short
  · exact List.drop_left' (by omega)
  · rw [onFront, List.drop_eq_nil_of_le short, List.append_nil]
    exact List.drop_eq_nil_of_le (by omega)

theorem on_front_again (length : ∀ part, (change part).length = part.length)
    (again : ∀ part, change (change part) = change part) :
    onFront change samples (onFront change samples buffer) = onFront change samples buffer := by
  rw [onFront, take_on_front change samples buffer length, drop_on_front change samples buffer length,
    again]
  rfl

end Front

namespace Instance

theorem outcome_length (plugin : Instance) (buffer : Buffer) :
    (plugin.outcome buffer).2.length = buffer.length := by
  rw [outcome]
  cases plugin.verdict with
  | licensed => rfl
  | unlicensed => exact GateTiming.silence_length _ _ _

theorem outcome_again (plugin : Instance) (buffer : Buffer) :
    plugin.outcome (plugin.outcome buffer).2 = plugin.outcome buffer := by
  rw [outcome, outcome]
  cases plugin.verdict with
  | licensed => rfl
  | unlicensed => exact GateTiming.silence_again _ _ _

theorem front_on_front (plugin : Instance) (samples : Nat) :
    plugin.frontOutcome samples = onFront (fun buffer => (plugin.outcome buffer).2) samples := rfl

/-- The calls by which the outputs of one block may be gated, and gated again. -/
inductive GatingCall where
  | silence
  | noise
  | connected

def slices (samples : UInt32) (ports : List (Option Buffer)) : List Buffer :=
  ports.filterMap (Option.map (List.take samples.toNat))

def refill (samples : UInt32) : List (Option Buffer) → List Buffer → List (Option Buffer)
  | [], _ => []
  | none :: ports, outputs => none :: refill samples ports outputs
  | some buffer :: ports, [] => some buffer :: refill samples ports []
  | some buffer :: ports, output :: outputs =>
      some (output ++ buffer.drop samples.toNat) :: refill samples ports outputs

def gateOnce (enforcement : Enforcement) (samples : UInt32) (plugin : Instance)
    (ports : List (Option Buffer)) : GatingCall → Instance × List (Option Buffer)
  | .silence =>
      let (next, gated) := plugin.runSilence enforcement (slices samples ports)
      (next, refill samples ports gated)
  | .noise =>
      let (next, gated) := plugin.runNoise enforcement (slices samples ports)
      (next, refill samples ports gated)
  | .connected => plugin.runSilenceConnected enforcement ports samples

def gateAgain (enforcement : Enforcement) (samples : UInt32) (plugin : Instance)
    (ports : List (Option Buffer)) : List GatingCall → List (Instance × List (Option Buffer))
  | [] => []
  | call :: rest =>
      let result := plugin.gateOnce enforcement samples ports call
      result :: result.1.gateAgain enforcement samples result.2 rest

def gatedPort (enforcement : Enforcement) (samples : UInt32) (plugin : Instance) :
    Buffer → Buffer :=
  match enforcement with
  | .on => plugin.frontOutcome samples.toNat
  | .off => id

def portActions (enforcement : Enforcement) (samples : UInt32) (plugin : Instance)
    (ports : List (Option Buffer)) : List GateAction :=
  match enforcement with
  | .on => (slices samples ports).map fun buffer => (plugin.outcome buffer).1
  | .off => []

theorem refill_slices (change : Buffer → Buffer) (samples : UInt32)
    (ports : List (Option Buffer)) :
    refill samples ports ((slices samples ports).map change) =
      ports.map (Option.map (onFront change samples.toNat)) := by
  induction ports with
  | nil => rfl
  | cons port rest ih =>
      cases port with
      | none => exact congrArg (List.cons none) ih
      | some buffer => exact congrArg (List.cons _) ih

theorem refill_untouched (samples : UInt32) (ports : List (Option Buffer)) :
    refill samples ports (slices samples ports) = ports := by
  have refilled := refill_slices id samples ports
  have untouched : onFront id samples.toNat = id :=
    funext fun buffer => List.take_append_drop samples.toNat buffer
  rwa [List.map_id, untouched, Option.map_id, List.map_id] at refilled

theorem gate_once_exact (enforcement : Enforcement) (samples : UInt32) (plugin : Instance)
    (ports : List (Option Buffer)) (call : GatingCall) :
    (plugin.gateOnce enforcement samples ports call).2 =
        ports.map (Option.map (plugin.gatedPort enforcement samples)) ∧
      Alike (plugin.gateOnce enforcement samples ports call).1 plugin := by
  cases enforcement with
  | off =>
      have kept : ports.map (Option.map (plugin.gatedPort .off samples)) = ports := by
        rw [gatedPort, Option.map_id, List.map_id]
      rw [kept]
      cases call with
      | silence | noise => exact ⟨refill_untouched samples ports, rfl, rfl, rfl⟩
      | connected => exact ⟨rfl, rfl, rfl, rfl⟩
  | on =>
      cases call with
      | silence | noise =>
          obtain ⟨gated, alike⟩ := plugin.gateBuffers_exact 0 (slices samples ports)
          refine ⟨?_, alike⟩
          exact (congrArg (refill samples ports) gated).trans (refill_slices _ samples ports)
      | connected => exact plugin.gateConnected_exact samples.toNat 0 ports

theorem slices_reduced (samples : UInt32) (ports : List (Option Buffer)) :
    (ports.map (Option.map (List.take samples.toNat))).reduceOption = slices samples ports := by
  rw [List.reduceOption, List.filterMap_map]
  rfl

theorem gate_buffers_count (plugin : Instance) (channel : Nat) (outputs : List Buffer)
    (action : GateAction) :
    (plugin.gateBuffers channel outputs).1.gate.stats.count action =
      plugin.gate.stats.count action +
        (outputs.map fun buffer => (plugin.outcome buffer).1).count action := by
  have connected : (outputs.map some).reduceOption = outputs := by
    rw [List.reduceOption, List.filterMap_map]
    exact List.filterMap_some
  rw [gate_buffers_record, record_count, connected]

theorem gate_connected_count (plugin : Instance) (samples : UInt32) (channel : Nat)
    (ports : List (Option Buffer)) (action : GateAction) :
    (plugin.gateConnected samples.toNat channel ports).1.gate.stats.count action =
      plugin.gate.stats.count action +
        ((slices samples ports).map fun buffer => (plugin.outcome buffer).1).count action := by
  rw [gate_connected_record, record_count, slices_reduced]

theorem gate_once_count (enforcement : Enforcement) (samples : UInt32) (plugin : Instance)
    (ports : List (Option Buffer)) (call : GatingCall) (action : GateAction) :
    (plugin.gateOnce enforcement samples ports call).1.gate.stats.count action =
      plugin.gate.stats.count action +
        (plugin.portActions enforcement samples ports).count action := by
  cases enforcement with
  | off => cases call <;> rfl
  | on =>
      cases call with
      | silence | noise => exact plugin.gate_buffers_count 0 (slices samples ports) action
      | connected => exact plugin.gate_connected_count samples 0 ports action

theorem gated_port_again (enforcement : Enforcement) (samples : UInt32) (plugin : Instance)
    (buffer : Buffer) :
    plugin.gatedPort enforcement samples (plugin.gatedPort enforcement samples buffer) =
      plugin.gatedPort enforcement samples buffer := by
  cases enforcement with
  | off => rfl
  | on =>
      rw [gatedPort, front_on_front]
      exact on_front_again _ samples.toNat buffer plugin.outcome_length
        fun part => by rw [outcome_again]

theorem gated_port_alike (enforcement : Enforcement) (samples : UInt32) (left right : Instance)
    (same : Alike left right) :
    left.gatedPort enforcement samples = right.gatedPort enforcement samples := by
  cases enforcement with
  | off => rfl
  | on => exact alike_front left right same samples.toNat

theorem slices_mapped (samples : UInt32) (whole part : Buffer → Buffer)
    (front : ∀ buffer, (whole buffer).take samples.toNat = part (buffer.take samples.toNat))
    (ports : List (Option Buffer)) :
    slices samples (ports.map (Option.map whole)) = (slices samples ports).map part := by
  have composed : List.take samples.toNat ∘ whole = part ∘ List.take samples.toNat := funext front
  rw [← slices_reduced, ← slices_reduced, List.map_map, Option.map_comp_map, composed,
    ← Option.map_comp_map, ← List.map_map, List.reduceOption_map]

theorem slices_gated (samples : UInt32) (plugin : Instance) (ports : List (Option Buffer)) :
    slices samples (ports.map (Option.map (plugin.gatedPort .on samples))) =
      (slices samples ports).map fun buffer => (plugin.outcome buffer).2 := by
  apply slices_mapped
  intro buffer
  rw [gatedPort, front_on_front]
  exact take_on_front (fun part => (plugin.outcome part).2) samples.toNat buffer
    plugin.outcome_length

theorem port_actions_again (enforcement : Enforcement) (samples : UInt32) (plugin next : Instance)
    (ports : List (Option Buffer)) (same : Alike next plugin) :
    next.portActions enforcement samples
        (ports.map (Option.map (plugin.gatedPort enforcement samples))) =
      plugin.portActions enforcement samples ports := by
  cases enforcement with
  | off => rfl
  | on =>
      rw [portActions, slices_gated, List.map_map, portActions]
      apply List.map_congr_left
      intro buffer _
      rw [Function.comp_apply, alike_outcome next plugin same, outcome_again]

theorem gate_again_exact (enforcement : Enforcement) (samples : UInt32) (plugin : Instance)
    (ports : List (Option Buffer)) (calls : List GatingCall) :
    (plugin.gateAgain enforcement samples ports calls).map Prod.snd =
      List.replicate calls.length (ports.map (Option.map (plugin.gatedPort enforcement samples))) := by
  induction calls generalizing plugin ports with
  | nil => rfl
  | cons call rest ih =>
      obtain ⟨gated, alike⟩ := plugin.gate_once_exact enforcement samples ports call
      have settled : plugin.gatedPort enforcement samples ∘ plugin.gatedPort enforcement samples =
          plugin.gatedPort enforcement samples :=
        funext (plugin.gated_port_again enforcement samples)
      rw [gateAgain, List.map_cons, ih, gated, gated_port_alike enforcement samples _ plugin alike,
        List.map_map, Option.map_comp_map, settled, List.length_cons, List.replicate_succ]

theorem gate_again_count (enforcement : Enforcement) (samples : UInt32) (plugin : Instance)
    (ports : List (Option Buffer)) (calls : List GatingCall) (place : Nat) (action : GateAction) :
    (plugin.gateAgain enforcement samples ports calls)[place]?.map
        (fun result => result.1.gate.stats.count action) =
      calls[place]?.map fun _ => plugin.gate.stats.count action +
        (place + 1) * (plugin.portActions enforcement samples ports).count action := by
  induction calls generalizing plugin ports place with
  | nil => rfl
  | cons call rest ih =>
      obtain ⟨gated, alike⟩ := plugin.gate_once_exact enforcement samples ports call
      have first := plugin.gate_once_count enforcement samples ports call action
      cases place with
      | zero => simp only [gateAgain, List.getElem?_cons_zero, Option.map_some, first, Nat.zero_add,
          Nat.one_mul]
      | succ place =>
          have actions := port_actions_again enforcement samples plugin _ ports alike
          rw [gateAgain, List.getElem?_cons_succ, List.getElem?_cons_succ, ih, gated, actions, first,
            Nat.succ_mul (place + 1), Nat.add_comm ((place + 1) * _), ← Nat.add_assoc]

end Instance

namespace Latch

theorem silence_again (latch : Latch) (runCount samples : UInt32) (buffer : Buffer) :
    latch.runSilence runCount samples (latch.runSilence runCount samples buffer) =
      latch.runSilence runCount samples buffer := by
  cases latch with
  | unchecked => rfl
  | licensed => rfl
  | unlicensed =>
      exact on_front_again (fun part => (GateTiming.standard.silence runCount part).2)
        samples.toNat buffer (GateTiming.silence_length _ _)
        fun part => by rw [GateTiming.silence_again]

/-- A call as one buffer meets it: it is gated, by either name, or the call is about something
else. -/
inductive Visit where
  | gate (retired : Bool) (channel : UInt32)
  | other (request : Request)

namespace Visit

def gates : Visit → Bool
  | .gate _ _ => true
  | .other _ => false

def request (runCount samples : UInt32) (buffer : Option Buffer) : Visit → Request
  | .gate false channel => .runSilence runCount buffer samples channel
  | .gate true channel => .runNoise runCount buffer samples channel
  | .other request => request

end Visit

def visit (enforcement : Enforcement) (runCount samples : UInt32) (latch : Latch)
    (buffer : Option Buffer) (visit : Visit) : Latch × Option Buffer :=
  match visit, latch.serve enforcement (visit.request runCount samples buffer) with
  | .gate _ _, (next, .gated gated) => (next, gated)
  | _, (next, _) => (next, buffer)

def visitAll (enforcement : Enforcement) (runCount samples : UInt32) (latch : Latch)
    (buffer : Option Buffer) : List Visit → List (Latch × Option Buffer)
  | [] => []
  | visit :: rest =>
      let result := latch.visit enforcement runCount samples buffer visit
      result :: result.1.visitAll enforcement runCount samples result.2 rest

theorem visit_buffer (enforcement : Enforcement) (runCount samples : UInt32) (latch : Latch)
    (buffer : Option Buffer) (visit : Visit) :
    (latch.visit enforcement runCount samples buffer visit).2 =
      if visit.gates then buffer.map (latch.runSilence runCount samples) else buffer := by
  cases visit with
  | gate retired channel => cases retired <;> rfl
  | other request => rfl

/-- While the latch stands still, the first gating of a buffer is the last that changes it. -/
theorem visit_all_steady (enforcement : Enforcement) (runCount samples : UInt32) (latch : Latch)
    (buffer : Option Buffer) (visits : List Visit)
    (steady : ∀ result ∈ latch.visitAll enforcement runCount samples buffer visits,
      result.1 = latch) (place : Nat) :
    (latch.visitAll enforcement runCount samples buffer visits)[place]?.map Prod.snd =
      visits[place]?.map fun _ =>
        if (visits.take (place + 1)).any Visit.gates then
          buffer.map (latch.runSilence runCount samples)
        else buffer := by
  induction visits generalizing buffer place with
  | nil => rfl
  | cons visit rest ih =>
      have stands := steady _ List.mem_cons_self
      have seen := latch.visit_buffer enforcement runCount samples buffer visit
      cases place with
      | zero => simp [visitAll, seen]
      | succ place =>
          have later (result : Latch × Option Buffer)
              (member : result ∈ latch.visitAll enforcement runCount samples
                (latch.visit enforcement runCount samples buffer visit).2 rest) :
              result.1 = latch := by
            apply steady
            rw [visitAll, stands]
            exact List.mem_cons_of_mem _ member
          rw [visitAll, List.getElem?_cons_succ, List.getElem?_cons_succ, stands, ih _ later, seen,
            List.take_succ_cons, List.any_cons]
          cases visit.gates with
          | false => rfl
          | true =>
              have settled : (buffer.map (latch.runSilence runCount samples)).map
                  (latch.runSilence runCount samples) =
                    buffer.map (latch.runSilence runCount samples) := by
                rw [Option.map_map]
                congr 1
                exact funext (latch.silence_again runCount samples)
              simp only [↓reduceIte, settled, Bool.true_or, ite_self]

end Latch

/-- Gating a block again, by any call and any number of times, leaves every bit as the first time
left it and counts the same actions. -/
theorem gating_is_idempotent :
    (∀ (timing : GateTiming) (counter : UInt32) (times : Nat) (buffer : Buffer),
      timing.silenceTimes counter times buffer =
        List.replicate times (timing.silence counter buffer)) ∧
    (∀ (enforcement : Enforcement) (samples : UInt32) (plugin : Instance)
      (ports : List (Option Buffer)) (calls : List Instance.GatingCall),
      (plugin.gateAgain enforcement samples ports calls).map Prod.snd =
          List.replicate calls.length
            (ports.map (Option.map (plugin.gatedPort enforcement samples))) ∧
        ∀ place action,
          (plugin.gateAgain enforcement samples ports calls)[place]?.map
              (fun result => result.1.gate.stats.count action) =
            calls[place]?.map fun _ => plugin.gate.stats.count action +
              (place + 1) * (plugin.portActions enforcement samples ports).count action) ∧
    (∀ (enforcement : Enforcement) (runCount samples : UInt32) (latch : Latch)
      (buffer : Option Buffer) (visits : List Latch.Visit),
      (∀ result ∈ latch.visitAll enforcement runCount samples buffer visits, result.1 = latch) →
      ∀ place, (latch.visitAll enforcement runCount samples buffer visits)[place]?.map Prod.snd =
        visits[place]?.map fun _ =>
          if (visits.take (place + 1)).any Latch.Visit.gates then
            buffer.map (latch.runSilence runCount samples)
          else buffer) :=
  ⟨GateTiming.silence_times_exact,
    fun enforcement samples plugin ports calls =>
      ⟨plugin.gate_again_exact enforcement samples ports calls,
        plugin.gate_again_count enforcement samples ports calls⟩,
    fun enforcement runCount samples latch buffer visits steady =>
      latch.visit_all_steady enforcement runCount samples buffer visits steady⟩

theorem gating_is_idempotent_rechecked :
    (∀ result ∈ Latch.unlicensed.visitAll .on 480 2
        (some [.one, ⟨0xffc00001⟩, ⟨0x7fa00001⟩])
        [.gate false 0, .other (.check none none), .gate true 1],
      result.1 = .unlicensed) ∧
    (Latch.unlicensed.visitAll .on 480 2 (some [.one, ⟨0xffc00001⟩, ⟨0x7fa00001⟩])
        [.gate false 0, .other (.check none none), .gate true 1])[2]?.map Prod.snd =
      some (some [⟨0x3b088900⟩, .zero, ⟨0x7fa00001⟩]) := by
  have steady : ∀ result ∈ Latch.unlicensed.visitAll .on 480 2
      (some [.one, ⟨0xffc00001⟩, ⟨0x7fa00001⟩])
      [.gate false 0, .other (.check none none), .gate true 1],
      result.1 = .unlicensed := by decide +kernel
  have settled := gating_is_idempotent.2.2 .on 480 2 .unlicensed
    (some [.one, ⟨0xffc00001⟩, ⟨0x7fa00001⟩])
    [.gate false 0, .other (.check none none), .gate true 1] steady 2
  refine ⟨steady, settled.trans ?_⟩
  decide +kernel

end LicenseGate
