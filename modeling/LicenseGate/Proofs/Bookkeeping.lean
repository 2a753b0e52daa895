import LicenseGate.Proofs.PortAgreement
import LicenseGate.Proofs.Untouched

/-!
What an instance keeps count of over a run of any steps. Each step counts its samples, notes one
action for each connected port and takes in the ports' places; nothing else moves.
-/

namespace LicenseGate

namespace Instance

namespace Step

def ports : Step → List (Option Buffer)
  | .runBegin _ => []
  | .runSilence outputs | .runNoise outputs => outputs.map some
  | .runSilenceConnected outputs samples => heads samples outputs

def gated (step : Step) : List Buffer := step.ports.reduceOption

theorem connected_ports_iff (step : Step) (index : Nat) :
    Connected step.ports index ↔ Connected step.buffers index := by
  cases step with
  | runBegin samples | runSilence outputs | runNoise outputs => exact Iff.rfl
  | runSilenceConnected outputs samples => exact connected_map_iff _ outputs index

theorem gated_or_counted (step : Step) : step.begun = 0 ∨ step.ports = [] := by
  cases step with
  | runBegin samples => exact .inr rfl
  | runSilence outputs | runNoise outputs => exact .inl rfl
  | runSilenceConnected outputs samples => exact .inl rfl

/-- What is done to every buffer gated in a run, when `count` samples have been counted before it.
The samples of a buffer, the verdict, the timing and the run count decide. -/
def actions (verdict : Verdict) (timing : GateTiming) : (count : Nat) → List Step → List GateAction
  | _, [] => []
  | count, step :: rest =>
      (step.gated.map fun buffer => (Gate.outcome timing verdict (saturate count) buffer).1) ++
        actions verdict timing (count + step.begun) rest

end Step

theorem count_samples_zero (plugin : Instance) :
    { plugin with runCount := saturate (plugin.runCount.toNat + 0) } = plugin := by
  rw [Nat.add_zero, saturate_toNat]

theorem step_record (plugin : Instance) (step : Step) :
    (plugin.step .on step).1 =
      { plugin with
        runCount := saturate (plugin.runCount.toNat + step.begun) }.recordPorts 0 step.ports := by
  cases step with
  | runBegin samples => rfl
  | runSilence outputs | runNoise outputs =>
      rw [Step.begun, count_samples_zero]
      exact plugin.run_silence_state outputs
  | runSilenceConnected outputs samples =>
      rw [Step.begun, count_samples_zero]
      exact plugin.run_connected_state outputs samples

theorem step_keeps (plugin : Instance) (step : Step) :
    (plugin.step .on step).1.verdict = plugin.verdict ∧
      (plugin.step .on step).1.gate.timing = plugin.gate.timing ∧
      (plugin.step .on step).1.runCount = saturate (plugin.runCount.toNat + step.begun) := by
  rw [step_record]
  have kept := record_alike
    { plugin with runCount := saturate (plugin.runCount.toNat + step.begun) } 0 step.ports
  exact ⟨kept.verdict, kept.timing, kept.runCount⟩

theorem step_count (plugin : Instance) (step : Step) (action : GateAction) :
    (plugin.step .on step).1.gate.stats.count action =
      plugin.gate.stats.count action +
        (step.gated.map fun buffer => (plugin.outcome buffer).1).count action := by
  rw [step_record, record_count]
  rcases step.gated_or_counted with gating | begun
  · rw [gating, count_samples_zero]
    rfl
  · rw [Step.gated, begun, List.reduceOption_nil, List.map_nil, List.map_nil]

theorem step_channels (plugin : Instance) (step : Step) (bound : Nat) :
    (plugin.step .on step).1.gate.stats.channels.toNat ≤ bound ↔
      plugin.gate.stats.channels.toNat ≤ bound ∧
        ∀ index, Connected step.buffers index → channelsWith index ≤ bound := by
  rw [step_record, record_channels]
  simp only [Step.connected_ports_iff, Nat.zero_add]

structure Moved (step : Step) (before after : Instance) : Prop where
  counted : after.runCount.toNat = min (before.runCount.toNat + step.begun) lastPosition
  gating : (∀ samples, step ≠ .runBegin samples) → after.runCount = before.runCount
  beginning : ∀ samples, step = .runBegin samples → after.gate = before.gate
  verdict : after.verdict = before.verdict
  timing : after.gate.timing = before.gate.timing
  raised : ∀ action, after.gate.stats.count action =
    before.gate.stats.count action +
      (step.gated.map fun buffer => (before.outcome buffer).1).count action
  channels : before.gate.stats.channels ≤ after.gate.stats.channels

theorem step_moved (plugin : Instance) (step : Step) :
    Moved step plugin (plugin.step .on step).1 := by
  obtain ⟨verdict, timing, runCount⟩ := plugin.step_keeps step
  constructor
  case counted => rw [runCount, toNat_saturate]
  case gating =>
    intro gates
    cases step with
    | runBegin samples => exact absurd rfl (gates samples)
    | runSilence outputs | runNoise outputs => rw [runCount, Step.begun, Nat.add_zero, saturate_toNat]
    | runSilenceConnected outputs samples =>
        rw [runCount, Step.begun, Nat.add_zero, saturate_toNat]
  case beginning =>
    rintro samples rfl
    rfl
  case verdict => exact verdict
  case timing => exact timing
  case raised => exact plugin.step_count step
  case channels =>
    have seen := (plugin.step_channels step _).mp (Nat.le_refl _)
    exact UInt32.le_iff_toNat_le.mpr seen.1

def after (enforcement : Enforcement) (plugin : Instance) (steps : List Step) : Instance :=
  ((plugin.run enforcement steps).getLast?.map Prod.fst).getD plugin

theorem after_cons (enforcement : Enforcement) (plugin : Instance) (step : Step)
    (rest : List Step) :
    plugin.after enforcement (step :: rest) =
      (plugin.step enforcement step).1.after enforcement rest := by
  rw [after, after, run, List.getLast?_cons]
  cases ((plugin.step enforcement step).1.run enforcement rest).getLast? <;> rfl

theorem after_append (enforcement : Enforcement) (plugin : Instance) (before rest : List Step) :
    plugin.after enforcement (before ++ rest) =
      (plugin.after enforcement before).after enforcement rest := by
  induction before generalizing plugin with
  | nil => rfl
  | cons step before ih => rw [List.cons_append, after_cons, after_cons, ih]

theorem after_keeps (plugin : Instance) (steps : List Step) :
    (plugin.after .on steps).verdict = plugin.verdict ∧
      (plugin.after .on steps).gate.timing = plugin.gate.timing ∧
      (plugin.after .on steps).runCount =
        saturate (plugin.runCount.toNat + Step.total steps) := by
  induction steps generalizing plugin with
  | nil => exact ⟨rfl, rfl, (saturate_toNat plugin.runCount).symm⟩
  | cons step rest ih =>
      obtain ⟨verdict, timing, runCount⟩ := plugin.step_keeps step
      obtain ⟨lastVerdict, lastTiming, lastCount⟩ := ih (plugin.step .on step).1
      rw [after_cons]
      refine ⟨lastVerdict.trans verdict, lastTiming.trans timing, ?_⟩
      rw [lastCount, runCount, saturate_add, Nat.add_assoc]
      rfl

theorem after_count (plugin : Instance) (steps : List Step) (count : Nat)
    (counted : plugin.runCount = saturate count) (action : GateAction) :
    (plugin.after .on steps).gate.stats.count action =
      plugin.gate.stats.count action +
        (Step.actions plugin.verdict plugin.gate.timing count steps).count action := by
  induction steps generalizing plugin count with
  | nil => rfl
  | cons step rest ih =>
      obtain ⟨verdict, timing, runCount⟩ := plugin.step_keeps step
      rw [counted, saturate_add] at runCount
      rw [after_cons, ih _ _ runCount, step_count, verdict, timing, Step.actions, List.count_append,
        ← Nat.add_assoc]
      simp only [outcome, counted]

theorem after_channels (plugin : Instance) (steps : List Step) (bound : Nat) :
    (plugin.after .on steps).gate.stats.channels.toNat ≤ bound ↔
      plugin.gate.stats.channels.toNat ≤ bound ∧
        ∀ step ∈ steps, ∀ index, Connected step.buffers index → channelsWith index ≤ bound := by
  induction steps generalizing plugin with
  | nil => exact ⟨fun below => ⟨below, fun _ member => absurd member List.not_mem_nil⟩, And.left⟩
  | cons step rest ih => rw [after_cons, ih, step_channels, List.forall_mem_cons, and_assoc]

namespace Step

theorem count_actions (actions : List GateAction) :
    actions.count .passed + actions.count .faded + actions.count .silenced = actions.length := by
  induction actions with
  | nil => rfl
  | cons action rest ih =>
      simp only [List.count_cons, List.length_cons]
      cases action <;> simp <;> omega

theorem actions_length (verdict : Verdict) (timing : GateTiming) (count : Nat)
    (steps : List Step) :
    (actions verdict timing count steps).length = (steps.flatMap gated).length := by
  induction steps generalizing count with
  | nil => rfl
  | cons step rest ih =>
      rw [actions, List.length_append, List.length_map, ih, List.flatMap_cons, List.length_append]

theorem actions_licensed (timing : GateTiming) (count : Nat) (steps : List Step) :
    ∀ action ∈ actions .licensed timing count steps, action = .passed := by
  induction steps generalizing count with
  | nil => exact fun _ member => absurd member List.not_mem_nil
  | cons step rest ih =>
      intro action member
      rw [actions, List.mem_append] at member
      rcases member with here | later
      · obtain ⟨_, -, same⟩ := List.mem_map.mp here
        exact same.symm
      · exact ih _ action later

def Used (steps : List Step) (index : Nat) : Prop :=
  ∃ step ∈ steps, Connected step.buffers index

end Step

inductive Constructed : Instance → Prop where
  | ofVerdict (verdict : Verdict) (timing : GateTiming) : Constructed (ofVerdict verdict timing)
  | new (capabilities : CapabilityList) (entitlements : List String) (timing : GateTiming) :
      Constructed (new .on capabilities entitlements timing)
  | ofFeatures (features : Option (List (Option RawFeature))) (entitlements : List String)
      (timing : GateTiming) : Constructed (ofFeatures .on features entitlements timing)

theorem constructed_fresh (plugin : Instance) (made : Constructed plugin) :
    plugin.runCount = 0 ∧ plugin.gate.stats = {} := by
  cases made with
  | ofVerdict verdict timing => exact ⟨rfl, rfl⟩
  | new capabilities entitlements timing => exact ⟨rfl, rfl⟩
  | ofFeatures features entitlements timing => exact ⟨rfl, rfl⟩

/-- What an instance knows of the steps it has gone through since it was made. -/
structure Bookkept (made : Instance) (steps : List Step) (plugin : Instance) : Prop where
  runCount : plugin.runCount.toNat = min (Step.total steps) lastPosition
  verdict : plugin.verdict = made.verdict
  timing : plugin.gate.timing = made.gate.timing
  counts : ∀ action, plugin.gate.stats.count action =
    (Step.actions made.verdict made.gate.timing 0 steps).count action
  gated : plugin.gate.stats.passed + plugin.gate.stats.faded + plugin.gate.stats.silenced =
    (steps.flatMap Step.gated).length
  /-- The counts fit into words as long as the number of all buffers does. -/
  words : (steps.flatMap Step.gated).length < 2 ^ 64 →
    ∀ action, plugin.gate.stats.count action < 2 ^ 64
  channels : (plugin.gate.stats.channels.toNat = 0 ∧ ∀ index, ¬ Step.Used steps index) ∨
    ∃ highest, IsGreatest {index | Step.Used steps index} highest ∧
      plugin.gate.stats.channels.toNat = highest + 1
  licensed : made.verdict = .licensed →
    plugin.gate.stats.faded = 0 ∧ plugin.gate.stats.silenced = 0

theorem fresh_count (plugin : Instance) (steps : List Step) (begun : plugin.runCount = 0)
    (empty : plugin.gate.stats = {}) (action : GateAction) :
    (plugin.after .on steps).gate.stats.count action =
      (Step.actions plugin.verdict plugin.gate.timing 0 steps).count action := by
  have none : plugin.gate.stats.count action = 0 := by
    rw [empty]
    cases action <;> rfl
  have start : plugin.runCount = saturate 0 := begun.trans (saturate_toNat 0).symm
  rw [plugin.after_count steps 0 start action, none, Nat.zero_add]

theorem fresh_channels (plugin : Instance) (steps : List Step) (empty : plugin.gate.stats = {})
    (narrow : ∀ step ∈ steps, step.buffers.length ≤ lastPosition) (bound : Nat) :
    (plugin.after .on steps).gate.stats.channels.toNat ≤ bound ↔
      ∀ index, Step.Used steps index → index + 1 ≤ bound := by
  have counted (step : Step) (member : step ∈ steps) (index : Nat)
      (connected : Connected step.buffers index) : channelsWith index = index + 1 := by
    obtain ⟨_, found⟩ := connected
    obtain ⟨inside, -⟩ := List.getElem?_eq_some_iff.mp found
    exact channels_with_counted index (Nat.lt_of_lt_of_le inside (narrow step member))
  have unseen : plugin.gate.stats.channels.toNat ≤ bound := by
    rw [empty]
    exact Nat.zero_le bound
  rw [after_channels]
  constructor
  · rintro ⟨-, all⟩ index ⟨step, member, connected⟩
    rw [← counted step member index connected]
    exact all step member index connected
  · intro all
    refine ⟨unseen, fun step member index connected => ?_⟩
    rw [counted step member index connected]
    exact all index ⟨step, member, connected⟩

/-- The least bound above all of a set of places is one past the highest of them. -/
theorem highest_of_bounds (used : Nat → Prop) (count : Nat)
    (least : ∀ bound, count ≤ bound ↔ ∀ index, used index → index + 1 ≤ bound) :
    (count = 0 ∧ ∀ index, ¬ used index) ∨
      ∃ highest, IsGreatest {index | used index} highest ∧ count = highest + 1 := by
  have above := (least count).mp (Nat.le_refl count)
  cases count with
  | zero => exact .inl ⟨rfl, fun index present => absurd (above index present) nofun⟩
  | succ highest =>
      right
      have reached : ¬ ∀ index, used index → index + 1 ≤ highest :=
        fun all => absurd ((least highest).mpr all) (Nat.not_succ_le_self highest)
      obtain ⟨index, unbounded⟩ := not_forall.mp reached
      obtain ⟨present, past⟩ := Classical.not_imp.mp unbounded
      have same : index = highest := by
        have below := above index present
        omega
      refine ⟨highest, ⟨same ▸ present, fun other member => ?_⟩, rfl⟩
      exact Nat.le_of_succ_le_succ (above other member)

/-- An instance that has been made where licensing is enforced keeps its books over any run: the
samples counted, one action for each buffer gated, and the highest place of a connected port. -/
theorem bookkeeping (made : Instance) (constructed : Constructed made) (steps : List Step)
    (narrow : ∀ step ∈ steps, step.buffers.length ≤ lastPosition) :
    Bookkept made steps (made.after .on steps) ∧
      ∀ before step rest, steps = before ++ step :: rest →
        Moved step (made.after .on before) (made.after .on (before ++ [step])) := by
  obtain ⟨begun, empty⟩ := constructed_fresh made constructed
  obtain ⟨verdict, timing, runCount⟩ := made.after_keeps steps
  have counts := made.fresh_count steps begun empty
  have gated : (made.after .on steps).gate.stats.passed +
      (made.after .on steps).gate.stats.faded + (made.after .on steps).gate.stats.silenced =
        (steps.flatMap Step.gated).length := by
    rw [← Step.actions_length made.verdict made.gate.timing 0, ← Step.count_actions, ← counts,
      ← counts, ← counts]
    rfl
  constructor
  · constructor
    case runCount =>
      rw [runCount, begun, toNat_saturate, UInt32.toNat_zero, Nat.zero_add]
    case verdict => exact verdict
    case timing => exact timing
    case counts => exact counts
    case gated => exact gated
    case words =>
      intro fits action
      rw [← gated] at fits
      cases action <;> simp only [GateStats.count] <;> omega
    case channels =>
      exact highest_of_bounds (Step.Used steps) _ (made.fresh_channels steps empty narrow)
    case licensed =>
      intro licensed
      have passed := Step.actions_licensed made.gate.timing 0 steps
      rw [← licensed] at passed
      have absent (action : GateAction) (other : action ≠ .passed) :
          (made.after .on steps).gate.stats.count action = 0 := by
        rw [counts action, List.count_eq_zero]
        exact fun member => other (passed action member)
      exact ⟨absent .faded nofun, absent .silenced nofun⟩
  · rintro before step rest rfl
    rw [after_append, after_cons]
    exact (made.after .on before).step_moved step

/-- The first port is not connected, the second block is begun and left as it is, and one call
has no ports at all. -/
def oneGated : List Step :=
  [.runBegin 3, .runSilenceConnected [none, some [.one, .one, .one, .one]] 3,
    .runBegin 4294967295, .runNoise []]

theorem bookkeeping_one_gated :
    (∀ step ∈ oneGated, step.buffers.length ≤ lastPosition) ∧
      ((ofVerdict .unlicensed ⟨1, 2⟩).after .on oneGated).runCount.toNat = 4294967295 ∧
      ((ofVerdict .unlicensed ⟨1, 2⟩).after .on oneGated).gate.stats.count .faded = 1 := by
  have narrow : ∀ step ∈ oneGated, step.buffers.length ≤ lastPosition := by decide +kernel
  have books := (bookkeeping (ofVerdict .unlicensed ⟨1, 2⟩) (.ofVerdict _ _) oneGated narrow).1
  have total : min (Step.total oneGated) lastPosition = 4294967295 := by decide +kernel
  have faded : (Step.actions .unlicensed ⟨1, 2⟩ 0 oneGated).count .faded = 1 := by decide +kernel
  exact ⟨narrow, books.runCount.trans total, (books.counts .faded).trans faded⟩

end Instance

end LicenseGate
