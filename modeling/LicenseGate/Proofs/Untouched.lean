import LicenseGate.Proofs.LatchSession

/-!
What is never touched: every output of a licensed instance, and without enforcement every output of
any instance and every buffer passed through the latch. All bits are kept, not only the level.
-/

namespace LicenseGate

namespace Instance

def Step.buffers : Step → List (Option Buffer)
  | .runBegin _ => []
  | .runSilence outputs | .runNoise outputs => outputs.map some
  | .runSilenceConnected outputs _ => outputs

def Step.begun : Step → Nat
  | .runBegin samples => samples.toNat
  | .runSilence _ | .runNoise _ | .runSilenceConnected _ _ => 0

def Step.total (steps : List Step) : Nat := (steps.map Step.begun).sum

theorem front_licensed (plugin : Instance) (licensed : plugin.verdict = .licensed)
    (samples : Nat) (buffer : Buffer) : plugin.frontOutcome samples buffer = buffer := by
  rw [frontOutcome, outcome, licensed, Gate.outcome, List.take_append_drop]

theorem gate_buffers_licensed (plugin : Instance) (licensed : plugin.verdict = .licensed)
    (outputs : List Buffer) : (plugin.gateBuffers 0 outputs).2 = outputs := by
  have passed (buffer : Buffer) : (plugin.outcome buffer).2 = buffer := by
    rw [outcome, licensed, Gate.outcome]
  rw [(plugin.gateBuffers_exact 0 outputs).1]
  simp only [passed, List.map_id']

theorem step_licensed (enforcement : Enforcement) (plugin : Instance) (step : Step)
    (licensed : plugin.verdict = .licensed) :
    (plugin.step enforcement step).2 = step.buffers ∧
      (plugin.step enforcement step).1.verdict = .licensed := by
  cases enforcement with
  | off => cases step <;> exact ⟨rfl, licensed⟩
  | on =>
      cases step with
      | runBegin samples => exact ⟨rfl, licensed⟩
      | runSilence outputs | runNoise outputs =>
          have kept := (plugin.gateBuffers_exact 0 outputs).2
          exact ⟨congrArg (List.map some) (plugin.gate_buffers_licensed licensed outputs),
            kept.verdict.trans licensed⟩
      | runSilenceConnected outputs samples =>
          obtain ⟨gated, kept⟩ := plugin.gateConnected_exact samples.toNat 0 outputs
          refine ⟨gated.trans ?_, kept.verdict.trans licensed⟩
          have untouched : plugin.frontOutcome samples.toNat = id :=
            funext (plugin.front_licensed licensed samples.toNat)
          rw [untouched, Option.map_id, List.map_id]
          rfl

theorem run_licensed (enforcement : Enforcement) (plugin : Instance) (steps : List Step)
    (licensed : plugin.verdict = .licensed) :
    (plugin.run enforcement steps).map Prod.snd = steps.map Step.buffers := by
  induction steps generalizing plugin with
  | nil => rfl
  | cons step rest ih =>
      obtain ⟨untouched, next⟩ := step_licensed enforcement plugin step licensed
      rw [run, List.map_cons, untouched, ih _ next, List.map_cons]

theorem step_off (plugin : Instance) (step : Step) :
    plugin.step .off step =
      ({ plugin with runCount := saturate (plugin.runCount.toNat + step.begun) },
        step.buffers) := by
  cases step with
  | runBegin samples => rfl
  | runSilence outputs => simp [Instance.step, runSilence, Step.begun, Step.buffers, saturate_toNat]
  | runNoise outputs =>
      simp [Instance.step, runNoise, runSilence, Step.begun, Step.buffers, saturate_toNat]
  | runSilenceConnected outputs samples =>
      simp [Instance.step, runSilenceConnected, Step.begun, Step.buffers, saturate_toNat]

theorem run_off (plugin : Instance) (steps : List Step) (place : Nat) :
    (plugin.run .off steps)[place]? = steps[place]?.map fun step =>
      ({ plugin with
          runCount := saturate (plugin.runCount.toNat + Step.total (steps.take (place + 1))) },
        step.buffers) := by
  induction steps generalizing plugin place with
  | nil => rfl
  | cons step rest ih =>
      rw [run, step_off]
      cases place with
      | zero => simp [Step.total]
      | succ place =>
          rw [List.getElem?_cons_succ, List.getElem?_cons_succ, ih]
          simp only [saturate_add, Step.total, List.take_succ_cons, List.map_cons, List.sum_cons,
            Nat.add_assoc]

end Instance

namespace Latch

/-- What a caller sees where nothing is enforced: no silence, no failed check and no call to a
host. -/
def Undisturbed : Request → Latch × Reply → Prop
  | .check _ _, (latch, reply) => latch = .licensed ∧ reply = .checked true []
  | .runSilence _ buffer _ _, (latch, reply) | .runNoise _ buffer _ _, (latch, reply) =>
      latch ≠ .unlicensed ∧ reply = .gated buffer
  | .runBegin _ _, (latch, _) | .interface _, (latch, _) | .version, (latch, _)
  | .read, (latch, _) => latch ≠ .unlicensed

theorem serve_off (latch : Latch) (request : Request) (permitted : latch ≠ .unlicensed) :
    Undisturbed request (latch.serve .off request) ∧
      (latch.serve .off request).1 ≠ .unlicensed := by
  have untouched (runCount samples : UInt32) : latch.runSilence runCount samples = id :=
    funext fun buffer => latch.silence_open runCount samples buffer permitted
  cases request with
  | check features uri => exact ⟨⟨rfl, rfl⟩, nofun⟩
  | runSilence runCount buffer samples channel | runNoise runCount buffer samples channel =>
      refine ⟨⟨permitted, ?_⟩, permitted⟩
      rw [untouched, Option.map_id]
      rfl
  | runBegin runCount samples => exact ⟨permitted, permitted⟩
  | interface uri => exact ⟨permitted, permitted⟩
  | version => exact ⟨permitted, permitted⟩
  | read => exact ⟨permitted, permitted⟩

theorem serve_all_off (latch : Latch) (requests : List Request) (permitted : latch ≠ .unlicensed) :
    List.Forall₂ Undisturbed requests (latch.serveAll .off requests) := by
  induction requests generalizing latch with
  | nil => exact List.Forall₂.nil
  | cons request rest ih =>
      obtain ⟨undisturbed, next⟩ := serve_off latch request permitted
      exact List.Forall₂.cons undisturbed (ih _ next)

end Latch

/-- A licensed instance keeps every bit of every output, and so does any instance where nothing is
enforced; there only run counters move, no host is asked, and the latch never closes. -/
theorem untouched_unless_enforced :
    (∀ (enforcement : Enforcement) (plugin : Instance) (steps : List Instance.Step),
      plugin.verdict = .licensed →
        (plugin.run enforcement steps).map Prod.snd = steps.map Instance.Step.buffers) ∧
    (∀ (plugin : Instance) (steps : List Instance.Step) (place : Nat),
      (plugin.run .off steps)[place]? = steps[place]?.map fun step =>
        ({ plugin with
            runCount := saturate
              (plugin.runCount.toNat + Instance.Step.total (steps.take (place + 1))) },
          step.buffers)) ∧
    (∀ (verdict : Verdict) (timing : GateTiming) (steps : List Instance.Step),
      ∀ result ∈ (Instance.ofVerdict verdict timing).run .off steps, result.1.gate.stats = {}) ∧
    (∀ (capabilities : CapabilityList) (features : Option (List (Option RawFeature)))
      (entitlements : List String) (timing : GateTiming),
      (Instance.new .off capabilities entitlements timing).isLicensed = true ∧
        Instance.newCalls .off capabilities entitlements = [] ∧
        (Instance.ofFeatures .off features entitlements timing).isLicensed = true ∧
        Instance.ofFeaturesCalls .off features entitlements = []) ∧
    (∀ requests : List Latch.Request,
      List.Forall₂ Latch.Undisturbed requests (Latch.unchecked.serveAll .off requests)) := by
  refine ⟨Instance.run_licensed, Instance.run_off, ?_, ?_, ?_⟩
  · intro verdict timing steps result member
    obtain ⟨place, seen⟩ := List.mem_iff_getElem?.mp member
    rw [Instance.run_off] at seen
    obtain ⟨step, -, rfl⟩ := Option.map_eq_some_iff.mp seen
    rfl
  · intro capabilities features entitlements timing
    exact ⟨rfl, rfl, rfl, rfl⟩
  · intro requests
    exact Latch.serve_all_off .unchecked requests nofun

/-- A signalling NaN stays one, though the timing would silence everything at once. -/
theorem untouched_unless_enforced_signalling :
    (Instance.mk .licensed 4294967295 { timing := .hardMute }).verdict = .licensed ∧
      ((Instance.mk .licensed 4294967295 { timing := .hardMute }).run .on
          [.runBegin 7, .runNoise [[⟨0x7fa00001⟩], []],
            .runSilenceConnected [none, some [⟨0xff800001⟩, ⟨0x80000000⟩]] 1]).map Prod.snd =
        [[], [some [⟨0x7fa00001⟩], some []], [none, some [⟨0xff800001⟩, ⟨0x80000000⟩]]] :=
  ⟨rfl, untouched_unless_enforced.1 .on _ _ rfl⟩

end LicenseGate
