import LicenseGate.Latch
import LicenseGate.Proofs.EntitlementSearch
import LicenseGate.Proofs.InstanceRun

/-!
One plugin that keeps only a counter and calls through the process-wide latch, beside one that keeps
an instance. The latch and the verdict agree on silence alone: with nothing checked the latch is
still unchecked where the verdict is licensed.
-/

namespace LicenseGate

open Text

theorem Verdict.unlicensed_iff (verdict : Verdict) :
    verdict = .unlicensed ↔ verdict.isLicensed = false := by
  cases verdict <;> decide

structure Port where
  buffer : Option Buffer
  retired : Bool := false

/-- One block of a run in which outputs may be unconnected and may hold more than the block. -/
structure PortBlock where
  size : UInt32
  ports : List Port

def throughBlocks (step : State → PortBlock → State × Seen) (state : State) :
    List PortBlock → State × List Seen
  | [] => (state, [])
  | block :: rest =>
      let result := step state block
      let later := throughBlocks step result.1 rest
      (later.1, result.2 :: later.2)

/-- Two ways to run a block that show the same and stay related do so over every run. -/
theorem through_blocks_related (relation : Left → Right → Prop)
    (left : Left → PortBlock → Left × Seen) (right : Right → PortBlock → Right × Seen)
    (agree : ∀ first second block, relation first second →
      (left first block).2 = (right second block).2 ∧
        relation (left first block).1 (right second block).1)
    (first : Left) (second : Right) (blocks : List PortBlock) (related : relation first second) :
    (throughBlocks left first blocks).2 = (throughBlocks right second blocks).2 ∧
      relation (throughBlocks left first blocks).1 (throughBlocks right second blocks).1 := by
  induction blocks generalizing first second with
  | nil => exact ⟨rfl, related⟩
  | cons block rest ih =>
      obtain ⟨same, next⟩ := agree first second block related
      obtain ⟨later, last⟩ := ih _ _ next
      exact ⟨by simp only [throughBlocks, same, later], last⟩

namespace Latch

def checkUntil (enforcement : Enforcement) (features : Option (List (Option RawFeature)))
    (latch : Latch) : List String → Latch × List Call
  | [] => (latch, [])
  | uri :: rest =>
      match latch.serve enforcement (.check features (some (Utf8.encode uri.toList))) with
      | (next, .checked true calls) => (next, calls)
      | (next, .checked false calls) =>
          let (last, more) := next.checkUntil enforcement features rest
          (last, calls ++ more)
      | (next, _) => (next, [])

def gatePorts (enforcement : Enforcement) (latch : Latch) (runCount samples : UInt32)
    (channel : Nat) : List Port → Latch × List (Option Buffer)
  | [] => (latch, [])
  | port :: rest =>
      let request :=
        if port.retired then
          Request.runNoise runCount port.buffer samples (UInt32.ofNat channel)
        else Request.runSilence runCount port.buffer samples (UInt32.ofNat channel)
      let (next, reply) := latch.serve enforcement request
      let (last, buffers) := next.gatePorts enforcement runCount samples (channel + 1) rest
      match reply with
      | .gated buffer => (last, buffer :: buffers)
      | _ => (last, none :: buffers)

theorem gatePorts_exact (enforcement : Enforcement) (latch : Latch) (runCount samples : UInt32)
    (channel : Nat) (ports : List Port) :
    latch.gatePorts enforcement runCount samples channel ports =
      (latch, ports.map fun port => port.buffer.map (latch.runSilence runCount samples)) := by
  induction ports generalizing channel with
  | nil => rfl
  | cons port rest ih =>
      cases retired : port.retired <;> simp [gatePorts, serve, retired, ih]

theorem silence_open (latch : Latch) (runCount samples : UInt32) (buffer : Buffer)
    (permitted : latch ≠ .unlicensed) : latch.runSilence runCount samples buffer = buffer := by
  cases latch with
  | unlicensed => exact absurd rfl permitted
  | unchecked => rfl
  | licensed => rfl

theorem silence_front (latch : Latch) (plugin : Instance) (samples : UInt32) (buffer : Buffer)
    (agree : latch = .unlicensed ↔ plugin.verdict = .unlicensed)
    (timing : plugin.gate.timing = .standard) :
    latch.runSilence plugin.runCount samples buffer = plugin.frontOutcome samples.toNat buffer := by
  cases verdict : plugin.verdict with
  | unlicensed =>
      rw [agree.mpr verdict, Latch.runSilence, Instance.frontOutcome, Instance.outcome, verdict,
        timing, Gate.outcome]
  | licensed =>
      have permitted : latch ≠ .unlicensed := by
        rw [Ne, agree, verdict]
        decide
      rw [silence_open latch _ _ _ permitted, Instance.frontOutcome, Instance.outcome,
        verdict, Gate.outcome]
      exact (List.take_append_drop samples.toNat buffer).symm

theorem of_bool_agrees (passed : Bool) :
    ofBool passed = .unlicensed ↔ Verdict.ofBool passed = .unlicensed := by
  cases passed <;> decide

def uriOutcome (enforcement : Enforcement) (features : Option (List (Option RawFeature)))
    (uri : String) : Bool × List Call :=
  checkOutcome enforcement features (some (Utf8.encode uri.toList))

theorem uri_outcome_on (features : Option (List (Option RawFeature))) (uri : String) :
    uriOutcome .on features uri =
      ((CapabilityList.ofArray features).check uri,
        (CapabilityList.ofArray features).checkCalls uri) := by
  have decoded := Utf8.decode_encode uri.toList
  simp [uriOutcome, checkOutcome, decoded]

theorem checkUntil_exact (enforcement : Enforcement)
    (features : Option (List (Option RawFeature))) (latch : Latch) (uris : List String) :
    latch.checkUntil enforcement features uris =
      (if uris = [] then latch else ofBool (uris.any fun uri =>
          (uriOutcome enforcement features uri).1),
        (askedUntil (fun uri => (uriOutcome enforcement features uri).1) uris).flatMap fun uri =>
          (uriOutcome enforcement features uri).2) := by
  induction uris generalizing latch with
  | nil => rfl
  | cons uri rest ih =>
      have served : latch.serve enforcement (.check features (some (Utf8.encode uri.toList))) =
          (ofBool (uriOutcome enforcement features uri).1,
            .checked (uriOutcome enforcement features uri).1
              (uriOutcome enforcement features uri).2) := rfl
      rw [checkUntil, served]
      cases passed : (uriOutcome enforcement features uri).1 with
      | true => simp [askedUntil, passed]
      | false =>
          simp only [ih, askedUntil, passed, List.any_cons, Bool.false_or]
          cases rest <;> simp

end Latch

structure Session where
  latch : Latch
  runCount : UInt32

namespace Session

def opened (enforcement : Enforcement) (features : Option (List (Option RawFeature)))
    (uris : List String) : Session :=
  ⟨(Latch.unchecked.checkUntil enforcement features uris).1, 0⟩

def runBlock (enforcement : Enforcement) (session : Session) (block : PortBlock) :
    Session × UInt32 × List (Option Buffer) :=
  match session.latch.serve enforcement (.runBegin session.runCount block.size) with
  | (begun, .counted runCount) =>
      let gated := begun.gatePorts enforcement runCount block.size 0 block.ports
      (⟨gated.1, runCount⟩, runCount, gated.2)
  | (begun, _) => (⟨begun, session.runCount⟩, session.runCount, [])

end Session

def Instance.runPorts (enforcement : Enforcement) (plugin : Instance) (block : PortBlock) :
    Instance × UInt32 × List (Option Buffer) :=
  let begun := (plugin.step enforcement (.runBegin block.size)).1
  let gated :=
    begun.step enforcement (.runSilenceConnected (block.ports.map Port.buffer) block.size)
  (gated.1, gated.1.runCount, gated.2)

/-- A session and an instance with which it stays in step. Without enforcement neither can come to
be unlicensed. -/
structure Session.Follows (enforcement : Enforcement) (session : Session) (plugin : Instance) :
    Prop where
  latch : session.latch = .unlicensed ↔ plugin.verdict = .unlicensed
  runCount : session.runCount = plugin.runCount
  timing : plugin.gate.timing = .standard
  enforced : enforcement = .off → plugin.verdict = .licensed

namespace Session

theorem opened_follows (enforcement : Enforcement)
    (features : Option (List (Option RawFeature))) (uris : List String) :
    Follows enforcement (opened enforcement features uris)
      (Instance.ofFeatures enforcement features uris .standard) := by
  cases enforcement with
  | off =>
      refine ⟨?_, rfl, rfl, fun _ => rfl⟩
      have passed (uri : String) : (Latch.uriOutcome .off features uri).1 = true := rfl
      cases uris with
      | nil => exact ⟨nofun, nofun⟩
      | cons uri rest =>
          simp only [opened, Latch.checkUntil_exact, List.any_cons, passed, Bool.true_or]
          exact ⟨nofun, nofun⟩
  | on =>
      refine ⟨?_, rfl, rfl, nofun⟩
      -- The two agree on an empty list in different states, so it is a case of its own.
      cases uris with
      | nil => exact ⟨nofun, nofun⟩
      | cons uri rest =>
          simp only [opened, Latch.checkUntil_exact, Latch.uri_outcome_on, reduceCtorEq, ↓reduceIte,
            Latch.of_bool_agrees]
          rfl

theorem run_block_exact (enforcement : Enforcement) (session : Session) (block : PortBlock) :
    session.runBlock enforcement block =
      (⟨session.latch, Counter.advance session.runCount block.size⟩,
        Counter.advance session.runCount block.size,
        block.ports.map fun port => port.buffer.map
          (session.latch.runSilence (Counter.advance session.runCount block.size) block.size)) := by
  simp only [runBlock, Latch.serve, Latch.gatePorts_exact, Latch.runBegin]

theorem run_block_follows (enforcement : Enforcement) (session : Session) (plugin : Instance)
    (block : PortBlock) (follows : Follows enforcement session plugin) :
    (session.runBlock enforcement block).2 = (plugin.runPorts enforcement block).2 ∧
      Follows enforcement (session.runBlock enforcement block).1
        (plugin.runPorts enforcement block).1 := by
  obtain ⟨latch, runCount, timing, enforced⟩ := follows
  rw [run_block_exact, runCount]
  cases enforcement with
  | off =>
      have permitted : session.latch ≠ .unlicensed := by
        rw [Ne, latch, enforced rfl]
        nofun
      have untouched (samples : UInt32) : session.latch.runSilence
          (Counter.advance plugin.runCount samples) samples = id := by
        funext buffer
        exact session.latch.silence_open _ _ _ permitted
      refine ⟨?_, latch, rfl, timing, enforced⟩
      simp only [untouched, Option.map_id]
      rfl
  | on =>
      obtain ⟨gated, alike⟩ := (plugin.runBegin block.size).gateConnected_exact
        block.size.toNat 0 (block.ports.map Port.buffer)
      have front : session.latch.runSilence (Counter.advance plugin.runCount block.size)
          block.size = (plugin.runBegin block.size).frontOutcome block.size.toNat := by
        funext buffer
        exact session.latch.silence_front (plugin.runBegin block.size) block.size buffer latch
          timing
      refine ⟨Prod.ext alike.runCount.symm ?_, ?_⟩
      · rw [front]
        exact (gated.trans List.map_map).symm
      · have kept : (plugin.runPorts .on block).1.verdict = plugin.verdict := alike.verdict
        exact ⟨by rw [latch, kept], alike.runCount.symm, alike.timing.trans timing, nofun⟩

end Session

/-- Through the latch a plugin gets what an instance of its own would give it: the same calls to
the host, the same counters and the same buffers. -/
theorem session_refines_instance (enforcement : Enforcement)
    (features : Option (List (Option RawFeature))) (uris : List String)
    (blocks : List PortBlock) :
    (Latch.unchecked.checkUntil enforcement features uris).2 =
        Instance.ofFeaturesCalls enforcement features uris ∧
      (throughBlocks (Session.runBlock enforcement) (Session.opened enforcement features uris)
          blocks).2 =
        (throughBlocks (Instance.runPorts enforcement)
          (Instance.ofFeatures enforcement features uris .standard) blocks).2 ∧
      ((throughBlocks (Session.runBlock enforcement) (Session.opened enforcement features uris)
          blocks).1.latch = .unlicensed ↔
        (throughBlocks (Instance.runPorts enforcement)
          (Instance.ofFeatures enforcement features uris .standard) blocks).1.isLicensed =
            false) := by
  have opened := Session.opened_follows enforcement features uris
  obtain ⟨same, last⟩ := through_blocks_related (Session.Follows enforcement)
    (Session.runBlock enforcement) (Instance.runPorts enforcement)
    (Session.run_block_follows enforcement) _ _ blocks opened
  refine ⟨?_, same, ?_⟩
  · rw [Latch.checkUntil_exact]
    cases enforcement with
    | off =>
        simp [Instance.ofFeaturesCalls, Instance.newCalls, Latch.uriOutcome, Latch.checkOutcome]
    | on =>
        simp only [Latch.uri_outcome_on]
        rfl
  · rw [last.latch, Verdict.unlicensed_iff, Instance.isLicensed]

end LicenseGate
