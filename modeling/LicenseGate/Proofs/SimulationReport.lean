import LicenseGate.Proofs.DecimalText
import LicenseGate.Proofs.EnvelopeShape
import LicenseGate.Proofs.LicenseDecision
import LicenseGate.Proofs.SampleCount
import LicenseGate.Proofs.StreamLaw
import LicenseGate.Proofs.Untouched
import LicenseGate.Proofs.Validation
import LicenseGate.Simulation

/-!
What the simulated second reports, in closed form. At full scale both channels are as loud as the
envelope, which never rises: the first sample of the last block is its loudest, and the first silent
sample is where the envelope shuts, in whichever block that falls.
-/

namespace LicenseGate

open Numeric

namespace GateTiming

theorem policy_full_scale (timing : GateTiming) (position : Nat) (sample : Sample)
    (counted : position ≤ lastPosition) (full : sample.magnitude = Sample.one.magnitude) :
    (timing.policy position sample).magnitude =
      (timing.gainAt (UInt32.ofNat position)).magnitude := by
  rw [policy]
  split
  next early =>
    rw [gain_at_grace timing _ (by rwa [to_nat_of_counted position counted])]
    exact full
  next =>
    have number : sample.isNaN = false := by
      rw [Sample.isNaN, full]
      decide
    have below : (timing.gainAt (UInt32.ofNat position)).magnitude ≤ Sample.one.magnitude := by
      rw [gain_magnitude]
      exact timing.gain_at_le_one _
    rw [Sample.clamp_magnitude _ _ number, full, Nat.min_eq_right below]

end GateTiming

namespace Simulation

namespace Arguments

theorem read_all_exact (words : List String) (arguments : Arguments) :
    (words.foldl read arguments).licensed =
        (arguments.licensed || decide ("--licensed" ∈ words)) ∧
      (words.foldl read arguments).path =
        (words.filter (· ≠ "--licensed")).getLast?.or arguments.path := by
  induction words generalizing arguments with
  | nil => simp
  | cons word rest ih =>
      obtain ⟨licensed, path⟩ := ih (arguments.read word)
      rw [List.foldl_cons, licensed, path]
      by_cases flag : word = "--licensed"
      · simp [read, flag]
      · have apart : "--licensed" ≠ word := fun same => flag same.symm
        simp [read, flag, apart, List.getLast?_cons]

theorem of_list_exact (words : List String) :
    (ofList words).licensed = decide ("--licensed" ∈ words) ∧
      (ofList words).path = (words.filter (· ≠ "--licensed")).getLast? := by
  obtain ⟨licensed, path⟩ := read_all_exact words {}
  exact ⟨licensed.trans (Bool.false_or _), path.trans Option.or_none⟩

end Arguments

def fullScaleGain (verdict : Verdict) (timing : GateTiming) (position : Nat) : Sample :=
  match verdict with
  | .licensed => Sample.one
  | .unlicensed => timing.gainAt (UInt32.ofNat position)

def silentPosition (timing : GateTiming) : Nat :=
  timing.grace.toNat + max timing.fade.toNat 1 - 1

def silentBefore (verdict : Verdict) (timing : GateTiming) (finish : Nat) : Option UInt32 :=
  match verdict with
  | .licensed => none
  | .unlicensed =>
      if silentPosition timing < finish then some (UInt32.ofNat (silentPosition timing)) else none

theorem silent_before_to_nat (timing : GateTiming) (finish : Nat) (counted : finish ≤ lastPosition) :
    (silentBefore .unlicensed timing finish).map UInt32.toNat =
      if silentPosition timing < finish then some (silentPosition timing) else none := by
  simp only [silentBefore]
  split
  next within => rw [Option.map_some, to_nat_of_counted _ (by omega)]
  next => rfl

theorem gain_le_one (verdict : Verdict) (timing : GateTiming) (position : Nat) :
    (fullScaleGain verdict timing position).bits.toNat ≤ Sample.one.bits.toNat := by
  cases verdict with
  | licensed => exact Nat.le_refl _
  | unlicensed => exact timing.gain_at_le_one _

theorem gain_positive (verdict : Verdict) (timing : GateTiming) (position : Nat) :
    (fullScaleGain verdict timing position).bits.toNat < Sample.signBit :=
  Nat.lt_of_le_of_lt (gain_le_one verdict timing position) (by decide)

theorem gain_antitone (verdict : Verdict) (timing : GateTiming) (position later : Nat)
    (order : position ≤ later) (counted : later ≤ lastPosition) :
    (fullScaleGain verdict timing later).magnitude ≤
      (fullScaleGain verdict timing position).magnitude := by
  cases verdict with
  | licensed => exact Nat.le_refl _
  | unlicensed =>
      simp only [fullScaleGain, GateTiming.gain_magnitude]
      apply GateTiming.gain_at_antitone
      rwa [to_nat_of_counted position (Nat.le_trans order counted), to_nat_of_counted later counted]

structure Carries (level : Nat → Sample) (start : Nat) (output : Buffer) : Prop where
  length : output.length = blockSize
  magnitude : ∀ (index : Nat) (inside : index < output.length),
    output[index].magnitude = (level (start + index)).magnitude

theorem silent_index_exact (level : Nat → Sample) (start silence : Nat) (left right : Buffer)
    (onLeft : Carries level start left) (onRight : Carries level start right)
    (shut : ∀ index < blockSize,
      (level (start + index)).magnitude = 0 ↔ silence ≤ start + index) :
    Heard.silentIndex? left right =
      if silence < start + blockSize then some (silence - start) else none := by
  have sized : 0 < blockSize := by decide
  have length : (left.zip right).length = blockSize := by
    rw [List.length_zip, onLeft.length, onRight.length, Nat.min_self]
  have silent (index : Nat) (inside : index < (left.zip right).length) :
      ((left.zip right)[index].1.magnitude = 0 ∧ (left.zip right)[index].2.magnitude = 0) ↔
        silence ≤ start + index := by
    rw [List.getElem_zip, onLeft.magnitude, onRight.magnitude, and_self, shut index (by omega)]
  rw [Heard.silentIndex?]
  split
  next reached =>
    rw [List.findIdx?_eq_some_iff_getElem]
    refine ⟨by omega, decide_eq_true ((silent _ (by omega)).mpr (by omega)), ?_⟩
    intro earlier before holds
    have late := (silent earlier (by omega)).mp (of_decide_eq_true holds)
    omega
  next beyond =>
    rw [List.findIdx?_eq_none_iff]
    intro pair member
    obtain ⟨index, inside, rfl⟩ := List.getElem_of_mem member
    refine decide_eq_false fun holds => ?_
    have late := (silent index inside).mp holds
    omega

theorem louder_le_iff (peak bound : Nat) (sample : Sample) :
    Heard.louder peak sample ≤ bound ↔
      peak ≤ bound ∧ (sample.isNaN = false → sample.magnitude ≤ bound) := by
  rw [Heard.louder]
  cases sample.isNaN <;> simp

theorem loudest_le_iff (samples : List Sample) (least bound : Nat) :
    samples.foldl Heard.louder least ≤ bound ↔
      least ≤ bound ∧ ∀ sample ∈ samples, sample.isNaN = false → sample.magnitude ≤ bound := by
  induction samples generalizing least with
  | nil => simp
  | cons sample rest ih =>
      rw [List.foldl_cons, ih, louder_le_iff, List.forall_mem_cons, and_assoc]

/-- The peak of a block at a level that never rises is the level at its start. -/
theorem peak_exact (level : Nat → Sample) (start : Nat) (left right : Buffer)
    (onLeft : Carries level start left) (onRight : Carries level start right)
    (bounded : (level start).bits.toNat ≤ Sample.one.bits.toNat)
    (falling : ∀ index < blockSize,
      (level (start + index)).magnitude ≤ (level start).magnitude) :
    Heard.peakOf (left ++ right) = level start := by
  have positive : (level start).bits.toNat < Sample.signBit :=
    Nat.lt_of_le_of_lt bounded (by decide)
  obtain ⟨whole, -⟩ := Sample.magnitude_positive _ positive
  have within (output : Buffer) (carried : Carries level start output) (sample : Sample)
      (member : sample ∈ output) : sample.magnitude ≤ (level start).magnitude := by
    obtain ⟨index, inside, rfl⟩ := List.getElem_of_mem member
    rw [carried.magnitude index inside]
    exact falling index (by rw [← carried.length]; exact inside)
  have first : 0 < left.length := by
    rw [onLeft.length]
    decide
  have loudest : left[0].magnitude = (level start).magnitude := onLeft.magnitude 0 first
  have number : left[0].isNaN = false := by
    rw [Sample.isNaN, loudest, whole]
    exact decide_eq_false (Nat.not_lt_of_le (Nat.le_trans bounded (by decide)))
  have peak : (left ++ right).foldl Heard.louder 0 = (level start).magnitude := by
    apply Nat.le_antisymm
    · rw [loudest_le_iff]
      refine ⟨Nat.zero_le _, fun sample member _ => ?_⟩
      rcases List.mem_append.mp member with onto | onto
      · exact within left onLeft sample onto
      · exact within right onRight sample onto
    · have bounds := (loudest_le_iff (left ++ right) 0 _).mp (Nat.le_refl _)
      rw [← loudest]
      exact bounds.2 _ (List.mem_append_left right (List.getElem_mem first)) number
  rw [Heard.peakOf, peak, whole, UInt32.ofNat_toNat]

theorem full_scale_exact (buffer : Buffer) (member : buffer ∈ fullScale) :
    buffer.length = blockSize ∧ ∀ sample ∈ buffer, sample.magnitude = Sample.one.magnitude := by
  simp only [fullScale, List.mem_cons, List.not_mem_nil, or_false] at member
  rcases member with rfl | rfl
  · refine ⟨List.length_replicate, fun sample held => ?_⟩
    rw [List.eq_of_mem_replicate held]
  · refine ⟨List.length_replicate, fun sample held => ?_⟩
    rw [List.eq_of_mem_replicate held]
    decide

def stereo : Block :=
  ⟨UInt32.ofNat blockSize, fullScale, false, fun buffer member => (full_scale_exact buffer member).1⟩

def heardAt (verdict : Verdict) (timing : GateTiming) (position : Nat) (sample : Sample) : Sample :=
  match verdict with
  | .licensed => sample
  | .unlicensed => timing.policy position sample

theorem heard_at_full_scale (verdict : Verdict) (timing : GateTiming) (position : Nat)
    (sample : Sample) (counted : position ≤ lastPosition)
    (full : sample.magnitude = Sample.one.magnitude) :
    (heardAt verdict timing position sample).magnitude =
      (fullScaleGain verdict timing position).magnitude := by
  cases verdict with
  | licensed => exact full
  | unlicensed => exact timing.policy_full_scale position sample counted full

/-- Without enforcement this is said of licensed instances only, as there are no others. -/
theorem stereo_heard (enforcement : Enforcement) (plugin : Instance)
    (enforced : enforcement = .off → plugin.verdict = .licensed)
    (counted : plugin.runCount.toNat + blockSize ≤ lastPosition) :
    (plugin.runBlock enforcement stereo).2 = fullScale.map fun buffer =>
      buffer.mapIdx fun index sample =>
        heardAt plugin.verdict plugin.gate.timing (plugin.runCount.toNat + index) sample := by
  cases verdict : plugin.verdict with
  | unlicensed =>
      cases enforcement with
      | on => exact plugin.run_block_policy stereo verdict counted
      | off => exact absurd (verdict.symm.trans (enforced rfl)) nofun
  | licensed =>
      have untouched (buffer : Buffer) : buffer.mapIdx (fun index sample =>
          heardAt .licensed plugin.gate.timing (plugin.runCount.toNat + index) sample) = buffer :=
        List.ext_getElem List.length_mapIdx fun index _ _ => List.getElem_mapIdx
      simp only [untouched, List.map_id']
      cases enforcement with
      | on => exact (plugin.runBegin stereo.size).gate_buffers_licensed verdict fullScale
      | off => rfl

theorem stereo_carries (enforcement : Enforcement) (plugin : Instance)
    (enforced : enforcement = .off → plugin.verdict = .licensed)
    (counted : plugin.runCount.toNat + blockSize ≤ lastPosition) :
    ∃ left right, (plugin.runBlock enforcement stereo).2 = [left, right] ∧
      Carries (fullScaleGain plugin.verdict plugin.gate.timing) plugin.runCount.toNat left ∧
      Carries (fullScaleGain plugin.verdict plugin.gate.timing) plugin.runCount.toNat right := by
  have carried (buffer : Buffer) (member : buffer ∈ fullScale) :
      Carries (fullScaleGain plugin.verdict plugin.gate.timing) plugin.runCount.toNat
        (buffer.mapIdx fun index sample =>
          heardAt plugin.verdict plugin.gate.timing (plugin.runCount.toNat + index) sample) := by
    obtain ⟨length, full⟩ := full_scale_exact buffer member
    refine ⟨by rw [List.length_mapIdx, length], fun index inside => ?_⟩
    rw [List.length_mapIdx] at inside
    rw [List.getElem_mapIdx]
    exact heard_at_full_scale _ _ _ _ (by omega) (full _ (List.getElem_mem inside))
  exact ⟨_, _, stereo_heard enforcement plugin enforced counted,
    carried _ List.mem_cons_self, carried _ (List.mem_cons_of_mem _ List.mem_cons_self)⟩

/-- A run of the simulation after some blocks: what is counted, and what was heard so far. -/
structure Progress (verdict : Verdict) (timing : GateTiming) (blocks : Nat) (plugin : Instance)
    (heard : Heard) : Prop where
  judged : plugin.verdict = verdict
  timed : plugin.gate.timing = timing
  runCount : plugin.runCount.toNat = blocks * blockSize
  firstSilent : heard.firstSilent = silentBefore verdict timing (blocks * blockSize)
  peak : 0 < blocks → heard.peak = fullScaleGain verdict timing ((blocks - 1) * blockSize)

theorem progress_initial (verdict : Verdict) (timing : GateTiming) :
    Progress verdict timing 0 (Instance.ofVerdict verdict timing) {} := by
  refine ⟨rfl, rfl, rfl, ?_, fun some => absurd some (Nat.lt_irrefl 0)⟩
  cases verdict with
  | licensed => rfl
  | unlicensed =>
      rw [silentBefore, Nat.zero_mul, if_neg (Nat.not_lt_zero _)]

theorem listen_first_silent (verdict : Verdict) (timing : GateTiming) (heard : Heard)
    (start : UInt32) (left right : Buffer) (short : timing.fade.toNat ≤ 2 ^ 24)
    (counted : start.toNat + blockSize ≤ lastPosition)
    (before : heard.firstSilent = silentBefore verdict timing start.toNat)
    (onLeft : Carries (fullScaleGain verdict timing) start.toNat left)
    (onRight : Carries (fullScaleGain verdict timing) start.toNat right) :
    (heard.listen start left right).firstSilent =
      silentBefore verdict timing (start.toNat + blockSize) := by
  rw [Heard.listen, before]
  cases verdict with
  | licensed =>
      -- Nothing is silent, so silence stands past the block.
      have none := silent_index_exact _ start.toNat (start.toNat + blockSize) left right onLeft
        onRight fun index inside =>
          ⟨fun silent => absurd silent (show ¬ Sample.one.magnitude = 0 by decide), by omega⟩
      rw [if_neg (Nat.lt_irrefl _)] at none
      rw [none]
      rfl
  | unlicensed =>
      have index := silent_index_exact _ start.toNat (silentPosition timing) left right onLeft
        onRight fun index inside => by
          have place := to_nat_of_counted (start.toNat + index) (by omega)
          have shut := timing.gain_at_zero_iff (UInt32.ofNat (start.toNat + index)) short
          rw [place] at shut
          rw [silentPosition, ← shut]
          constructor
          · exact Sample.eq_zero_of_magnitude _ (gain_positive .unlicensed timing _)
          · intro zero
            rw [fullScaleGain, zero]
            rfl
      rw [index, silentBefore, silentBefore]
      split
      next earlier =>
        have within : silentPosition timing < start.toNat + blockSize := by omega
        rw [if_pos within, if_pos within]
        rfl
      next later =>
        split
        next within =>
          have place : start.toNat + (silentPosition timing - start.toNat) =
              silentPosition timing := by omega
          rw [Option.none_or, Option.map_some, place]
        next => rfl

theorem stereo_next (enforcement : Enforcement) (plugin : Instance) :
    (plugin.runBlock enforcement stereo).1.verdict = plugin.verdict ∧
      (plugin.runBlock enforcement stereo).1.gate.timing = plugin.gate.timing ∧
      (plugin.runBlock enforcement stereo).1.runCount.toNat =
        min (plugin.runCount.toNat + blockSize) lastPosition := by
  cases enforcement with
  | on => exact plugin.run_block_next stereo
  | off => exact ⟨rfl, rfl, Counter.toNat_advance plugin.runCount stereo.size⟩

theorem progress_step (enforcement : Enforcement) (verdict : Verdict) (timing : GateTiming)
    (blocks : Nat) (plugin : Instance) (heard : Heard)
    (enforced : enforcement = .off → verdict = .licensed) (short : timing.fade.toNat ≤ 2 ^ 24)
    (counted : (blocks + 1) * blockSize ≤ lastPosition)
    (progress : Progress verdict timing blocks plugin heard) :
    Progress verdict timing (blocks + 1) (runBlock enforcement plugin heard).1
      (runBlock enforcement plugin heard).2 := by
  obtain ⟨rfl, rfl, runCount, firstSilent, -⟩ := progress
  have finish : (blocks + 1) * blockSize = plugin.runCount.toNat + blockSize := by
    rw [Nat.succ_mul, runCount]
  rw [finish] at counted
  rw [← runCount] at firstSilent
  obtain ⟨left, right, outputs, onLeft, onRight⟩ :=
    stereo_carries enforcement plugin enforced counted
  obtain ⟨judged, timed, next⟩ := stereo_next enforcement plugin
  have ran : runBlock enforcement plugin heard =
      ((plugin.runBlock enforcement stereo).1, heard.listen plugin.runCount left right) := by
    have gated : (plugin.runBegin (UInt32.ofNat blockSize)).runSilence enforcement fullScale =
        ((plugin.runBlock enforcement stereo).1, [left, right]) := Prod.ext rfl outputs
    simp only [runBlock, gated]
  rw [ran]
  refine ⟨judged, timed, ?_, ?_, fun _ => ?_⟩
  · rw [next, finish, Nat.min_eq_left counted]
  · rw [finish]
    exact listen_first_silent _ _ heard plugin.runCount left right short counted firstSilent onLeft
      onRight
  · rw [Nat.add_sub_cancel, ← runCount]
    apply peak_exact _ _ left right onLeft onRight (gain_le_one _ _ _)
    intro index inside
    exact gain_antitone _ _ _ _ (Nat.le_add_right _ _) (by omega)

theorem progress_run (enforcement : Enforcement) (verdict : Verdict) (timing : GateTiming)
    (count blocks : Nat) (plugin : Instance) (heard : Heard)
    (enforced : enforcement = .off → verdict = .licensed) (short : timing.fade.toNat ≤ 2 ^ 24)
    (counted : (blocks + count) * blockSize ≤ lastPosition)
    (progress : Progress verdict timing blocks plugin heard) :
    Progress verdict timing (blocks + count) (runBlocks enforcement count plugin heard).1
      (runBlocks enforcement count plugin heard).2 := by
  induction count generalizing blocks plugin heard with
  | zero => exact progress
  | succ count ih =>
      have size : (blocks + 1) * blockSize ≤ (blocks + (count + 1)) * blockSize :=
        Nat.mul_le_mul_right _ (by omega)
      have next := progress_step enforcement verdict timing blocks plugin heard enforced short
        (Nat.le_trans size counted) progress
      have order : blocks + (count + 1) = blocks + 1 + count := by omega
      rw [order] at counted ⊢
      exact ih (blocks + 1) _ _ counted next

def verdictFor (enforcement : Enforcement) (licensed : Bool) : Verdict :=
  .ofBool (decide (enforcement = .off) || licensed)

theorem new_exact (enforcement : Enforcement) (licensed : Bool) (entitlements : List String)
    (timing : GateTiming) :
    Instance.new enforcement [Capability.licensing (Service.asking 0 fun _ => licensed)]
        (pluginUri :: entitlements) timing =
      Instance.ofVerdict (verdictFor enforcement licensed) timing := by
  cases enforcement with
  | off => rfl
  | on =>
      have found : CapabilityList.licensing
          [Capability.licensing (Service.asking 0 fun _ => licensed)] =
            some (Service.asking 0 fun _ => licensed) := by
        simp [CapabilityList.licensing, Capability.service, Capability.licensing]
      have answered : (pluginUri :: entitlements).any (fun _ => licensed) = licensed := by
        cases licensed <;> simp
      have evaluated : CapabilityList.evaluate
          [Capability.licensing (Service.asking 0 fun _ => licensed)]
            (pluginUri :: entitlements) = .ofBool licensed := by
        rw [CapabilityList.evaluate, CapabilityList.check_service _ _ found]
        exact congrArg Verdict.ofBool answered
      exact congrArg (Instance.ofVerdict · timing) evaluated

def secondSamples : Nat := blockCount * blockSize

def Summary.ofPolicy (verdict : Verdict) (timing : GateTiming) : Summary where
  licensed := verdict.isLicensed
  runCount := UInt32.ofNat secondSamples
  blocks := blockCount
  firstSilent := silentBefore verdict timing secondSamples
  peak := fullScaleGain verdict timing (secondSamples - blockSize)

/-- Entitlements are not in the summary: the host answers all of them alike. -/
theorem run_exact (enforcement : Enforcement) (licensed : Bool) (settings : Settings)
    (timing : GateTiming) (short : timing.fade.toNat ≤ 2 ^ 24)
    (resolved : settings.gate.timing GateTiming.defaultRate = .ok timing) :
    run enforcement licensed settings =
      .ok (Summary.ofPolicy (verdictFor enforcement licensed) timing) := by
  have enforced : enforcement = .off → verdictFor enforcement licensed = .licensed := by
    rintro rfl
    rfl
  have progress := progress_run enforcement _ timing blockCount 0 _ {} enforced short (by decide)
    (progress_initial (verdictFor enforcement licensed) timing)
  rw [Nat.zero_add] at progress
  have runCount := UInt32.toNat_inj.mp (progress.runCount.trans (by decide :
    blockCount * blockSize = (UInt32.ofNat secondSamples).toNat))
  simp only [run, resolved, Except.map, new_exact]
  rw [Instance.isLicensed, progress.judged, runCount, progress.firstSilent,
    progress.peak (by decide)]
  rfl

example : run .on false {} = .ok ⟨false, 47872, 187, some 479, .zero⟩ := by
  rw [run_exact .on false {} .standard (by decide) (by decide)]
  decide

theorem default_timing (gate : GateSettings)
    (grace : gate.graceMillis.toNat ≤ GateSettings.graceLimit)
    (fade : gate.fadeMillis.toNat ≤ GateSettings.fadeLimit) :
    ∃ timing, gate.timing GateTiming.defaultRate = .ok timing ∧
      timing.grace.toNat = 48 * gate.graceMillis.toNat ∧
      timing.fade.toNat = 48 * gate.fadeMillis.toNat ∧ timing.fade.toNat ≤ 2 ^ 24 := by
  have counted (millis : UInt32) (within : millis.toNat ≤ GateSettings.graceLimit) :
      (samplesIn millis GateTiming.defaultRate).toNat = 48 * millis.toNat := by
    simp only [GateSettings.graceLimit] at within
    rw [samples_in_default, toNat_saturate, lastPosition]
    omega
  have samples := counted gate.fadeMillis (Nat.le_trans fade (by decide))
  refine ⟨_, of_millis_usable _ _ GateTiming.defaultRate (by decide), counted _ grace, samples, ?_⟩
  rw [samples]
  simp only [GateSettings.fadeLimit] at fade
  omega

theorem settings_for_valid (arguments : Arguments) (files : Files) (settings : Settings)
    (loaded : settingsFor arguments files = .ok settings) : settings.validate = .ok () := by
  rw [settingsFor] at loaded
  split at loaded
  next =>
    cases loaded
    decide
  next path _ => exact Settings.of_file_valid files path settings loaded

theorem command_exact (enforcement : Enforcement) (words : List String) (files : Files) :
    command enforcement words files =
      match settingsFor (.ofList words) files with
      | .error error => ⟨1, "", "Error: " ++ error.report ++ "\n"⟩
      | .ok settings =>
          match run enforcement (Arguments.ofList words).licensed settings with
          | .ok summary => ⟨0, summary.text, ""⟩
          | .error error => ⟨1, "", "Error: " ++ error.report ++ "\n"⟩ := by
  rw [command]
  cases settingsFor (.ofList words) files <;> rfl

/-- The settings that a command line names: the last word other than the flag is their path. -/
def settingsNamed (words : List String) (files : Files) : Except Error Settings :=
  match (words.filter (· ≠ "--licensed")).getLast? with
  | none => .ok {}
  | some path => Settings.ofFile files path

theorem settings_named_exact (words : List String) (files : Files) :
    settingsFor (.ofList words) files = settingsNamed words files := by
  rw [settingsFor, (Arguments.of_list_exact words).2]
  rfl

theorem Summary.text_exact (summary : Summary) (counted : summary.runCount = 47872)
    (whole : summary.blocks = 187) :
    summary.text = String.intercalate "\n" [
      "\x7b",
      "  \"licensed\": " ++ toString summary.licensed ++ ",",
      "  \"run_count\": 47872,",
      "  \"blocks\": 187,",
      "  \"first_silent_sample\": " ++
        (summary.firstSilent.map UInt32.toNat).elim "null" toString ++ ",",
      "  \"peak_last_block\": " ++ summary.peak.decimal.adaptive (-5) 13,
      "\x7d\n"] := by
  have samples : "  \"run_count\": " ++ toString (47872 : UInt32).toNat ++ "," =
      "  \"run_count\": 47872," := by decide
  have blocks : "  \"blocks\": " ++ toString 187 ++ "," = "  \"blocks\": 187," := by decide
  rw [Summary.text, counted, whole, samples, blocks]
  cases summary.licensed <;> cases summary.firstSilent <;> rfl

/-- The command fails with nothing on its output when the settings that it names do not load. Else
it prints the summary of one second of the policy that they set, whatever entitlements they list;
the peak is printed so that it reads back. -/
theorem simulation_reports_policy (enforcement : Enforcement) (words : List String)
    (files : Files) :
    match settingsNamed words files with
    | .error error =>
        command enforcement words files = ⟨1, "", "Error: " ++ error.report ++ "\n"⟩
    | .ok settings =>
        ∃ (timing : GateTiming) (summary : Summary) (peak : String) (read : Decimal),
          settings.gate.timing GateTiming.defaultRate = .ok timing ∧
          command enforcement words files = ⟨0, String.intercalate "\n" [
            "\x7b",
            "  \"licensed\": " ++ toString summary.licensed ++ ",",
            "  \"run_count\": 47872,",
            "  \"blocks\": 187,",
            "  \"first_silent_sample\": " ++
              (summary.firstSilent.map UInt32.toNat).elim "null" toString ++ ",",
            "  \"peak_last_block\": " ++ peak,
            "\x7d\n"], ""⟩ ∧
          Yaml.decimal? peak.toList = some read ∧ summary.peak.Nearest read.value ∧
          (∀ other : Settings, other.gate = settings.gate →
            run enforcement (decide ("--licensed" ∈ words)) other = .ok summary) ∧
          summary.blocks = 187 ∧ summary.runCount = 47872 ∧
          (summary.licensed = true ↔ enforcement = .off ∨ "--licensed" ∈ words) ∧
          (summary.licensed = true →
            summary.firstSilent = none ∧ summary.peak = Sample.one ∧ peak = "1.0") ∧
          (summary.licensed = false →
            summary.firstSilent.map UInt32.toNat =
              (if 48 * settings.gate.graceMillis.toNat +
                  max (48 * settings.gate.fadeMillis.toNat) 1 - 1 < 47872 then
                some (48 * settings.gate.graceMillis.toNat +
                  max (48 * settings.gate.fadeMillis.toNat) 1 - 1)
              else none) ∧
            summary.peak = timing.gainAt 47616) := by
  rw [← settings_named_exact]
  have outcome := command_exact enforcement words files
  split
  next error failed =>
    rw [failed] at outcome
    exact outcome
  next settings loaded =>
    obtain ⟨-, -, grace, fade⟩ :=
      (Settings.validate_iff settings).mp (settings_for_valid _ _ _ loaded)
    obtain ⟨timing, resolved, graceSamples, fadeSamples, short⟩ :=
      default_timing settings.gate grace fade
    have ran (other : Settings) (same : other.gate = settings.gate) :=
      run_exact enforcement (decide ("--licensed" ∈ words)) other timing short
        (by rw [same]; exact resolved)
    rw [loaded, (Arguments.of_list_exact words).1] at outcome
    simp only [ran settings rfl] at outcome
    rw [Summary.text_exact _ rfl rfl] at outcome
    have licensed : (verdictFor enforcement (decide ("--licensed" ∈ words))).isLicensed = true ↔
        enforcement = .off ∨ "--licensed" ∈ words := by
      simp [verdictFor, Verdict.isLicensed_ofBool]
    generalize verdictFor enforcement (decide ("--licensed" ∈ words)) = verdict at *
    obtain ⟨-, positive⟩ := Sample.magnitude_positive _
      (gain_positive verdict timing (secondSamples - blockSize))
    obtain ⟨read, printed, nearest⟩ := Sample.adaptive_nearest _ positive (-5) 13
    refine ⟨timing, Summary.ofPolicy verdict timing, _, read, resolved, outcome, printed, nearest,
      ran, rfl, rfl, licensed, ?_, ?_⟩
    · cases verdict with
      | licensed =>
          have full : Sample.one.decimal.adaptive (-5) 13 = "1.0" := by decide +kernel
          exact fun _ => ⟨rfl, rfl, full⟩
      | unlicensed => exact fun licensed => absurd licensed nofun
    · cases verdict with
      | licensed => exact fun unlicensed => absurd unlicensed nofun
      | unlicensed =>
          have silent := silent_before_to_nat timing secondSamples (by decide)
          rw [silentPosition, graceSamples, fadeSamples] at silent
          exact fun _ => ⟨silent, rfl⟩

end Simulation

end LicenseGate
