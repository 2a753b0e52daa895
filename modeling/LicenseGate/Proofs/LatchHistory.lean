import LicenseGate.Proofs.LatchSession
import LicenseGate.Proofs.LicenseDecision

/-!
The latch over any sequence of calls. Callers are not told apart, so whatever they do to each other
is an order of calls: the replies so far say where the latch stands, and of them only the answer to
the most recent check.
-/

namespace LicenseGate

open Text

namespace Latch

def Request.isCheck : Request → Bool
  | .check _ _ => true
  | .runBegin _ _ | .runSilence _ _ _ _ | .runNoise _ _ _ _ | .interface _ | .version | .read =>
      false

def Reply.answer? : Reply → Option Bool
  | .checked passed _ => some passed
  | .counted _ | .gated _ | .found _ | .version _ | .nothing => none

def after (enforcement : Enforcement) (latch : Latch) (requests : List Request) : Latch :=
  requests.foldl (fun latch request => (latch.serve enforcement request).1) latch

def replies (enforcement : Enforcement) (latch : Latch) (requests : List Request) : List Reply :=
  (latch.serveAll enforcement requests).map Prod.snd

def latestAnswer (replies : List Reply) : Option Bool :=
  (replies.filterMap Reply.answer?).getLast?

/-- The latch of a process in which checks have been answered so far. -/
def ofLatest : Option Bool → Latch
  | none => .unchecked
  | some passed => ofBool passed

theorem latest_answer_cons (reply : Reply) (rest : List Reply) :
    latestAnswer (reply :: rest) = (latestAnswer rest).or reply.answer? := by
  cases answer : reply.answer? with
  | none => simp [latestAnswer, answer]
  | some passed =>
      cases last : (rest.filterMap Reply.answer?).getLast? <;>
        simp [latestAnswer, List.getLast?_cons, answer, last]

theorem serve_other (enforcement : Enforcement) (latch : Latch) (request : Request)
    (other : request.isCheck = false) :
    (latch.serve enforcement request).1 = latch ∧
      (latch.serve enforcement request).2.answer? = none := by
  cases request with
  | check features uri => exact absurd other nofun
  | runBegin runCount samples => exact ⟨rfl, rfl⟩
  | runSilence runCount buffer samples channel => exact ⟨rfl, rfl⟩
  | runNoise runCount buffer samples channel => exact ⟨rfl, rfl⟩
  | interface uri => exact ⟨rfl, rfl⟩
  | version => exact ⟨rfl, rfl⟩
  | read => exact ⟨rfl, rfl⟩

theorem serve_check (enforcement : Enforcement) (latch : Latch) (request : Request)
    (check : request.isCheck = true) :
    ∃ passed, (latch.serve enforcement request).1 = ofBool passed ∧
      (latch.serve enforcement request).2.answer? = some passed := by
  cases request with
  | check features uri => exact ⟨(checkOutcome enforcement features uri).1, rfl, rfl⟩
  | _ => exact absurd check nofun

theorem serve_latest (enforcement : Enforcement) (latch : Latch) (request : Request) :
    (latch.serve enforcement request).1 =
      ((latch.serve enforcement request).2.answer?.map ofBool).getD latch := by
  cases kind : request.isCheck with
  | false =>
      obtain ⟨kept, silent⟩ := serve_other enforcement latch request kind
      rw [kept, silent]
      rfl
  | true =>
      obtain ⟨passed, moved, answered⟩ := serve_check enforcement latch request kind
      rw [moved, answered]
      rfl

theorem after_latest (enforcement : Enforcement) (latch : Latch) (requests : List Request) :
    latch.after enforcement requests =
      ((latestAnswer (latch.replies enforcement requests)).map ofBool).getD latch := by
  induction requests generalizing latch with
  | nil => rfl
  | cons request rest ih =>
      have next := serve_latest enforcement latch request
      have tail := ih (latch.serve enforcement request).1
      simp only [replies] at tail
      simp only [after, List.foldl_cons, replies, serveAll, List.map_cons,
        latest_answer_cons] at tail ⊢
      rw [tail]
      -- A later answer hides this one; without one the latch stands where this request left it.
      cases latestAnswer
          (((latch.serve enforcement request).1.serveAll enforcement rest).map Prod.snd) with
      | none => exact next
      | some passed => rfl

theorem latest_answer_none (enforcement : Enforcement) (latch : Latch) (requests : List Request) :
    latestAnswer (latch.replies enforcement requests) = none ↔
      ∀ request ∈ requests, request.isCheck = false := by
  induction requests generalizing latch with
  | nil => exact ⟨fun _ _ member => absurd member List.not_mem_nil, fun _ => rfl⟩
  | cons request rest ih =>
      have tail := ih (latch.serve enforcement request).1
      simp only [replies, serveAll, List.map_cons, latest_answer_cons, Option.or_eq_none_iff,
        List.forall_mem_cons] at tail ⊢
      rw [tail, And.comm]
      apply and_congr_left
      intro _
      cases kind : request.isCheck with
      | false => exact ⟨fun _ => rfl, fun _ => (serve_other enforcement latch request kind).2⟩
      | true =>
          obtain ⟨passed, -, answered⟩ := serve_check enforcement latch request kind
          rw [answered]
          exact ⟨nofun, nofun⟩

theorem serve_all_length (enforcement : Enforcement) (latch : Latch) (requests : List Request) :
    (latch.serveAll enforcement requests).length = requests.length := by
  induction requests generalizing latch with
  | nil => rfl
  | cons request rest ih => simp [serveAll, ih]

theorem serve_all_append (enforcement : Enforcement) (latch : Latch)
    (before rest : List Request) :
    latch.serveAll enforcement (before ++ rest) =
      latch.serveAll enforcement before ++
        (latch.after enforcement before).serveAll enforcement rest := by
  induction before generalizing latch with
  | nil => rfl
  | cons request before ih =>
      simp only [List.cons_append, serveAll, ih]
      rfl

theorem after_checks (enforcement : Enforcement) (latch : Latch) (requests : List Request) :
    latch.after enforcement requests =
      latch.after enforcement (requests.filter Request.isCheck) := by
  induction requests generalizing latch with
  | nil => rfl
  | cons request rest ih =>
      cases kind : request.isCheck with
      | false =>
          have kept := (serve_other enforcement latch request kind).1
          have tail := ih latch
          rw [List.filter_cons_of_neg (by simp [kind]), ← tail]
          simp only [after, List.foldl_cons, kept]
      | true =>
          rw [List.filter_cons_of_pos kind]
          exact ih (latch.serve enforcement request).1

theorem after_append (enforcement : Enforcement) (latch : Latch) (before rest : List Request) :
    latch.after enforcement (before ++ rest) =
      (latch.after enforcement before).after enforcement rest := List.foldl_append

theorem of_latest_unchecked (latest : Option Bool) :
    ofLatest latest = .unchecked ↔ latest = none := by
  cases latest with
  | none => exact ⟨fun _ => rfl, fun _ => rfl⟩
  | some passed => cases passed <;> exact ⟨nofun, nofun⟩

theorem check_outcome_unreadable (features : Option (List (Option RawFeature)))
    (uri : Option (List UInt8))
    (unreadable : ∀ text : String, uri ≠ some (Utf8.encode text.toList)) :
    checkOutcome .on features uri = (false, []) := by
  cases uri with
  | none => rfl
  | some bytes =>
      rcases Utf8.decode_cases bytes with ⟨text, rfl⟩ | unread
      · exact absurd rfl (unreadable text)
      · simp [checkOutcome, unread]

theorem check_passed_iff (features : Option (List (Option RawFeature)))
    (uri : Option (List UInt8)) :
    (checkOutcome .on features uri).1 = true ↔
      ∃ text : String, uri = some (Utf8.encode text.toList) ∧
        (licensingHost? features = none ∨
          ∃ place host, licensingHost? features = some (place, host) ∧
            host.accepts text = true) := by
  have walked := CapabilityList.of_array_licensing features
  by_cases readable : ∃ text : String, uri = some (Utf8.encode text.toList)
  · obtain ⟨text, rfl⟩ := readable
    have outcome := congrArg Prod.fst (uri_outcome_on features text)
    rw [uriOutcome] at outcome
    rw [outcome]
    cases found : licensingHost? features with
    | none =>
        rw [found, Option.map_none] at walked
        rw [CapabilityList.check_absent _ walked]
        exact ⟨fun _ => ⟨text, rfl, Or.inl rfl⟩, fun _ => rfl⟩
    | some reached =>
        obtain ⟨place, host⟩ := reached
        rw [found, Option.map_some] at walked
        rw [CapabilityList.check_service _ _ walked]
        constructor
        · intro granted
          exact ⟨text, rfl, Or.inr ⟨place, host, rfl, granted⟩⟩
        · rintro ⟨other, written, absent | ⟨_, _, held, granted⟩⟩
          · exact absurd absent (Option.some_ne_none _)
          · cases held
            obtain rfl := (Utf8.encode_text_iff text other).mp (Option.some.inj written)
            exact granted
  · have failed := check_outcome_unreadable features uri fun text written =>
      readable ⟨text, written⟩
    rw [failed]
    refine ⟨fun granted => absurd granted Bool.false_ne_true, ?_⟩
    rintro ⟨text, written, -⟩
    exact absurd ⟨text, written⟩ readable

/-- A plugin instance as its creation shows it to the latch: what its host passes, and the URIs
that it asks about. -/
structure Arrival where
  features : Option (List (Option RawFeature))
  uris : List (Option (List UInt8))
  asks : uris ≠ []

namespace Arrival

def passes (enforcement : Enforcement) (arrival : Arrival) (uri : Option (List UInt8)) : Bool :=
  (checkOutcome enforcement arrival.features uri).1

def checks (enforcement : Enforcement) (arrival : Arrival) : List Request :=
  (askedUntil (arrival.passes enforcement) arrival.uris).map (Request.check arrival.features)

theorem after_asked (enforcement : Enforcement) (latch : Latch) (arrival : Arrival)
    (uris : List (Option (List UInt8))) (asks : uris ≠ []) :
    latch.after enforcement ((askedUntil (arrival.passes enforcement) uris).map
        (Request.check arrival.features)) =
      ofBool (uris.any (arrival.passes enforcement)) := by
  induction uris generalizing latch with
  | nil => exact absurd rfl asks
  | cons uri rest ih =>
      have moved : (latch.serve enforcement (.check arrival.features uri)).1 =
          ofBool (arrival.passes enforcement uri) := rfl
      cases passed : arrival.passes enforcement uri with
      | true =>
          rw [passed] at moved
          simp [askedUntil, after, passed, moved]
      | false =>
          rw [passed] at moved
          cases rest with
          | nil => simp [askedUntil, after, passed, moved]
          | cons next rest =>
              have tail := ih (ofBool false) (List.cons_ne_nil next rest)
              simp only [after] at tail
              rw [askedUntil, if_neg (Bool.eq_false_iff.mp passed), List.any_cons, passed,
                Bool.false_or, ← tail, List.map_cons, after, List.foldl_cons, moved]

end Arrival

theorem after_arrivals (enforcement : Enforcement) (latch : Latch) (earlier : List Arrival)
    (last : Arrival) :
    latch.after enforcement ((earlier ++ [last]).flatMap (Arrival.checks enforcement)) =
      ofBool (last.uris.any (last.passes enforcement)) := by
  rw [List.flatMap_append, after_append, List.flatMap_singleton, Arrival.checks]
  exact last.after_asked enforcement _ last.uris last.asks

theorem serve_gating (enforcement : Enforcement) (latch : Latch) (runCount samples channel : UInt32)
    (buffer : Option Buffer) (request : Request)
    (gating : request = .runSilence runCount buffer samples channel ∨
      request = .runNoise runCount buffer samples channel) :
    (latch.serve enforcement request).2 = .gated (buffer.map fun buffer =>
      if latch = .unlicensed then
        (GateTiming.standard.silence runCount (buffer.take samples.toNat)).2 ++
          buffer.drop samples.toNat
      else buffer) := by
  have gated : (latch.serve enforcement request).2 =
      .gated (buffer.map (latch.runSilence runCount samples)) := by
    rcases gating with rfl | rfl <;> rfl
  rw [gated]
  congr 2
  funext buffer
  by_cases muted : latch = .unlicensed
  · rw [muted]
    rfl
  · rw [silence_open latch runCount samples buffer muted, if_neg muted]

end Latch

/-- Where the latch stands after any calls, what a check answers, and what it then means for a
buffer. A plugin that comes after others decides alone, whatever calls fall between its checks. -/
theorem latch_trace_law (enforcement : Enforcement) (requests : List Latch.Request) :
    (Latch.unchecked.after enforcement requests =
        .ofLatest (Latch.latestAnswer (Latch.unchecked.replies enforcement requests)) ∧
      (Latch.unchecked.after enforcement requests = .unchecked ↔
        ∀ request ∈ requests, request.isCheck = false) ∧
      ∀ request rest,
        (Latch.unchecked.serveAll enforcement (requests ++ request :: rest))[requests.length]? =
            some ((Latch.unchecked.after enforcement requests).serve enforcement request) ∧
          (request.isCheck = false →
            Latch.unchecked.after enforcement (requests ++ [request]) =
              Latch.unchecked.after enforcement requests)) ∧
    (∀ (latch : Latch) (features : Option (List (Option RawFeature))) (uri : Option (List UInt8)),
      ∃ passed calls,
        latch.serve .on (.check features uri) = (Latch.ofBool passed, .checked passed calls) ∧
          (passed = true ↔ ∃ text : String, uri = some (Utf8.encode text.toList) ∧
            (licensingHost? features = none ∨
              ∃ place host, licensingHost? features = some (place, host) ∧
                host.accepts text = true)) ∧
          ((∀ text : String, uri ≠ some (Utf8.encode text.toList)) →
            passed = false ∧ calls = [])) ∧
    (∀ (latch : Latch) (runCount samples channel : UInt32) (buffer : Option Buffer),
      ∀ request ∈ [Latch.Request.runSilence runCount buffer samples channel,
          .runNoise runCount buffer samples channel],
        (latch.serve enforcement request).2 = .gated (buffer.map fun buffer =>
          if latch = .unlicensed then
            (GateTiming.standard.silence runCount (buffer.take samples.toNat)).2 ++
              buffer.drop samples.toNat
          else buffer)) ∧
    (∀ (earlier : List Latch.Arrival) (last : Latch.Arrival),
      requests.filter Latch.Request.isCheck =
          (earlier ++ [last]).flatMap (Latch.Arrival.checks enforcement) →
        Latch.unchecked.after enforcement requests =
          .ofBool (last.uris.any (last.passes enforcement))) := by
  have latest := Latch.unchecked.after_latest enforcement requests
  have stands : Latch.unchecked.after enforcement requests =
      .ofLatest (Latch.latestAnswer (Latch.unchecked.replies enforcement requests)) := by
    rw [latest]
    cases Latch.latestAnswer (Latch.unchecked.replies enforcement requests) <;> rfl
  refine ⟨⟨stands, ?_, ?_⟩, ?_, ?_, ?_⟩
  · rw [stands, Latch.of_latest_unchecked, Latch.latest_answer_none]
  · intro request rest
    constructor
    · rw [Latch.serve_all_append,
        List.getElem?_append_right (by simp [Latch.serve_all_length])]
      simp [Latch.serve_all_length, Latch.serveAll]
    · intro other
      rw [Latch.after_append]
      exact (Latch.serve_other enforcement _ request other).1
  · intro latch features uri
    refine ⟨(Latch.checkOutcome .on features uri).1, (Latch.checkOutcome .on features uri).2, rfl,
      Latch.check_passed_iff features uri, ?_⟩
    intro unreadable
    rw [Latch.check_outcome_unreadable features uri unreadable]
    exact ⟨rfl, rfl⟩
  · intro latch runCount samples channel buffer request gating
    apply Latch.serve_gating enforcement latch runCount samples channel buffer request
    rcases List.mem_cons.mp gating with silence | noise
    · exact Or.inl silence
    · exact Or.inr (List.mem_singleton.mp noise)
  · intro earlier last made
    rw [Latch.after_checks, made, Latch.after_arrivals]

namespace Latch.Arrival

/-- Licensed by its second URI; it never asks about the third. -/
def ofCollection : Arrival :=
  ⟨some [some ⟨some (Utf8.encode licenseFeature.toList),
      .host 1 (.ofFiles [("c", some [0x31])])⟩, none],
    [some [0x61], some [0x63], none], nofun⟩

def unreadable : Arrival := ⟨none, [some [0xff], none], nofun⟩

end Latch.Arrival

/-- A licensed plugin does not keep audible the one after it, though calls fall between all checks
and the second host licenses everything. -/
theorem latch_trace_law_later_fails :
    ([.check Latch.Arrival.ofCollection.features (some [0x61]), .read,
        .check Latch.Arrival.ofCollection.features (some [0x63]), .runBegin 0 64,
        .check none (some [0xff]), .version,
        .check none none] : List Latch.Request).filter Latch.Request.isCheck =
      ([Latch.Arrival.ofCollection] ++ [Latch.Arrival.unreadable]).flatMap
        (Latch.Arrival.checks .on) ∧
    Latch.unchecked.after .on
        [.check Latch.Arrival.ofCollection.features (some [0x61]), .read,
          .check Latch.Arrival.ofCollection.features (some [0x63]), .runBegin 0 64,
          .check none (some [0xff]), .version, .check none none] = .unlicensed :=
  ⟨rfl, (latch_trace_law .on _).2.2.2 [Latch.Arrival.ofCollection] Latch.Arrival.unreadable rfl⟩

end LicenseGate
