import LicenseGate.Proofs.EntitlementSearch

/-!
Queries of a host, callback by callback. A host may keep what state it likes and answer differently
each time; it hands out files at addresses and expects each of them back. What is known of a host
that answers always alike holds of any host at the moment it is asked.
-/

namespace LicenseGate

open Text

/-- A host as its two callbacks show it, with what stands at an address in each of its states. -/
structure Desk (State : Type) where
  license : Option (String → State → Nat × State)
  free : Option (Nat → State → State)
  contents : State → Nat → List UInt8

inductive Event where
  | lent (uri : String) (address : Nat)
  | returned (address : Nat)
  deriving DecidableEq, Repr

namespace Event

/-- The addresses that are out after some events, or `none` if one came back that was not out. -/
def settle : List Nat → List Event → Option (List Nat)
  | out, [] => some out
  | out, .lent _ address :: rest => settle (address :: out) rest
  | out, .returned address :: rest =>
      if address ∈ out then settle (out.erase address) rest else none

def call (entry : Nat) (file : Option (List UInt8)) : Event → Call
  | .lent uri _ => .license entry uri
  | .returned _ => .free entry file

theorem settle_append (out : List Nat) (before after : List Event) :
    settle out (before ++ after) = (settle out before).bind fun left => settle left after := by
  induction before generalizing out with
  | nil => rfl
  | cons event rest ih =>
      cases event with
      | lent uri address => rw [List.cons_append, settle, settle, ih]
      | returned address =>
          rw [List.cons_append, settle, settle, ih]
          split <;> rfl

theorem settle_pair (out : List Nat) (uri : String) (address : Nat) :
    settle out [.lent uri address, .returned address] = some out := by
  simp [settle]

end Event

def fileText (bytes : List UInt8) : String := String.ofList (Utf8.decodeLossy bytes)

theorem file_text_append (text : String) (rest : List UInt8) :
    fileText (Utf8.encode text.toList ++ rest) = text ++ fileText rest := by
  rw [fileText, Utf8.decode_lossy_encode, String.ofList_append, String.ofList_toList]
  rfl

theorem file_text_encode (text : String) : fileText (Utf8.encode text.toList) = text := by
  have whole := file_text_append text []
  rw [List.append_nil] at whole
  rw [whole]
  exact String.append_empty

inductive Inquiry where
  | licensee (uri : String)
  | check (uri : String)

inductive Answer where
  | text (text : Option String)
  | passed (passed : Bool)
  deriving DecidableEq, Repr

namespace Inquiry

def uri : Inquiry → String
  | licensee uri | check uri => uri

def answer (file : Option (List UInt8)) : Inquiry → Answer
  | licensee _ => .text (file.map fileText)
  | check _ => .passed (file.any fun bytes => !bytes.isEmpty)

end Inquiry

namespace Desk

variable {State : Type}

def file (desk : Desk State) (state : State) (address : Nat) : Option (List UInt8) :=
  if address = 0 then none else some (desk.contents state address)

def licensee (desk : Desk State) (uri : String) (state : State) : Option String × State :=
  match desk.license, desk.free with
  | some license, some free =>
      if '\x00' ∈ uri.toList then (none, state)
      else
        let (address, lent) := license uri state
        ((desk.file lent address).map fileText, free address lent)
  | _, _ => (none, state)

def check (desk : Desk State) (uri : String) (state : State) : Bool × State :=
  let (text, next) := desk.licensee uri state
  (text.any fun text => !text.isEmpty, next)

def serve (desk : Desk State) (state : State) : Inquiry → Answer × State
  | .licensee uri =>
      let (text, next) := desk.licensee uri state
      (.text text, next)
  | .check uri =>
      let (passed, next) := desk.check uri state
      (.passed passed, next)

def serveAll (desk : Desk State) (state : State) : List Inquiry → List Answer × State
  | [] => ([], state)
  | inquiry :: rest =>
      let (answer, next) := desk.serve state inquiry
      let (answers, last) := desk.serveAll next rest
      (answer :: answers, last)

/-- The same host, which also writes down each call as it comes in. -/
def recorded (desk : Desk State) : Desk (State × List Event) where
  license := desk.license.map fun license uri (state, log) =>
    let (address, lent) := license uri state
    (address, lent, log ++ [.lent uri address])
  free := desk.free.map fun free address (state, log) =>
    (free address state, log ++ [.returned address])
  contents := fun (state, _) => desk.contents state

def view (desk : Desk State) (state : State) : Host :=
  ⟨desk.license.map fun license uri => desk.file (license uri state).2 (license uri state).1,
    desk.free.isSome⟩

def Silent (desk : Desk State) (uri : String) : Prop :=
  desk.license = none ∨ desk.free = none ∨ '\x00' ∈ uri.toList

/-- What one query comes to: the file found, the calls made for it and the state after. Where
nothing is handed out the address is zero, and goes back all the same. -/
inductive Exchange (desk : Desk State) (uri : String) (state : State) :
    Option (List UInt8) → List Event → State → Prop where
  | silent : desk.Silent uri → Exchange desk uri state none [] state
  | absent {license : String → State → Nat × State} {free : Nat → State → State} {lent : State} :
      desk.license = some license → desk.free = some free → '\x00' ∉ uri.toList →
      license uri state = (0, lent) →
      Exchange desk uri state none [.lent uri 0, .returned 0] (free 0 lent)
  | found {license : String → State → Nat × State} {free : Nat → State → State} {address : Nat}
      {lent : State} : desk.license = some license → desk.free = some free →
      '\x00' ∉ uri.toList → license uri state = (address, lent) → address ≠ 0 →
      Exchange desk uri state (some (desk.contents lent address))
        [.lent uri address, .returned address] (free address lent)

/-- A sequence of queries, each of which finds the host as the one before has left it. -/
inductive History (desk : Desk State) :
    State → List Inquiry → List Answer → List Event → State → Prop where
  | done {state : State} : History desk state [] [] [] state
  | next {state middle last : State} {inquiry : Inquiry} {rest : List Inquiry}
      {file : Option (List UInt8)} {answers : List Answer} {events later : List Event} :
      Exchange desk inquiry.uri state file events middle →
      History desk middle rest answers later last →
      History desk state (inquiry :: rest) (inquiry.answer file :: answers) (events ++ later) last

theorem licensee_exchange (desk : Desk State) (uri : String) (state : State) (log : List Event) :
    ∃ file events next, Exchange desk uri state file events next ∧
      desk.licensee uri state = (file.map fileText, next) ∧
      desk.recorded.licensee uri (state, log) = (file.map fileText, next, log ++ events) := by
  cases asks : desk.license with
  | none => exact ⟨none, [], state, .silent (Or.inl asks), by simp [licensee, recorded, asks]⟩
  | some license =>
      cases frees : desk.free with
      | none =>
          exact ⟨none, [], state, .silent (Or.inr (Or.inl frees)),
            by simp [licensee, recorded, asks, frees]⟩
      | some free =>
          by_cases ended : '\x00' ∈ uri.toList
          · exact ⟨none, [], state, .silent (Or.inr (Or.inr ended)),
              by simp [licensee, recorded, asks, frees, ended]⟩
          · obtain ⟨address, lent, lends⟩ : ∃ address lent, license uri state = (address, lent) :=
              ⟨_, _, rfl⟩
            rcases Nat.eq_zero_or_pos address with rfl | positive
            · exact ⟨_, _, _, .absent asks frees ended lends,
                by simp [licensee, recorded, file, asks, frees, ended, lends]⟩
            · have present := Nat.ne_of_gt positive
              exact ⟨_, _, _, .found asks frees ended lends present,
                by simp [licensee, recorded, file, asks, frees, ended, lends, present]⟩

theorem serve_exchange (desk : Desk State) (inquiry : Inquiry) (state : State)
    (log : List Event) :
    ∃ file events next, Exchange desk inquiry.uri state file events next ∧
      desk.serve state inquiry = (inquiry.answer file, next) ∧
      desk.recorded.serve (state, log) inquiry = (inquiry.answer file, next, log ++ events) := by
  obtain ⟨file, events, next, exchange, plain, written⟩ :=
    desk.licensee_exchange inquiry.uri state log
  refine ⟨file, events, next, exchange, ?_⟩
  cases inquiry with
  | licensee uri =>
      simp only [Inquiry.uri] at plain written
      simp only [serve, plain, written, Inquiry.answer, and_self]
  | check uri =>
      simp only [Inquiry.uri] at plain written
      simp only [serve, check, plain, written, Inquiry.answer, Option.any_map,
        fileText, Host.text_is_empty, and_self]

theorem serve_all_history (desk : Desk State) (inquiries : List Inquiry) (state : State)
    (log : List Event) :
    ∃ answers events last, History desk state inquiries answers events last ∧
      desk.serveAll state inquiries = (answers, last) ∧
      desk.recorded.serveAll (state, log) inquiries = (answers, last, log ++ events) := by
  induction inquiries generalizing state log with
  | nil => exact ⟨[], [], state, .done, rfl, by rw [serveAll, List.append_nil]⟩
  | cons inquiry rest ih =>
      obtain ⟨file, events, middle, exchange, plain, written⟩ :=
        desk.serve_exchange inquiry state log
      obtain ⟨answers, later, last, history, tail, tailWritten⟩ := ih middle (log ++ events)
      refine ⟨_, _, last, .next exchange history, ?_, ?_⟩
      · simp only [serveAll, plain, tail]
      · simp only [serveAll, written, tailWritten, List.append_assoc]

theorem silent_hand_out (desk : Desk State) (uri : String) (state : State)
    (silent : desk.Silent uri) : (desk.view state).handOut uri = none := by
  rcases silent with unasked | unfreed | ended
  · simp [Host.handOut, view, unasked]
  · simp [Host.handOut, view, unfreed]
  · simp only [Host.handOut]
    split <;> simp [ended]

namespace Exchange

variable {desk : Desk State} {uri : String} {state next : State} {file : Option (List UInt8)}
  {events : List Event}

theorem settled (exchange : Exchange desk uri state file events next) (out : List Nat) :
    Event.settle out events = some out := by
  cases exchange with
  | silent => rfl
  | absent | found => exact Event.settle_pair out uri _

theorem asked {license : String → State → Nat × State} {free : Nat → State → State}
    (asks : desk.license = some license) (frees : desk.free = some free)
    (whole : '\x00' ∉ uri.toList) : ¬ desk.Silent uri := by
  rintro (unasked | unfreed | ended)
  · exact absurd (asks.symm.trans unasked) (Option.some_ne_none _)
  · exact absurd (frees.symm.trans unfreed) (Option.some_ne_none _)
  · exact absurd ended whole

theorem events_nil_iff (exchange : Exchange desk uri state file events next) :
    events = [] ↔ desk.Silent uri := by
  cases exchange with
  | silent silent => exact ⟨fun _ => silent, fun _ => rfl⟩
  | absent asks frees whole => exact ⟨nofun, fun silent => absurd silent (asked asks frees whole)⟩
  | found asks frees whole => exact ⟨nofun, fun silent => absurd silent (asked asks frees whole)⟩

theorem view_hand_out {license : String → State → Nat × State} {free : Nat → State → State}
    {address : Nat} {lent : State} (asks : desk.license = some license)
    (frees : desk.free = some free) (whole : '\x00' ∉ uri.toList)
    (lends : license uri state = (address, lent)) :
    (desk.view state).handOut uri = some (desk.file lent address) := by
  simp [Host.handOut, view, asks, frees, whole, lends]

theorem view_exact (exchange : Exchange desk uri state file events next) :
    (desk.view state).licensee uri = file.map fileText ∧
      ((desk.view state).accepts uri = true ↔ ∃ bytes, file = some bytes ∧ bytes ≠ []) ∧
      ∀ entry, (desk.view state).callsFor entry uri = events.map (Event.call entry file) := by
  cases exchange with
  | silent silent =>
      have refused := desk.silent_hand_out uri state silent
      simp [Host.licensee, Host.accepts, Host.callsFor, refused]
  | absent asks frees whole lends =>
      have handed := view_hand_out asks frees whole lends
      rw [file, if_pos rfl] at handed
      simp [Host.licensee, Host.accepts, Host.callsFor, handed, Event.call]
  | found asks frees whole lends present =>
      have handed := view_hand_out asks frees whole lends
      rw [file, if_neg present] at handed
      simp [Host.licensee, Host.accepts, Host.callsFor, handed, Event.call, fileText,
        Host.text_is_empty]

end Exchange

theorem History.settled {desk : Desk State} {state last : State} {inquiries : List Inquiry}
    {answers : List Answer} {events : List Event}
    (history : History desk state inquiries answers events last) (out : List Nat) :
    Event.settle out events = some out := by
  induction history with
  | done => rfl
  | next exchange _ ih => rw [Event.settle_append, exchange.settled, Option.bind_some, ih]

/-- Every call of a host for a file is followed by the one that gives it back, so nothing is out
when a query ends; and what is answered is read from the file while it is out. -/
theorem files_are_returned (desk : Desk State) :
    (∀ (state : State) (log : List Event) (inquiries : List Inquiry),
      ∃ answers events last, History desk state inquiries answers events last ∧
        desk.serveAll state inquiries = (answers, last) ∧
        desk.recorded.serveAll (state, log) inquiries = (answers, last, log ++ events) ∧
        ∀ out, Event.settle out events = some out) ∧
    (∀ uri state file events next, Exchange desk uri state file events next →
      (events = [] ↔ desk.Silent uri) ∧
      (desk.view state).licensee uri = file.map fileText ∧
      ((desk.view state).accepts uri = true ↔ ∃ bytes, file = some bytes ∧ bytes ≠ []) ∧
      ∀ entry, (desk.view state).callsFor entry uri = events.map (Event.call entry file)) ∧
    (∀ (text : String) (rest : List UInt8),
      fileText (Utf8.encode text.toList ++ rest) = text ++ fileText rest) ∧
    (∀ text : String, fileText (Utf8.encode text.toList) = text) := by
  refine ⟨?_, ?_, file_text_append, file_text_encode⟩
  · intro state log inquiries
    obtain ⟨answers, events, last, history, plain, written⟩ :=
      desk.serve_all_history inquiries state log
    exact ⟨answers, events, last, history, plain, written, history.settled⟩
  · intro uri state file events next exchange
    exact ⟨exchange.events_nil_iff, exchange.view_exact⟩

-- A host that has one file to hand out, and then none.
example : (recorded ⟨some fun _ left => (left, left - 1), some fun _ left => left,
      fun _ _ => [0xff]⟩).serveAll (1, []) [.check "a", .licensee "a", .check "\x00"] =
    ([.passed true, .text none, .passed false],
      0, [.lent "a" 1, .returned 1, .lent "a" 0, .returned 0]) := by decide

end Desk

end LicenseGate
