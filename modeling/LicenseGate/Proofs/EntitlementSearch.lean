import LicenseGate.Entitlement
import LicenseGate.Proofs.Utf8

/-!
Searches for an entitlement that passes. One stops at its first success, so its calls are those of a
prefix of the list. A host that can be asked is asked about one entitlement in a pair of calls, and
says yes by any contents at all, well-formed text or not.
-/

namespace LicenseGate

open Text

theorem asked_until_exact (passes : α → Bool) (items : List α) :
    askedUntil passes items = items.take (items.findIdx passes + 1) := by
  induction items with
  | nil => rfl
  | cons item rest ih =>
      by_cases passed : passes item = true
      · simp [askedUntil, List.findIdx_cons, passed]
      · simp [askedUntil, List.findIdx_cons, passed, ih]

theorem Verdict.of_checks_licensed (passes : α → Bool) (items : List α) :
    (Verdict.ofChecks passes items).isLicensed = true ↔
      items = [] ∨ ∃ item ∈ items, passes item = true := by
  cases items with
  | nil => simp [Verdict.ofChecks, Verdict.isLicensed]
  | cons item rest => simp [Verdict.ofChecks, Verdict.isLicensed_ofBool]

namespace Host

/-- What may be asked of a license callback, and what counts as a license in answer: a URI without
a NUL, and a file with contents. -/
def grants (license : String → Option (List UInt8)) (entitlement : String) : Bool :=
  !entitlement.toList.contains '\x00' && (license entitlement).any fun bytes => !bytes.isEmpty

def queries (license : String → Option (List UInt8)) (entry : Nat) (entitlement : String) :
    List Call :=
  if '\x00' ∈ entitlement.toList then []
  else [.license entry entitlement, .free entry (license entitlement)]

theorem text_is_empty (bytes : List UInt8) :
    (String.ofList (Utf8.decodeLossy bytes)).isEmpty = bytes.isEmpty := by
  rw [Bool.eq_iff_iff, String.isEmpty, beq_iff_eq, String.utf8ByteSize_eq_zero_iff,
    String.ofList_eq_empty_iff, Utf8.decode_lossy_eq_nil_iff, List.isEmpty_iff]

theorem accepts_equipped (license : String → Option (List UInt8)) :
    (Host.mk (some license) true).accepts = grants license := by
  funext entitlement
  by_cases ended : '\x00' ∈ entitlement.toList
  · simp [accepts, licensee, handOut, grants, ended]
  · cases answer : license entitlement with
    | none => simp [accepts, licensee, handOut, grants, ended, answer]
    | some bytes =>
        simp [accepts, licensee, handOut, grants, ended, answer, text_is_empty]

theorem calls_equipped (license : String → Option (List UInt8)) (entry : Nat) :
    (Host.mk (some license) true).callsFor entry = queries license entry := by
  funext entitlement
  by_cases ended : '\x00' ∈ entitlement.toList <;> simp [callsFor, handOut, queries, ended]

theorem accepts_iff (host : Host) (entitlement : String) :
    host.accepts entitlement = true ↔
      ∃ license, host.license = some license ∧ host.canFree = true ∧
        '\x00' ∉ entitlement.toList ∧ ∃ bytes, license entitlement = some bytes ∧ bytes ≠ [] := by
  obtain ⟨license, canFree⟩ := host
  cases license with
  | none => simp [accepts, licensee, handOut]
  | some license =>
      cases canFree with
      | false => simp [accepts, licensee, handOut]
      | true => simp [accepts_equipped, grants, Option.any_eq_true]

end Host

end LicenseGate
