/-!
Sample positions and run counters. Both are 32-bit words that stop at their largest value, so an
instance that has run for a long time never looks freshly started.
-/

namespace LicenseGate

def lastPosition : Nat := 4294967295

/-- A count as a word; counts past the last position stay there. -/
def saturate (count : Nat) : UInt32 := UInt32.ofNat (min count lastPosition)

theorem toNat_saturate (count : Nat) : (saturate count).toNat = min count lastPosition := by
  have bound : min count lastPosition < 4294967296 :=
    Nat.lt_of_le_of_lt (Nat.min_le_right _ _) (by decide)
  simp only [saturate, UInt32.toNat_ofNat']
  exact Nat.mod_eq_of_lt bound

theorem to_nat_of_counted (position : Nat) (counted : position ≤ lastPosition) :
    (UInt32.ofNat position).toNat = position := by
  have word := toNat_saturate position
  rwa [saturate, Nat.min_eq_left counted] at word

theorem word_counted (word : UInt32) : word.toNat ≤ lastPosition := Nat.le_of_lt_succ word.toNat_lt

theorem saturate_toNat (word : UInt32) : saturate word.toNat = word := by
  rw [saturate, Nat.min_eq_left (word_counted word), UInt32.ofNat_toNat]

theorem saturate_add (count more : Nat) :
    saturate ((saturate count).toNat + more) = saturate (count + more) := by
  apply UInt32.toNat_inj.mp
  simp only [toNat_saturate]
  omega

theorem saturate_mono (count more : Nat) (below : count ≤ more) :
    saturate count ≤ saturate more := by
  rw [UInt32.le_iff_toNat_le, toNat_saturate, toNat_saturate]
  omega

namespace Counter

def advance (counter samples : UInt32) : UInt32 := saturate (counter.toNat + samples.toNat)

def isSaturated (counter : UInt32) : Bool := counter.toNat == lastPosition

def after (counter : UInt32) : List UInt32 → List UInt32
  | [] => []
  | samples :: rest => advance counter samples :: after (advance counter samples) rest

theorem toNat_advance (counter samples : UInt32) :
    (advance counter samples).toNat = min (counter.toNat + samples.toNat) lastPosition :=
  toNat_saturate _

end Counter

end LicenseGate
