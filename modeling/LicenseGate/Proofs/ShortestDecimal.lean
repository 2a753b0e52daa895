import LicenseGate.Proofs.SampleValue

/-!
The decimal of a sample lies between the two points halfway to the samples next to it, so the
sample is the one nearest to its decimal. The search compares whole numbers over a common
denominator; `Rounds` says what it finds of the number that a decimal stands for.
-/

namespace LicenseGate

open Numeric

namespace Numeric

/-- Between two ends, and on one of them only if they belong to what is between. -/
def Enclosed {α : Type} [LE α] [LT α] (closed : Prop) (low high point : α) : Prop :=
  low ≤ point ∧ point ≤ high ∧ (closed ∨ low < point ∧ point < high)

theorem enclosed_cast (closed : Prop) (low high point : Nat) :
    Enclosed closed (low : ℚ) high point ↔ Enclosed closed low high point := by
  simp only [Enclosed, Nat.cast_le, Nat.cast_lt]

theorem enclosed_scaled (closed : Prop) (low high point factor : ℚ) (positive : 0 < factor) :
    Enclosed closed (low * factor) (high * factor) (point * factor) ↔
      Enclosed closed low high point := by
  simp only [Enclosed, mul_le_mul_iff_of_pos_right positive, mul_lt_mul_iff_of_pos_right positive]

def Decimal.value (number : Decimal) : ℚ := number.digits * 10 ^ number.exponent

namespace Interval

variable (interval : Interval)

def Rounds (number : ℚ) : Prop :=
  Enclosed (interval.closed = true) (interval.low : ℚ) interval.high
    (number * interval.denominator)

theorem contains_iff (point : Nat) :
    interval.contains point = true ↔
      Enclosed (interval.closed = true) interval.low interval.high point := by
  rw [contains, Enclosed]
  cases interval.closed with
  | false =>
      simp only [Bool.false_eq_true, ↓reduceIte, Bool.and_eq_true, decide_eq_true_eq, false_or]
      omega
  | true => simp

def scale (factor : Nat) : Interval :=
  { interval with
    low := interval.low * factor
    middle := interval.middle * factor
    high := interval.high * factor }

theorem scale_contains (factor : Nat) (positive : 0 < factor)
    (inside : interval.contains interval.middle = true) :
    (interval.scale factor).contains (interval.scale factor).middle = true := by
  rw [contains_iff, Enclosed] at inside ⊢
  simpa only [scale, Nat.mul_le_mul_right_iff positive, Nat.mul_lt_mul_right positive] using inside

theorem multiple_contained (step digits : Nat)
    (found : interval.nearestMultiple step = some digits) :
    interval.contains (digits * step) = true := by
  rw [nearestMultiple] at found
  split at found
  next below above =>
    split at found <;> cases found
    · exact below
    · exact above
  next below _ =>
    cases found
    exact below
  next _ above =>
    cases found
    exact above
  next => cases found

theorem multiple_found (step : Nat) (divides : step ∣ interval.middle)
    (inside : interval.contains interval.middle = true) :
    (interval.nearestMultiple step).isSome = true := by
  have exact : interval.middle / step * step = interval.middle := Nat.div_mul_cancel divides
  simp only [nearestMultiple, exact, inside]
  split
  next => split <;> rfl
  next => rfl
  next outside _ => exact absurd outside nofun
  next outside _ => exact absurd outside nofun

theorem on_grid_rounds (power : Int) (digits : Nat)
    (found : interval.onGrid power = some digits) : interval.Rounds (digits * 10 ^ power) := by
  cases power with
  | ofNat up =>
      have within := (contains_iff _ _).mp (multiple_contained _ _ _ found)
      have point : (digits : ℚ) * 10 ^ Int.ofNat up * interval.denominator =
          ((digits * (interval.denominator * Nat.pow 10 up) : Nat) : ℚ) := by
        rw [Int.ofNat_eq_natCast, zpow_natCast, Nat.pow_eq]
        push_cast
        ring
      rw [Rounds, point]
      exact (enclosed_cast _ _ _ _).mpr within
  | negSucc down =>
      have within := (contains_iff _ _).mp (multiple_contained _ _ _ found)
      have positive : (0 : ℚ) < 10 ^ (down + 1) := by positivity
      have point : (digits : ℚ) * 10 ^ Int.negSucc down * interval.denominator * 10 ^ (down + 1) =
          ((digits * interval.denominator : Nat) : ℚ) := by
        rw [zpow_negSucc]
        push_cast
        field_simp
      rw [Rounds, ← enclosed_scaled _ _ _ _ _ positive, point]
      exact_mod_cast (enclosed_cast _ _ _ _).mpr within

theorem shortest_from_found (attempts skipped : Nat) (power : Int) (reached : skipped < attempts)
    (found : (interval.onGrid (power - skipped)).isSome = true) :
    ∃ digits finer, interval.shortestFrom attempts power = ⟨digits, finer⟩ ∧
      interval.onGrid finer = some digits := by
  induction attempts generalizing skipped power with
  | zero => exact absurd reached (Nat.not_lt_zero _)
  | succ attempts ih =>
      rw [shortestFrom]
      cases here : interval.onGrid power with
      | some digits => exact ⟨digits, power, rfl, here⟩
      | none =>
          cases skipped with
          | zero =>
              rw [Int.ofNat_zero, Int.sub_zero, here] at found
              cases found
          | succ skipped =>
              have next : power - ((skipped + 1 : Nat) : Int) = power - 1 - (skipped : Int) := by
                omega
              rw [next] at found
              exact ih skipped (power - 1) (by omega) found

section Around

variable (mantissa : Nat) (exponent : Int) (narrow : Bool)

def lowEnd : Nat := if narrow then 4 * mantissa - 1 else 4 * mantissa - 2

theorem around_scaled :
    (around mantissa exponent narrow).low = (lowEnd mantissa narrow : ℚ) * 2 ^ (exponent - 2) *
        (around mantissa exponent narrow).denominator ∧
      (around mantissa exponent narrow).high = ((4 * mantissa + 2 : Nat) : ℚ) * 2 ^ (exponent - 2) *
        (around mantissa exponent narrow).denominator ∧
      0 < (around mantissa exponent narrow).denominator ∧
      (around mantissa exponent narrow).closed = (mantissa % 2 == 0) := by
  simp only [around, lowEnd]
  cases exponent - 2 with
  | ofNat shift =>
      dsimp only
      refine ⟨?_, ?_, Nat.one_pos, rfl⟩ <;>
        rw [Nat.shiftLeft_eq, Int.ofNat_eq_natCast, zpow_natCast] <;> push_cast <;> ring
  | negSucc shift =>
      have unit : (2 : ℚ) ^ Int.negSucc shift * ((1 <<< (shift + 1) : Nat) : ℚ) = 1 := by
        rw [Nat.shiftLeft_eq, Nat.one_mul, zpow_negSucc]
        push_cast
        exact inv_mul_cancel₀ (by positivity)
      dsimp only
      rw [mul_assoc, mul_assoc, unit, mul_one, mul_one]
      refine ⟨rfl, rfl, ?_, rfl⟩
      rw [Nat.shiftLeft_eq, Nat.one_mul]
      exact Nat.two_pow_pos _

theorem around_rounds_iff (number : ℚ) :
    (around mantissa exponent narrow).Rounds number ↔
      Enclosed (mantissa % 2 = 0) ((lowEnd mantissa narrow : ℚ) * 2 ^ (exponent - 2))
        (((4 * mantissa + 2 : Nat) : ℚ) * 2 ^ (exponent - 2)) number := by
  obtain ⟨low, high, present, closed⟩ := around_scaled mantissa exponent narrow
  have positive : (0 : ℚ) < (around mantissa exponent narrow).denominator := by
    exact_mod_cast present
  rw [Rounds, low, high, closed, beq_iff_eq, enclosed_scaled _ _ _ _ _ positive]

theorem around_inside (present : 0 < mantissa) :
    (around mantissa exponent narrow).contains (around mantissa exponent narrow).middle = true := by
  have below : lowEnd mantissa narrow < 4 * mantissa := by
    cases narrow <;> simp only [lowEnd, Bool.false_eq_true, ↓reduceIte] <;> omega
  rw [lowEnd] at below
  rw [contains_iff, Enclosed, around]
  cases exponent - 2 with
  | ofNat shift =>
      have left := Nat.mul_lt_mul_of_pos_right below (Nat.two_pow_pos shift)
      have right := Nat.mul_lt_mul_of_pos_right (by omega : 4 * mantissa < 4 * mantissa + 2)
        (Nat.two_pow_pos shift)
      simp only [Nat.shiftLeft_eq]
      omega
  | negSucc shift =>
      dsimp only
      omega

theorem around_divides (down : Nat) (reached : -(down : Int) ≤ exponent) :
    (around mantissa exponent narrow).denominator ∣
      (around mantissa exponent narrow).middle * 10 ^ down := by
  have twos : 2 ^ (down + 2) ∣ 4 * mantissa * 10 ^ down := by
    refine ⟨mantissa * 5 ^ down, ?_⟩
    rw [Nat.pow_add, (by rfl : 10 = 2 * 5), Nat.mul_pow]
    ring
  rw [around]
  cases scale : exponent - 2 with
  | ofNat shift => exact Nat.one_dvd _
  | negSucc shift =>
      dsimp only
      rw [Nat.shiftLeft_eq, Nat.one_mul]
      exact Nat.dvd_trans (Nat.pow_dvd_pow 2 (by omega)) twos

theorem around_on_grid (down : Nat) (reached : -(down : Int) ≤ exponent)
    (present : 0 < mantissa) :
    ((around mantissa exponent narrow).onGrid (-(down : Int))).isSome = true := by
  have inside := around_inside mantissa exponent narrow present
  have divides := around_divides mantissa exponent narrow down reached
  cases down with
  | zero =>
      apply multiple_found
      · simpa using divides
      · exact inside
  | succ down =>
      apply multiple_found
      · exact divides
      · exact scale_contains _ _ (Nat.pow_pos (by decide)) inside

end Around

end Interval

theorem Decimal.shortest_rounds (mantissa : Nat) (exponent : Int) (narrow : Bool)
    (present : 0 < mantissa) (reached : -339 ≤ exponent) :
    (Interval.around mantissa exponent narrow).Rounds
      (Decimal.shortest mantissa exponent narrow).value := by
  obtain ⟨down, deep, low⟩ : ∃ down : Nat, -(down : Int) ≤ exponent ∧ down < 340 :=
    ⟨(-exponent).toNat, by omega, by omega⟩
  have found := Interval.around_on_grid mantissa exponent narrow down deep present
  rw [shortest]
  generalize (Nat.toDigits 10 _).length = places
  have power : -(down : Int) = (places : Int) - ((places + down : Nat) : Int) := by omega
  rw [power] at found
  obtain ⟨digits, finer, same, here⟩ :=
    Interval.shortest_from_found _ (places + 340) (places + down) places (by omega) found
  rw [same]
  exact Interval.on_grid_rounds _ finer digits here

end Numeric

namespace Sample

def mantissa (magnitude : Nat) : Nat :=
  if magnitude / fractionSize = 0 then magnitude else fractionSize + magnitude % fractionSize

theorem steps_exact (magnitude : Nat) :
    steps magnitude = mantissa magnitude * 2 ^ (magnitude / fractionSize - 1) := by
  rw [steps, mantissa]
  split
  next small => rw [small, Nat.zero_sub, Nat.pow_zero, Nat.mul_one]
  next => rfl

theorem mantissa_small (magnitude : Nat) (small : magnitude / fractionSize = 0) :
    mantissa magnitude = magnitude := if_pos small

theorem mantissa_large (magnitude : Nat) (large : magnitude / fractionSize ≠ 0) :
    mantissa magnitude = fractionSize + magnitude % fractionSize := if_neg large

theorem steps_next (magnitude : Nat) :
    steps (magnitude + 1) = steps magnitude + 2 ^ (magnitude / fractionSize - 1) := by
  have parts := Nat.div_add_mod magnitude fractionSize
  rw [steps_exact magnitude, steps_exact (magnitude + 1), ← Nat.succ_mul]
  by_cases last : magnitude % fractionSize + 1 = fractionSize
  -- The fraction runs over: the exponent goes up by one, and the fraction begins anew.
  · have field : (magnitude + 1) / fractionSize = magnitude / fractionSize + 1 := by
      simp only [fractionSize] at last ⊢
      omega
    have fraction : (magnitude + 1) % fractionSize = 0 := by
      simp only [fractionSize] at last ⊢
      omega
    have large : (magnitude + 1) / fractionSize ≠ 0 := field ▸ Nat.succ_ne_zero _
    rw [mantissa_large (magnitude + 1) large, field, fraction, Nat.add_sub_cancel, Nat.add_zero]
    by_cases small : magnitude / fractionSize = 0
    · rw [small, Nat.mul_zero, Nat.zero_add] at parts
      rw [parts] at last
      rw [mantissa_small magnitude small, small, Nat.succ_eq_add_one, last]
    · obtain ⟨exponent, same⟩ := Nat.exists_eq_succ_of_ne_zero small
      have whole : (fractionSize + magnitude % fractionSize).succ = 2 * fractionSize := by omega
      rw [mantissa_large magnitude small, same, Nat.succ_sub_one, Nat.pow_succ, whole]
      ring
  · have field : (magnitude + 1) / fractionSize = magnitude / fractionSize := by
      simp only [fractionSize] at last ⊢
      omega
    have fraction : (magnitude + 1) % fractionSize = magnitude % fractionSize + 1 := by
      simp only [fractionSize] at last ⊢
      omega
    rw [field]
    by_cases small : magnitude / fractionSize = 0
    · rw [mantissa_small magnitude small, mantissa_small (magnitude + 1) (field.trans small)]
    · rw [mantissa_large magnitude small, mantissa_large (magnitude + 1) (field ▸ small), fraction]
      rfl

theorem mantissa_parity (magnitude : Nat) : mantissa magnitude % 2 = magnitude % 2 := by
  by_cases small : magnitude / fractionSize = 0
  · rw [mantissa_small magnitude small]
  · rw [mantissa_large magnitude small]
    simp only [fractionSize]
    omega

theorem mantissa_positive (magnitude : Nat) (present : 0 < magnitude) : 0 < mantissa magnitude := by
  by_cases small : magnitude / fractionSize = 0
  · rwa [mantissa_small magnitude small]
  · rw [mantissa_large magnitude small]
    exact Nat.add_pos_left (by decide) _

def isNarrow (magnitude : Nat) : Bool :=
  magnitude % fractionSize == 0 && magnitude / fractionSize > 1

theorem decimal_shortest (sample : Sample) (present : 0 < sample.magnitude) :
    sample.decimal = Decimal.shortest (mantissa sample.magnitude)
      ((sample.magnitude / fractionSize - 1 : Nat) - 149) (isNarrow sample.magnitude) := by
  rw [decimal, if_neg (Nat.ne_of_gt present), isNarrow]
  split
  next small =>
    have whole : sample.magnitude % fractionSize = sample.magnitude :=
      Nat.mod_eq_of_lt (by rwa [Nat.div_eq_zero_iff_lt (by decide)] at small)
    rw [mantissa_small _ small, whole, small]
    simp
  next large =>
    obtain ⟨field, same⟩ := Nat.exists_eq_succ_of_ne_zero large
    have exponent : ((field.succ : Nat) : Int) - 150 = (field : Int) - 149 := by omega
    rw [mantissa_large _ large, same, exponent, Nat.succ_sub_one]

/-- Below a power of two the step is half of that above it, and so is what is cut off. -/
theorem step_before (magnitude : Nat) :
    (if isNarrow (magnitude + 1) then 1 else 2) * 2 ^ ((magnitude + 1) / fractionSize - 1) =
      2 * 2 ^ (magnitude / fractionSize - 1) := by
  split
  next narrow =>
    simp only [isNarrow, Bool.and_eq_true, beq_iff_eq, decide_eq_true_eq] at narrow
    obtain ⟨fraction, large⟩ := narrow
    obtain ⟨field, same⟩ : ∃ field, (magnitude + 1) / fractionSize = field + 2 :=
      ⟨_, (Nat.sub_add_cancel large).symm⟩
    have before : magnitude / fractionSize = field + 1 := by
      simp only [fractionSize] at fraction same ⊢
      omega
    rw [same, before, Nat.one_mul]
    exact Nat.pow_succ'
  next wide =>
    simp only [isNarrow, Bool.and_eq_true, beq_iff_eq, decide_eq_true_eq] at wide
    have same : (magnitude + 1) / fractionSize - 1 = magnitude / fractionSize - 1 := by
      simp only [fractionSize] at wide ⊢
      omega
    rw [same]

/-- The ends of the interval around a sample are halfway to the samples next to it. -/
theorem ends_halfway (magnitude : Nat) (present : 0 < magnitude) :
    Interval.lowEnd (mantissa magnitude) (isNarrow magnitude) *
        2 ^ (magnitude / fractionSize - 1) = 2 * (steps (magnitude - 1) + steps magnitude) ∧
      (4 * mantissa magnitude + 2) * 2 ^ (magnitude / fractionSize - 1) =
        2 * (steps magnitude + steps (magnitude + 1)) := by
  constructor
  · obtain ⟨before, rfl⟩ := Nat.exists_eq_succ_of_ne_zero (Nat.ne_of_gt present)
    have filled := mantissa_positive (before + 1) present
    have cut : Interval.lowEnd (mantissa (before + 1)) (isNarrow (before + 1)) +
        (if isNarrow (before + 1) then 1 else 2) = 4 * mantissa (before + 1) := by
      rw [Interval.lowEnd]
      split <;> omega
    have whole := congrArg (· * 2 ^ ((before + 1) / fractionSize - 1)) cut
    simp only [Nat.add_mul, step_before, Nat.mul_assoc, ← steps_exact] at whole
    have next := steps_next before
    rw [Nat.succ_eq_add_one, Nat.add_sub_cancel]
    omega
  · rw [steps_next, steps_exact]
    ring

/-- No sample is nearer to the number, and none as near unless this is the even one of the two. -/
def Nearest (sample : Sample) (number : ℚ) : Prop :=
  ∀ other : Sample, other.value ≠ sample.value →
    |sample.value - number| ≤ |other.value - number| ∧
      (|sample.value - number| = |other.value - number| → sample.magnitude % 2 = 0)

theorem decimal_halfway (sample : Sample) (present : 0 < sample.magnitude) :
    Enclosed (sample.magnitude % 2 = 0)
      ((steps (sample.magnitude - 1) : ℚ) / 2 ^ 149 + steps sample.magnitude / 2 ^ 149)
      ((steps sample.magnitude : ℚ) / 2 ^ 149 + steps (sample.magnitude + 1) / 2 ^ 149)
      (sample.decimal.value * 2) := by
  have rounds := Decimal.shortest_rounds (mantissa sample.magnitude)
    ((sample.magnitude / fractionSize - 1 : Nat) - 149) (isNarrow sample.magnitude)
    (mantissa_positive _ present) (by omega)
  have scaled (quarters first second : Nat)
      (same : quarters * 2 ^ (sample.magnitude / fractionSize - 1) = 2 * (first + second)) :
      (quarters : ℚ) * 2 ^ (((sample.magnitude / fractionSize - 1 : Nat) : Int) - 149 - 2) * 2 =
        (first : ℚ) / 2 ^ 149 + second / 2 ^ 149 := by
    have cast : (quarters : ℚ) * 2 ^ (sample.magnitude / fractionSize - 1) =
        2 * (first + second) := by exact_mod_cast same
    have split : ((sample.magnitude / fractionSize - 1 : Nat) : Int) - 149 - 2 =
        ((sample.magnitude / fractionSize - 1 : Nat) : Int) - (151 : Nat) := by omega
    rw [split, zpow_sub₀ (by norm_num), zpow_natCast, zpow_natCast, ← mul_div_assoc, cast]
    ring
  obtain ⟨low, high⟩ := ends_halfway sample.magnitude present
  rwa [← decimal_shortest sample present, Interval.around_rounds_iff,
    ← enclosed_scaled _ _ _ _ 2 (by norm_num), scaled _ _ _ low, scaled _ _ _ high,
    mantissa_parity] at rounds

theorem value_positive (sample : Sample) (positive : sample.isNegative = false) :
    sample.value = steps sample.magnitude / 2 ^ 149 := by
  rw [value, positive, if_neg Bool.false_ne_true, one_mul]

theorem value_apart (sample other : Sample) (positive : sample.isNegative = false)
    (apart : other.value ≠ sample.value) :
    other.value ≤ steps (sample.magnitude - 1) / 2 ^ 149 ∨
      (steps (sample.magnitude + 1) : ℚ) / 2 ^ 149 ≤ other.value := by
  cases sign : other.isNegative with
  | true =>
      left
      have size : (0 : ℚ) ≤ steps other.magnitude / 2 ^ 149 := by positivity
      have before : (0 : ℚ) ≤ steps (sample.magnitude - 1) / 2 ^ 149 := by positivity
      rw [value, sign, if_pos rfl]
      linarith
  | false =>
      rw [value_positive sample positive, value_positive other sign] at apart
      rw [value_positive other sign, div_le_div_iff_of_pos_right (by positivity),
        div_le_div_iff_of_pos_right (by positivity), Nat.cast_le, Nat.cast_le, steps_le_iff,
        steps_le_iff]
      have differ : other.magnitude ≠ sample.magnitude := by
        intro same
        rw [same] at apart
        exact apart rfl
      omega

theorem nearest_halfway (even : Prop) (center number before after other : ℚ)
    (halfway : Enclosed even (before + center) (center + after) (number * 2))
    (order : before < center ∧ center < after) (apart : other ≤ before ∨ after ≤ other) :
    |center - number| ≤ |other - number| ∧ (|center - number| = |other - number| → even) := by
  obtain ⟨low, high, inside⟩ := halfway
  obtain ⟨left, right⟩ := order
  -- On which side the two stand decides what the distances are; then all is linear.
  rcases abs_cases (center - number) with ⟨near, _⟩ | ⟨near, _⟩ <;>
    rcases abs_cases (other - number) with ⟨far, _⟩ | ⟨far, _⟩ <;>
    rcases apart with below | above <;>
    rw [near, far] <;>
    refine ⟨by linarith, fun same => inside.resolve_right fun strictly => ?_⟩ <;>
    linarith [strictly.1, strictly.2]

/-- A sample reads back from its decimal. -/
theorem decimal_nearest (sample : Sample) (positive : sample.isNegative = false) :
    sample.Nearest sample.decimal.value := by
  intro other apart
  rcases Nat.eq_zero_or_pos sample.magnitude with silent | present
  · have number : sample.decimal.value = 0 := by
      rw [decimal, if_pos silent, Decimal.value, Nat.cast_zero, zero_mul]
    have nothing : sample.value = 0 := by
      rw [value_positive sample positive, silent, steps_small 0 rfl, Nat.cast_zero, zero_div]
    rw [number, nothing, sub_zero, sub_zero, abs_zero]
    exact ⟨abs_nonneg _, fun _ => by rw [silent]⟩
  · have order (first second : Nat) (below : first < second) :
        (steps first : ℚ) / 2 ^ 149 < steps second / 2 ^ 149 := by
      rw [div_lt_div_iff_of_pos_right (by positivity), Nat.cast_lt]
      exact steps_strict_mono below
    have halfway := decimal_halfway sample present
    have before := order (sample.magnitude - 1) sample.magnitude (by omega)
    have after := order sample.magnitude (sample.magnitude + 1) (Nat.lt_succ_self _)
    rw [← value_positive sample positive] at halfway before after
    exact nearest_halfway _ _ _ _ _ _ halfway ⟨before, after⟩
      (value_apart sample other positive apart)

end Sample

end LicenseGate
