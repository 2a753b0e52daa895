import LicenseGate.Numeric.Round
import Mathlib

/-!
Rounding to the nearest whole number and to a number of bits, as an order sees it. A whole number,
or a number of few bits, that lies above a quotient still lies above the quotient rounded, so bounds
survive each rounded step of a computation.
-/

namespace LicenseGate.Numeric

theorem nearest_le (numerator denominator bound : Nat) (positive : 0 < denominator)
    (below : numerator ≤ bound * denominator) : nearest numerator denominator ≤ bound := by
  have parts := Nat.div_add_mod numerator denominator
  have whole : numerator / denominator ≤ bound := Nat.div_le_of_le_mul (by rwa [Nat.mul_comm])
  simp only [nearest]
  split
  next => exact whole
  next up =>
    -- Rounding up leaves a remainder, so the bound is not the whole part.
    rcases Nat.lt_or_eq_of_le whole with less | same
    · exact less
    · rw [same, Nat.mul_comm] at parts
      omega

theorem log2_le (value size : Nat) (below : value ≤ 2 ^ size) : value.log2 ≤ size := by
  rcases Nat.eq_zero_or_pos value with zero | positive
  · simp [zero]
  · exact (Nat.pow_le_pow_iff_right (by decide : 1 < 2)).mp
      (Nat.le_trans (Nat.log2_self_le (Nat.ne_of_gt positive)) below)

theorem log2_lt_of_lt (value size : Nat) (positive : 0 < size) (below : value < 2 ^ size) :
    value.log2 < size := by
  rcases Nat.eq_zero_or_pos value with zero | present
  · rwa [zero, Nat.log2_zero]
  · exact (Nat.log2_lt (Nat.ne_of_gt present)).mpr below

/-- A number of few enough bits that lies above a quotient lies above the quotient rounded. -/
theorem significant_le (precision numerator denominator few size : Nat) (bits : 0 < precision)
    (positive : 0 < denominator) (fits : few < 2 ^ precision)
    (below : numerator ≤ few * 2 ^ size * denominator) :
    significant precision numerator denominator ≤ few * 2 ^ size := by
  have quotient : numerator / denominator < 2 ^ (precision + size) := by
    rw [Nat.pow_add]
    exact Nat.lt_of_le_of_lt (Nat.div_le_of_le_mul (by rwa [Nat.mul_comm]))
      (Nat.mul_lt_mul_of_pos_right fits (Nat.pow_pos (by decide)))
  have width := log2_lt_of_lt (numerator / denominator) (precision + size) (by omega) quotient
  have dropped : excess precision (numerator / denominator) ≤ size := by
    simp only [excess]
    omega
  -- The bound is a whole number of the units that the quotient is rounded to.
  have whole : few * 2 ^ size = few * 2 ^ (size - excess precision (numerator / denominator)) *
      2 ^ excess precision (numerator / denominator) := by
    rw [Nat.mul_assoc, ← Nat.pow_add, Nat.sub_add_cancel dropped]
  simp only [significant, Nat.shiftLeft_eq]
  rw [whole] at below ⊢
  apply Nat.mul_le_mul_right
  apply nearest_le _ _ _ (Nat.mul_pos positive (Nat.pow_pos (by decide)))
  rwa [Nat.mul_comm denominator, ← Nat.mul_assoc]

theorem le_nearest (numerator denominator bound : Nat) (positive : 0 < denominator)
    (above : bound * denominator ≤ numerator) : bound ≤ nearest numerator denominator := by
  have whole : bound ≤ numerator / denominator := (Nat.le_div_iff_mul_le positive).mpr above
  simp only [nearest]
  split
  next => exact whole
  next => exact Nat.le_succ_of_le whole

theorem lt_two_pow_excess (precision value : Nat) :
    value < 2 ^ (precision + excess precision value) := by
  refine Nat.lt_of_lt_of_le Nat.lt_log2_self (Nat.pow_le_pow_right (by decide) ?_)
  simp only [excess]
  omega

theorem two_pow_excess_le (precision value : Nat) (bits : 0 < precision)
    (wide : 0 < excess precision value) :
    2 ^ (precision + excess precision value - 1) ≤ value := by
  simp only [excess] at wide ⊢
  have present : value ≠ 0 := by
    rintro rfl
    rw [Nat.log2_zero] at wide
    omega
  refine Nat.le_trans (Nat.pow_le_pow_right (by decide) ?_) (Nat.log2_self_le present)
  omega

theorem le_significant (precision numerator denominator few size : Nat) (bits : 0 < precision)
    (positive : 0 < denominator) (fits : few < 2 ^ precision)
    (above : few * 2 ^ size * denominator ≤ numerator) :
    few * 2 ^ size ≤ significant precision numerator denominator := by
  simp only [significant, Nat.shiftLeft_eq]
  have least := two_pow_excess_le precision (numerator / denominator) bits
  generalize excess precision (numerator / denominator) = shift at least ⊢
  have room : 0 < denominator * 2 ^ shift := Nat.mul_pos positive (Nat.pow_pos (by decide))
  rcases Nat.lt_or_ge size shift with fine | coarse
  -- The quotient has too many bits for the number to be near it.
  · have quotient : 2 ^ (precision - 1) * 2 ^ shift ≤ numerator / denominator := by
      rw [← Nat.pow_add]
      have exponent : precision - 1 + shift = precision + shift - 1 := by omega
      rw [exponent]
      exact least (by omega)
    have rounded : 2 ^ (precision - 1) ≤ nearest numerator (denominator * 2 ^ shift) := by
      apply le_nearest _ _ _ room
      rw [Nat.mul_comm denominator, ← Nat.mul_assoc]
      exact (Nat.le_div_iff_mul_le positive).mp quotient
    calc few * 2 ^ size
        ≤ 2 ^ precision * 2 ^ size := Nat.mul_le_mul_right _ (Nat.le_of_lt fits)
      _ = 2 ^ (precision + size) := (Nat.pow_add 2 precision size).symm
      _ ≤ 2 ^ (precision - 1 + shift) := Nat.pow_le_pow_right (by decide) (by omega)
      _ = 2 ^ (precision - 1) * 2 ^ shift := Nat.pow_add 2 (precision - 1) shift
      _ ≤ nearest numerator (denominator * 2 ^ shift) * 2 ^ shift :=
          Nat.mul_le_mul_right _ rounded
  -- The number is a whole number of the units that the quotient is rounded to.
  · have whole : few * 2 ^ size = few * 2 ^ (size - shift) * 2 ^ shift := by
      rw [Nat.mul_assoc, ← Nat.pow_add, Nat.sub_add_cancel coarse]
    rw [whole] at above ⊢
    apply Nat.mul_le_mul_right
    apply le_nearest _ _ _ room
    rwa [Nat.mul_comm denominator, ← Nat.mul_assoc]

theorem significant_exact (precision numerator denominator few size : Nat) (bits : 0 < precision)
    (positive : 0 < denominator) (fits : few < 2 ^ precision)
    (same : numerator = few * 2 ^ size * denominator) :
    significant precision numerator denominator = few * 2 ^ size :=
  Nat.le_antisymm
    (significant_le precision numerator denominator few size bits positive fits (Nat.le_of_eq same))
    (le_significant precision numerator denominator few size bits positive fits
      (Nat.le_of_eq same.symm))

structure Within (slack exact rounded : Nat) : Prop where
  above : exact ≤ rounded + slack
  below : rounded ≤ exact + slack

theorem nearest_within (numerator denominator : Nat) (positive : 0 < denominator) :
    Within denominator (2 * numerator) (2 * (nearest numerator denominator * denominator)) := by
  have parts := Nat.div_add_mod numerator denominator
  rw [Nat.mul_comm] at parts
  simp only [nearest]
  split
  next down => exact ⟨by omega, by omega⟩
  next up =>
    have small := Nat.mod_lt numerator positive
    rw [Nat.add_mul, Nat.one_mul]
    exact ⟨by omega, by omega⟩

/-- Rounding to a number of bits moves a quotient by half a unit of its last bit at most. -/
theorem significant_within (precision numerator denominator size : Nat) (bits : 0 < precision)
    (positive : 0 < denominator) (below : numerator < 2 ^ (precision + size) * denominator) :
    Within (2 ^ size * denominator) (2 * numerator)
      (2 * (significant precision numerator denominator * denominator)) := by
  have quotient : numerator / denominator < 2 ^ (precision + size) :=
    (Nat.div_lt_iff_lt_mul positive).mpr below
  have width := log2_lt_of_lt (numerator / denominator) (precision + size) (by omega) quotient
  have dropped : excess precision (numerator / denominator) ≤ size := by
    simp only [excess]
    omega
  simp only [significant, Nat.shiftLeft_eq]
  generalize excess precision (numerator / denominator) = shift at dropped ⊢
  have unit : 2 ^ shift * denominator ≤ 2 ^ size * denominator :=
    Nat.mul_le_mul_right _ (Nat.pow_le_pow_right (by decide) dropped)
  have rounded := nearest_within numerator (denominator * 2 ^ shift)
    (Nat.mul_pos positive (Nat.pow_pos (by decide)))
  rw [Nat.mul_assoc, Nat.mul_comm (2 ^ shift)]
  rw [Nat.mul_comm _ denominator] at unit
  exact ⟨Nat.le_trans rounded.above (Nat.add_le_add_left unit _),
    Nat.le_trans rounded.below (Nat.add_le_add_left unit _)⟩

theorem dvd_significant (precision numerator denominator size : Nat) (bits : 0 < precision)
    (filled : 2 ^ (precision - 1 + size) ≤ numerator / denominator) :
    2 ^ size ∣ significant precision numerator denominator := by
  have present : numerator / denominator ≠ 0 :=
    Nat.ne_of_gt (Nat.lt_of_lt_of_le (Nat.pow_pos (by decide)) filled)
  have width : precision - 1 + size ≤ (numerator / denominator).log2 :=
    (Nat.le_log2 present).mpr filled
  have dropped : size ≤ excess precision (numerator / denominator) := by
    simp only [excess]
    omega
  rw [significant, Nat.shiftLeft_eq]
  exact Dvd.dvd.mul_left (Nat.pow_dvd_pow 2 dropped) _

theorem significant_bits (precision numerator denominator : Nat) (positive : 0 < denominator) :
    ∃ few size, few ≤ 2 ^ precision ∧
      significant precision numerator denominator = few * 2 ^ size := by
  refine ⟨_, excess precision (numerator / denominator), ?_, Nat.shiftLeft_eq _ _⟩
  have quotient := lt_two_pow_excess precision (numerator / denominator)
  rw [Nat.div_lt_iff_lt_mul positive] at quotient
  rw [Nat.shiftLeft_eq]
  apply nearest_le _ _ _ (Nat.mul_pos positive (Nat.pow_pos (by decide)))
  rw [Nat.mul_comm denominator, ← Nat.mul_assoc, ← Nat.pow_add]
  exact Nat.le_of_lt quotient

theorem significant_fine (precision numerator denominator : Nat) (bits : 0 < precision)
    (positive : 0 < denominator) :
    2 ^ ((significant precision numerator denominator).log2 - (precision - 1)) ∣
      significant precision numerator denominator := by
  obtain ⟨few, size, fits, same⟩ := significant_bits precision numerator denominator positive
  rw [same]
  rcases Nat.lt_or_eq_of_le fits with small | full
  · apply Dvd.dvd.mul_left (Nat.pow_dvd_pow 2 _)
    have wide : few * 2 ^ size < 2 ^ (precision + size) := by
      rw [Nat.pow_add]
      exact Nat.mul_lt_mul_of_pos_right small (Nat.pow_pos (by decide))
    have log := log2_lt_of_lt _ _ (by omega) wide
    omega
  · rw [full, ← Nat.pow_add, Nat.log2_two_pow]
    exact Nat.pow_dvd_pow 2 (Nat.sub_le _ _)

theorem significant_short (precision value : Nat) (bits : 0 < precision)
    (short : value ≤ 2 ^ precision) : significant precision value 1 = value := by
  rcases Nat.lt_or_eq_of_le short with few | full
  · have kept := significant_exact precision value 1 value 0 bits Nat.one_pos few (by simp)
    simpa using kept
  · have one : 1 < 2 ^ precision := Nat.one_lt_two_pow (Nat.ne_of_gt bits)
    have kept := significant_exact precision value 1 1 precision bits Nat.one_pos one (by simpa)
    rw [kept, Nat.one_mul, full]

theorem quotient_le_quotient (less lessOver more moreOver : Nat) (lessPositive : 0 < lessOver)
    (morePositive : 0 < moreOver) (below : less * moreOver ≤ more * lessOver) :
    less / lessOver ≤ more / moreOver := by
  rw [Nat.le_div_iff_mul_le morePositive]
  apply Nat.le_of_mul_le_mul_right _ lessPositive
  calc less / lessOver * moreOver * lessOver
      = lessOver * (less / lessOver) * moreOver := by ring
    _ ≤ less * moreOver := Nat.mul_le_mul_right _ (Nat.mul_div_le less lessOver)
    _ ≤ more * lessOver := below

/-- What is rounded down with one remainder is rounded down with a smaller one, compared over a
common denominator. -/
theorem rounds_down_of_le (less lessOver more moreOver : Nat) (even : Prop)
    (lessPositive : 0 < lessOver) (morePositive : 0 < moreOver)
    (below : less * moreOver ≤ more * lessOver)
    (down : 2 * more < moreOver ∨ (2 * more = moreOver ∧ even)) :
    2 * less < lessOver ∨ (2 * less = lessOver ∧ even) := by
  have doubled : 2 * less * moreOver ≤ 2 * more * lessOver := by
    rw [Nat.mul_assoc, Nat.mul_assoc]
    exact Nat.mul_le_mul_left 2 below
  rcases down with small | ⟨half, even⟩
  · left
    apply Nat.lt_of_mul_lt_mul_right (a := moreOver)
    rw [Nat.mul_comm lessOver]
    exact Nat.lt_of_le_of_lt doubled (Nat.mul_lt_mul_of_pos_right small lessPositive)
  · rw [half, Nat.mul_comm moreOver] at doubled
    rcases Nat.lt_or_eq_of_le (Nat.le_of_mul_le_mul_right doubled morePositive) with small | same
    · exact .inl small
    · exact .inr ⟨same, even⟩

theorem nearest_mono (less lessOver more moreOver : Nat) (lessPositive : 0 < lessOver)
    (morePositive : 0 < moreOver) (below : less * moreOver ≤ more * lessOver) :
    nearest less lessOver ≤ nearest more moreOver := by
  have lessParts := Nat.div_add_mod less lessOver
  have moreParts := Nat.div_add_mod more moreOver
  have whole := quotient_le_quotient less lessOver more moreOver lessPositive morePositive below
  rcases Nat.lt_or_eq_of_le whole with apart | same
  · have up : nearest less lessOver ≤ less / lessOver + 1 := by
      simp only [nearest]
      split <;> omega
    exact Nat.le_trans up (le_nearest _ _ _ morePositive
      ((Nat.le_div_iff_mul_le morePositive).mp apart))
  -- With the same whole part the remainders decide, over a common denominator.
  · have remainders : less % lessOver * moreOver ≤ more % moreOver * lessOver := by
      rw [← lessParts, ← moreParts, ← same] at below
      have common : lessOver * (less / lessOver) * moreOver =
          moreOver * (less / lessOver) * lessOver := by ring
      rw [Nat.add_mul, Nat.add_mul, common] at below
      exact Nat.le_of_add_le_add_left below
    simp only [nearest, ← same]
    by_cases down : 2 * (more % moreOver) < moreOver ∨
        (2 * (more % moreOver) = moreOver ∧ less / lessOver % 2 = 0)
    · have stays := rounds_down_of_le (less % lessOver) lessOver (more % moreOver) moreOver
        (less / lessOver % 2 = 0) lessPositive morePositive remainders down
      rw [if_pos stays, if_pos down]
    · rw [if_neg down]
      split
      next => exact Nat.le_succ _
      next => exact Nat.le_refl _

theorem significant_mono (precision less lessOver more moreOver : Nat) (bits : 0 < precision)
    (lessPositive : 0 < lessOver) (morePositive : 0 < moreOver)
    (below : less * moreOver ≤ more * lessOver) :
    significant precision less lessOver ≤ significant precision more moreOver := by
  have whole := quotient_le_quotient less lessOver more moreOver lessPositive morePositive below
  have dropped : excess precision (less / lessOver) ≤ excess precision (more / moreOver) := by
    have sizes : (less / lessOver).log2 ≤ (more / moreOver).log2 := by
      simpa only [Nat.log2_eq_log_two] using Nat.log_mono_right whole
    simp only [excess]
    omega
  rcases Nat.lt_or_eq_of_le dropped with apart | same
  -- A power of two stands between the two.
  · have one : 1 < 2 ^ precision := Nat.one_lt_two_pow (Nat.ne_of_gt bits)
    have top := lt_two_pow_excess precision (less / lessOver)
    have least := two_pow_excess_le precision (more / moreOver) bits (by omega)
    have between : 2 ^ (precision + excess precision (less / lessOver)) ≤ more / moreOver :=
      Nat.le_trans (Nat.pow_le_pow_right (by decide) (by omega)) least
    have low : significant precision less lessOver ≤
        1 * 2 ^ (precision + excess precision (less / lessOver)) := by
      apply significant_le precision less lessOver 1 _ bits lessPositive one
      rw [Nat.one_mul]
      exact Nat.le_of_lt ((Nat.div_lt_iff_lt_mul lessPositive).mp top)
    have high : 1 * 2 ^ (precision + excess precision (less / lessOver)) ≤
        significant precision more moreOver := by
      apply le_significant precision more moreOver 1 _ bits morePositive one
      rw [Nat.one_mul]
      exact (Nat.le_div_iff_mul_le morePositive).mp between
    exact Nat.le_trans low high
  · simp only [significant, ← same, Nat.shiftLeft_eq]
    apply Nat.mul_le_mul_right
    have unit : 0 < 2 ^ excess precision (less / lessOver) := Nat.pow_pos (by decide)
    apply nearest_mono _ _ _ _ (Nat.mul_pos lessPositive unit) (Nat.mul_pos morePositive unit)
    rw [← Nat.mul_assoc, ← Nat.mul_assoc]
    exact Nat.mul_le_mul_right _ below

theorem nearest_double (numerator denominator : Nat) :
    nearest (2 * numerator) (2 * denominator) = nearest numerator denominator := by
  have decision : (2 * (2 * (numerator % denominator)) < 2 * denominator ∨
      (2 * (2 * (numerator % denominator)) = 2 * denominator ∧
        numerator / denominator % 2 = 0)) ↔
      (2 * (numerator % denominator) < denominator ∨
        (2 * (numerator % denominator) = denominator ∧
          numerator / denominator % 2 = 0)) := by omega
  simp only [nearest, Nat.mul_div_mul_left _ _ Nat.two_pos, Nat.mul_mod_mul_left, decision]

theorem log2_double_quotient (numerator denominator : Nat) (positive : 0 < denominator)
    (present : numerator / denominator ≠ 0) :
    (2 * numerator / denominator).log2 = (numerator / denominator).log2 + 1 := by
  have above := (Nat.le_div_iff_mul_le positive).mp (Nat.log2_self_le present)
  have below := (Nat.div_lt_iff_lt_mul positive).mp (Nat.lt_log2_self (n := numerator / denominator))
  have doubled : 2 * numerator / denominator ≠ 0 := by
    have kept : numerator / denominator ≤ 2 * numerator / denominator :=
      Nat.div_le_div_right (Nat.le_mul_of_pos_left _ Nat.two_pos)
    exact Nat.ne_of_gt (Nat.lt_of_lt_of_le (Nat.pos_of_ne_zero present) kept)
  rw [Nat.log2_eq_iff doubled, Nat.le_div_iff_mul_le positive, Nat.div_lt_iff_lt_mul positive,
    Nat.pow_succ, Nat.pow_succ _ (_ + 1), Nat.mul_comm _ 2, Nat.mul_comm _ 2, Nat.mul_assoc,
    Nat.mul_assoc]
  exact ⟨Nat.mul_le_mul_left 2 above, Nat.mul_lt_mul_of_pos_left below Nat.two_pos⟩

/-- A quotient that fills its bits rounds as any multiple of it by a power of two does: rounding
knows no unit. -/
theorem significant_double (precision numerator denominator : Nat) (bits : 0 < precision)
    (positive : 0 < denominator) (wide : 2 ^ (precision - 1) ≤ numerator / denominator) :
    significant precision (2 * numerator) denominator =
      2 * significant precision numerator denominator := by
  have present : numerator / denominator ≠ 0 :=
    Nat.ne_of_gt (Nat.lt_of_lt_of_le (Nat.pow_pos (by decide)) wide)
  have filled : precision - 1 ≤ (numerator / denominator).log2 :=
    (Nat.le_log2 present).mpr wide
  have size := log2_double_quotient numerator denominator positive present
  have dropped : excess precision (2 * numerator / denominator) =
      excess precision (numerator / denominator) + 1 := by
    simp only [excess, size]
    omega
  have unit : denominator * 2 ^ (excess precision (numerator / denominator) + 1) =
      2 * (denominator * 2 ^ excess precision (numerator / denominator)) := by
    rw [Nat.pow_succ]
    ring
  simp only [significant, dropped, Nat.shiftLeft_eq, unit, nearest_double]
  rw [Nat.pow_succ]
  ring

/-- A power of two is not passed by rounding to a number of bits: it has one bit itself. -/
theorem significant_le_two_pow (precision value size : Nat) (positive : 0 < precision)
    (below : value ≤ 2 ^ size) : significant precision value 1 ≤ 2 ^ size := by
  have one : 1 < 2 ^ precision := Nat.one_lt_two_pow (Nat.ne_of_gt positive)
  have rounded := significant_le precision value 1 1 size positive Nat.one_pos one (by simpa)
  rwa [Nat.one_mul] at rounded

theorem le_scale_half_up_iff (value whole half : Nat) :
    whole ≤ scaleHalfUp value (-((half + 1 : Nat) : Int)) ↔
      whole * 2 ^ (half + 1) ≤ value + 2 ^ half := by
  change whole ≤ (value + 1 <<< half) >>> (half + 1) ↔ _
  rw [Nat.shiftRight_eq_div_pow, Nat.one_shiftLeft, Nat.le_div_iff_mul_le (Nat.pow_pos (by decide))]

theorem scale_half_up_zero (scale : Int) : scaleHalfUp 0 scale = 0 := by
  match scale with
  | .ofNat shift => exact Nat.zero_shiftLeft shift
  | .negSucc half =>
      have room : 2 ^ half < 2 ^ (half + 1) :=
        Nat.pow_lt_pow_right (by decide) (Nat.lt_succ_self half)
      by_contra reached
      have halves := (le_scale_half_up_iff 0 1 half).mp (Nat.pos_of_ne_zero reached)
      omega

theorem scale_half_up_double (value : Nat) (scale : Int) :
    scaleHalfUp (2 * value) scale = scaleHalfUp value (scale + 1) := by
  match scale with
  | .ofNat shift =>
      change (2 * value) <<< shift = value <<< (shift + 1)
      rw [Nat.shiftLeft_eq, Nat.shiftLeft_eq, Nat.pow_succ]
      ring
  | .negSucc 0 =>
      change (2 * value + 1 <<< 0) >>> 1 = value <<< 0
      rw [Nat.shiftRight_eq_div_pow, Nat.shiftLeft_eq, Nat.shiftLeft_eq]
      omega
  | .negSucc (half + 1) =>
      change (2 * value + 1 <<< (half + 1)) >>> (half + 2) = (value + 1 <<< half) >>> (half + 1)
      have doubled : 2 * value + 1 <<< (half + 1) = 2 * (value + 1 <<< half) := by
        rw [Nat.one_shiftLeft, Nat.one_shiftLeft, Nat.pow_succ]
        ring
      rw [doubled, Nat.shiftRight_eq_div_pow, Nat.shiftRight_eq_div_pow, Nat.pow_succ _ (half + 1),
        Nat.mul_comm _ 2, Nat.mul_div_mul_left _ _ Nat.two_pos]

theorem scale_half_up_mono (value more : Nat) (scale : Int) (below : value ≤ more) :
    scaleHalfUp value scale ≤ scaleHalfUp more scale := by
  match scale with
  | .ofNat shift =>
      change value <<< shift ≤ more <<< shift
      rw [Nat.shiftLeft_eq, Nat.shiftLeft_eq]
      exact Nat.mul_le_mul_right _ below
  | .negSucc half =>
      change (value + 1 <<< half) >>> (half + 1) ≤ (more + 1 <<< half) >>> (half + 1)
      rw [Nat.shiftRight_eq_div_pow, Nat.shiftRight_eq_div_pow]
      exact Nat.div_le_div_right (Nat.add_le_add_right below _)

end LicenseGate.Numeric
