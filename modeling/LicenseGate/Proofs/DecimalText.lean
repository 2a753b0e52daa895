import LicenseGate.Proofs.NumberText
import LicenseGate.Proofs.ShortestDecimal

/-!
Decimals as they are written, read again. With zeros before its digits, a point among them or a
power of ten behind them, a text still stands for the number that it was made from.
-/

namespace LicenseGate

open Numeric

namespace Yaml

variable {text whole part : List Char} {value : Nat}

theorem Digits.decimal (digits : Digits 10 text value) : ∀ c ∈ text, c.isDigit = true := by
  intro c member
  obtain ⟨digit, read, small⟩ := digits.meant.2 c member
  exact is_digit_of_small c digit read small

theorem Digits.behind_zero (digits : Digits 10 text value) : Digits 10 ('0' :: text) value := by
  induction digits with
  | @one c digit meant small =>
      have two := Digits.more (.one rfl (by decide) : Digits 10 ['0'] 0) meant small
      rwa [Nat.zero_mul, Nat.zero_add] at two
  | more _ meant small ih => exact ih.more meant small

theorem Digits.behind_zeros (digits : Digits 10 text value) (zeros : Nat) :
    Digits 10 (List.replicate zeros '0' ++ text) value := by
  induction zeros with
  | zero => exact digits
  | succ zeros ih => exact ih.behind_zero

theorem Digits.before_zeros (digits : Digits 10 text value) (zeros : Nat) :
    Digits 10 (text ++ List.replicate zeros '0') (value * 10 ^ zeros) := by
  induction zeros with
  | zero => simpa using digits
  | succ zeros ih =>
      have more := ih.more (rfl : hexValue? '0' = some 0) (by decide)
      rwa [List.append_assoc, ← List.replicate_succ', Nat.mul_assoc, ← Nat.pow_succ,
        Nat.add_zero] at more

def Ended (rest : List Char) : Prop := ∀ c ∈ rest.head?, c.isDigit = false

theorem ended_mark (mark : Char) (rest : List Char) (other : mark.isDigit = false) :
    Ended (mark :: rest) := by
  rintro c ⟨⟩
  exact other

theorem digits_run (rest : List Char) (digits : ∀ c ∈ text, c.isDigit = true)
    (ended : Ended rest) :
    (text ++ rest).takeWhile Char.isDigit = text ∧
      (text ++ rest).dropWhile Char.isDigit = rest := by
  rw [List.takeWhile_append_of_pos digits, List.dropWhile_append_of_pos digits]
  cases rest with
  | nil => exact ⟨List.append_nil _, rfl⟩
  | cons c rest =>
      have other : ¬ c.isDigit = true := Bool.eq_false_iff.mp (ended c rfl)
      rw [List.takeWhile_cons_of_neg other, List.dropWhile_cons_of_neg other, List.append_nil]
      exact ⟨rfl, rfl⟩

theorem decimal_pointed (rest : List Char) (power : Int) (digits : Digits 10 (whole ++ part) value)
    (ended : Ended rest) (powered : exponent? rest = some power) :
    decimal? (whole ++ '.' :: (part ++ rest)) = some ⟨value, power - part.length⟩ := by
  obtain ⟨before, after⟩ := digits_run _
    (fun c member => digits.decimal c (List.mem_append_left part member))
    (ended_mark '.' (part ++ rest) rfl)
  obtain ⟨inside, left⟩ := digits_run rest
    (fun c member => digits.decimal c (List.mem_append_right whole member)) ended
  have read := (digits_iff 10 _ value).mpr digits
  simp only [decimal?, before, after, inside, left, read, powered]

theorem decimal_plain (mark : Char) (rest : List Char) (power : Int)
    (digits : Digits 10 text value) (other : mark.isDigit = false) (unpointed : mark ≠ '.')
    (powered : exponent? (mark :: rest) = some power) :
    decimal? (text ++ mark :: rest) = some ⟨value, power⟩ := by
  obtain ⟨before, after⟩ := digits_run _ digits.decimal (ended_mark mark rest other)
  have read := (digits_iff 10 _ value).mpr digits
  rw [decimal?, before, after]
  simp [unpointed, read, powered]

theorem number_digits (number : Nat) : (toString number).toList = Nat.toDigits 10 number :=
  String.toList_ofList

theorem exponent_power (power : Int) :
    exponent? ('e' :: (toString power).toList) = some power := by
  have digits (number : Nat) : digits? 10 (Nat.toDigits 10 number) = some number :=
    (digits_iff 10 _ number).mpr (decimal_digits number).1
  cases power with
  | ofNat up =>
      have text : (toString (Int.ofNat up)).toList = Nat.toDigits 10 up := number_digits up
      have unsigned (sign : Char) (rest : List Char) (other : sign.isDigit = false) :
          Nat.toDigits 10 up ≠ sign :: rest := by
        intro same
        have digit := (decimal_digits up).1.decimal sign (same ▸ List.mem_cons_self)
        exact absurd digit (Bool.eq_false_iff.mp other)
      rw [text, exponent?, digits]
      · rfl
      · exact fun rest => unsigned '-' rest rfl
      · exact fun rest => unsigned '+' rest rfl
  | negSucc down =>
      have text : (toString (Int.negSucc down)).toList = '-' :: Nat.toDigits 10 (down + 1) := by
        rw [← number_digits]
        exact String.toList_append
      rw [text, exponent?, digits]
      rfl

end Yaml

namespace Numeric.Decimal

open Yaml

theorem with_point_read (number : Decimal) :
    ∃ read, decimal? number.withPoint.toList = some read ∧ read.value = number.value := by
  obtain ⟨number, exponent⟩ := number
  have digits := (decimal_digits number).1
  cases exponent with
  | ofNat zeros =>
      have wide : Digits 10 (Nat.toDigits 10 number ++ List.replicate zeros '0' ++ ['0'])
          (number * 10 ^ (zeros + 1)) := by
        rw [List.append_assoc, ← List.replicate_succ']
        exact digits.before_zeros (zeros + 1)
      have text : (withPoint ⟨number, .ofNat zeros⟩).toList =
          Nat.toDigits 10 number ++ List.replicate zeros '0' ++ '.' :: (['0'] ++ []) := by
        simp [withPoint, positional]
      refine ⟨_, by rw [text]; exact decimal_pointed [] 0 wide nofun rfl, ?_⟩
      simp only [value, List.length_singleton, Int.ofNat_eq_natCast]
      push_cast
      rw [zpow_natCast, zpow_neg_one, pow_succ]
      field_simp
  | negSucc down =>
      have padded := digits.behind_zeros (down + 1 + 1 - (Nat.toDigits 10 number).length)
      have text : (withPoint ⟨number, .negSucc down⟩).toList = _ := String.toList_ofList
      have long : down + 1 ≤ (List.replicate (down + 1 + 1 - (Nat.toDigits 10 number).length) '0' ++
          Nat.toDigits 10 number).length := by
        rw [List.length_append, List.length_replicate]
        omega
      generalize List.replicate _ '0' ++ Nat.toDigits 10 number = row at padded text long
      rw [← List.take_append_drop (row.length - (down + 1)) row] at padded
      have behind : (row.drop (row.length - (down + 1))).length = down + 1 := by
        rw [List.length_drop]
        omega
      have read := decimal_pointed [] 0 padded nofun rfl
      rw [List.append_nil, behind] at read
      exact ⟨_, by rw [text]; exact read, rfl⟩

theorem scientific_read (number : Decimal) :
    decimal? number.scientific.toList = some number := by
  obtain ⟨number, exponent⟩ := number
  have digits := (decimal_digits number).1
  simp only [scientific, String.toList_append, String.toList_ofList]
  cases written : Nat.toDigits 10 number with
  | nil => exact absurd written Nat.toDigits_ne_nil
  | cons first rest =>
      rw [written] at digits
      have power := exponent_power (exponent + rest.length)
      cases rest with
      | nil =>
          have read := decimal_plain 'e' _ _ digits rfl (by decide) power
          simpa using read
      | cons second rest =>
          have parts : Digits 10 ([first] ++ second :: rest) number := digits
          have read := decimal_pointed _ _ parts (ended_mark 'e' _ rfl) power
          rw [Int.add_sub_cancel] at read
          simpa using read

/-- However a decimal is written, it stands for its number. -/
theorem adaptive_read (number : Decimal) (least most : Int) :
    ∃ read, decimal? (number.adaptive least most).toList = some read ∧
      read.value = number.value := by
  rw [adaptive]
  split
  · exact number.with_point_read
  · exact ⟨number, number.scientific_read, rfl⟩

example : adaptive (-5) 13 ⟨347, -9⟩ = "3.47e-7" := by decide +kernel

end Numeric.Decimal

/-- A sample is given by its decimal: of all samples it is the one nearest to what is read. -/
theorem Sample.adaptive_nearest (sample : Sample) (positive : sample.isNegative = false)
    (least most : Int) :
    ∃ read, Yaml.decimal? (sample.decimal.adaptive least most).toList = some read ∧
      sample.Nearest read.value := by
  obtain ⟨read, same, value⟩ := sample.decimal.adaptive_read least most
  refine ⟨read, same, ?_⟩
  rw [value]
  exact sample.decimal_nearest positive

end LicenseGate
