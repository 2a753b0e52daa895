import LicenseGate.Yaml.Value
import Mathlib

/-!
The texts that are read as natural numbers, as a grammar: decimal digits without a leading zero, or
digits of another radix behind its mark, and perhaps a plus sign before either.
-/

namespace LicenseGate.Yaml

inductive Digits (radix : Nat) : List Char → Nat → Prop where
  | one {c : Char} {digit : Nat} :
      hexValue? c = some digit → digit < radix → Digits radix [c] digit
  | more {text : List Char} {value : Nat} {c : Char} {digit : Nat} : Digits radix text value →
      hexValue? c = some digit → digit < radix →
      Digits radix (text ++ [c]) (value * radix + digit)

def Padded (text : List Char) : Prop := text.head? = some '0' ∧ text ≠ ['0']

def radixMarks : List (Char × Nat) := [('b', 2), ('o', 8), ('x', 16)]

inductive Unsigned : List Char → Nat → Prop where
  | decimal {text : List Char} {value : Nat} :
      Digits 10 text value → ¬ Padded text → Unsigned text value
  | marked {mark : Char} {radix : Nat} {text : List Char} {value : Nat} :
      (mark, radix) ∈ radixMarks → Digits radix text value → Unsigned ('0' :: mark :: text) value

inductive Natural : List Char → Nat → Prop where
  | bare {text : List Char} {value : Nat} : Unsigned text value → Natural text value
  | plus {text : List Char} {value : Nat} : Unsigned text value → Natural ('+' :: text) value

def addDigit (radix : Nat) (value : Option Nat) (c : Char) : Option Nat :=
  value.bind fun value =>
    (hexValue? c).bind fun digit => if digit < radix then some (value * radix + digit) else none

theorem digits_exact (radix : Nat) (text : List Char) :
    digits? radix text = if text = [] then none else text.foldl (addDigit radix) (some 0) := by
  cases text <;> rfl

theorem add_digit_iff (radix : Nat) (before : Option Nat) (c : Char) (value : Nat) :
    addDigit radix before c = some value ↔ ∃ high digit, before = some high ∧
      hexValue? c = some digit ∧ digit < radix ∧ value = high * radix + digit := by
  cases before with
  | none => simp [addDigit]
  | some high =>
      cases read : hexValue? c with
      | none => simp [addDigit, read]
      | some digit =>
          by_cases small : digit < radix
          · simp [addDigit, read, small, eq_comm]
          · simp [addDigit, read, small]

theorem digits_iff (radix : Nat) (text : List Char) (value : Nat) :
    digits? radix text = some value ↔ Digits radix text value := by
  constructor
  · induction text using List.reverseRecOn generalizing value with
    | nil => exact nofun
    | append_singleton text c ih =>
        intro read
        rw [digits_exact, if_neg (by simp), List.foldl_append, List.foldl_cons, List.foldl_nil,
          add_digit_iff] at read
        obtain ⟨high, digit, before, meant, small, rfl⟩ := read
        by_cases first : text = []
        · subst first
          cases before
          simpa using Digits.one meant small
        · have earlier : digits? radix text = some high := by
            rw [digits_exact, if_neg first]
            exact before
          exact Digits.more (ih high earlier) meant small
  · intro digits
    induction digits with
    | one meant small => simp [digits_exact, addDigit, meant, small]
    | @more text value c digit digits meant small ih =>
        rw [digits_exact] at ih
        split at ih
        · exact absurd ih nofun
        · rw [digits_exact, if_neg (by simp), List.foldl_append, ih]
          simp [addDigit, meant, small]

theorem Digits.meant {radix : Nat} {text : List Char} {value : Nat}
    (digits : Digits radix text value) :
    text ≠ [] ∧ ∀ c ∈ text, ∃ digit, hexValue? c = some digit ∧ digit < radix := by
  induction digits with
  | one meant small => exact ⟨List.cons_ne_nil _ _, by simpa using ⟨_, meant, small⟩⟩
  | more digits meant small ih =>
      refine ⟨by simp, ?_⟩
      intro c member
      rcases List.mem_append.mp member with earlier | last
      · exact ih.2 c earlier
      · rw [List.mem_singleton.mp last]
        exact ⟨_, meant, small⟩

/-- A digit below ten is a decimal one: those of other radices stand for ten and more. -/
theorem is_digit_of_small (c : Char) (digit : Nat) (meant : hexValue? c = some digit)
    (small : digit < 10) : c.isDigit = true := by
  simp only [hexValue?] at meant
  split at meant
  next decimal => exact decimal
  split at meant
  · simp only [Option.some.injEq] at meant
    omega
  · split at meant
    · simp only [Option.some.injEq] at meant
      omega
    · exact absurd meant nofun

theorem digits_up_to_iff (limit radix : Nat) (text : List Char) (value : Nat) :
    digitsUpTo? limit radix text = some value ↔ Digits radix text value ∧ value ≤ limit := by
  rw [digitsUpTo?, Option.filter_eq_some_iff, digits_iff, decide_eq_true_eq]

/-- Digits alone are refused for a leading zero, with or without a sign before them. -/
theorem padded_number_iff (text : List Char) (value : Nat) (digits : Digits 10 text value) :
    (isPaddedNumber text = true ↔ Padded text) ∧
      (isPaddedNumber ('+' :: text) = true ↔ Padded text) := by
  obtain ⟨present, meant⟩ := digits.meant
  have decimal : text.all Char.isDigit = true := by
    rw [List.all_eq_true]
    intro c member
    obtain ⟨digit, read, small⟩ := meant c member
    exact is_digit_of_small c digit read small
  have padded : (1 < text.length ∧ text.head? = some '0') ↔ Padded text := by
    cases text with
    | nil => exact absurd rfl present
    | cons first rest => cases rest <;> simp [Padded]
  have unsigned : isPaddedNumber ('+' :: text) = true ↔ Padded text := by
    simp [isPaddedNumber, isSign, decimal, ← padded]
  refine ⟨?_, unsigned⟩
  cases text with
  | nil => exact absurd rfl present
  | cons first rest =>
      have signless : isSign first = false := by
        obtain ⟨digit, read, small⟩ := meant first List.mem_cons_self
        have decimal := is_digit_of_small first digit read small
        cases sign : isSign first with
        | false => rfl
        | true =>
            simp only [isSign, Bool.or_eq_true, beq_iff_eq] at sign
            rcases sign with rfl | rfl <;> exact absurd decimal (by decide)
      simp [isPaddedNumber, signless, decimal, ← padded]

def unsigned? (limit : Nat) (padded : Bool) (text : List Char) : Option Nat :=
  match radixForm? text with
  | some (radix, digits) => digitsUpTo? limit radix digits
  | none => if padded then none else digitsUpTo? limit 10 text

theorem radix_form_iff (text : List Char) (radix : Nat) (digits : List Char) :
    radixForm? text = some (radix, digits) ↔
      ∃ mark, (mark, radix) ∈ radixMarks ∧ text = '0' :: mark :: digits := by
  constructor
  · intro form
    simp only [radixForm?] at form
    split at form
    all_goals cases form
    · exact ⟨'x', by decide, rfl⟩
    · exact ⟨'o', by decide, rfl⟩
    · exact ⟨'b', by decide, rfl⟩
  · rintro ⟨mark, listed, rfl⟩
    simp only [radixMarks, List.mem_cons, Prod.mk.injEq, List.not_mem_nil, or_false] at listed
    rcases listed with ⟨rfl, rfl⟩ | ⟨rfl, rfl⟩ | ⟨rfl, rfl⟩ <;> rfl

theorem digits_unmarked (mark : Char) (radix : Nat) (rest : List Char) (value : Nat)
    (listed : (mark, radix) ∈ radixMarks) : ¬ Digits 10 ('0' :: mark :: rest) value := by
  intro digits
  obtain ⟨digit, read, small⟩ := digits.meant.2 mark (by simp)
  have decimal := is_digit_of_small mark digit read small
  simp only [radixMarks, List.mem_cons, Prod.mk.injEq, List.not_mem_nil, or_false] at listed
  rcases listed with ⟨rfl, -⟩ | ⟨rfl, -⟩ | ⟨rfl, -⟩ <;> exact absurd decimal (by decide)

theorem unsigned_marked_iff (mark : Char) (radix : Nat) (digits : List Char) (value : Nat)
    (listed : (mark, radix) ∈ radixMarks) :
    Unsigned ('0' :: mark :: digits) value ↔ Digits radix digits value := by
  refine ⟨?_, Unsigned.marked listed⟩
  intro unsigned
  cases unsigned with
  | decimal decimal _ => exact absurd decimal (digits_unmarked mark radix digits value listed)
  | marked other read =>
      -- A mark stands for one radix.
      have one := (radix_form_iff _ radix digits).mpr ⟨mark, listed, rfl⟩
      have two := (radix_form_iff _ _ digits).mpr ⟨mark, other, rfl⟩
      rw [one] at two
      cases two
      exact read

theorem unsigned_decimal_iff (text : List Char) (value : Nat)
    (unmarked : radixForm? text = none) :
    Unsigned text value ↔ Digits 10 text value ∧ ¬ Padded text := by
  constructor
  · intro unsigned
    cases unsigned with
    | decimal digits bare => exact ⟨digits, bare⟩
    | @marked mark radix digits _ listed read =>
        have found := (radix_form_iff _ radix digits).mpr ⟨mark, listed, rfl⟩
        rw [unmarked] at found
        exact absurd found nofun
  · exact fun ⟨digits, bare⟩ => Unsigned.decimal digits bare

theorem unsigned_iff (limit : Nat) (padded : Bool) (text : List Char) (value : Nat)
    (told : Digits 10 text value → (padded = true ↔ Padded text)) :
    unsigned? limit padded text = some value ↔ Unsigned text value ∧ value ≤ limit := by
  rw [unsigned?]
  cases form : radixForm? text with
  | some found =>
      obtain ⟨radix, digits⟩ := found
      obtain ⟨mark, listed, rfl⟩ := (radix_form_iff text radix digits).mp form
      rw [unsigned_marked_iff mark radix digits value listed]
      exact digits_up_to_iff limit radix digits value
  | none =>
      change (if padded = true then none else digitsUpTo? limit 10 text) = some value ↔ _
      rw [unsigned_decimal_iff text value form]
      by_cases digits : Digits 10 text value
      · have same := told digits
        by_cases refused : padded = true
        · simp [refused, same.mp refused]
        · simp [refused, same.not.mp refused, digits_up_to_iff]
      · have unread : digitsUpTo? limit 10 text ≠ some value := by
          rw [Ne, digits_up_to_iff]
          exact fun read => digits read.1
        by_cases refused : padded = true <;> simp [refused, digits, unread]

theorem natural_signed_iff (text : List Char) (value : Nat) :
    Natural ('+' :: text) value ↔ Unsigned text value := by
  refine ⟨?_, Natural.plus⟩
  intro natural
  cases natural with
  | plus unsigned => exact unsigned
  | bare unsigned =>
      cases unsigned with
      | decimal digits _ =>
          obtain ⟨digit, meant, -⟩ := digits.meant.2 '+' List.mem_cons_self
          exact absurd meant nofun

theorem natural_unsigned_iff (text : List Char) (value : Nat)
    (signless : ∀ rest, text ≠ '+' :: rest) : Natural text value ↔ Unsigned text value := by
  refine ⟨?_, Natural.bare⟩
  intro natural
  cases natural with
  | bare unsigned => exact unsigned
  | plus _ => exact absurd rfl (signless _)

theorem natural_iff (limit : Nat) (text : List Char) (value : Nat) :
    natural? limit text = some value ↔ Natural text value ∧ value ≤ limit := by
  by_cases signed : ∃ rest, text = '+' :: rest
  · obtain ⟨rest, rfl⟩ := signed
    have read : natural? limit ('+' :: rest) =
        unsigned? limit (isPaddedNumber ('+' :: rest)) rest := rfl
    rw [natural_signed_iff, read]
    exact unsigned_iff limit _ rest value fun digits => (padded_number_iff rest value digits).2
  · have signless : ∀ rest, text ≠ '+' :: rest := fun rest same => signed ⟨rest, same⟩
    have bare : withoutPlus text = text := by
      cases text with
      | nil => rfl
      | cons first rest =>
          rw [withoutPlus]
          rintro after ⟨⟩
          exact signless rest rfl
    have read : natural? limit text =
        unsigned? limit (isPaddedNumber text) (withoutPlus text) := rfl
    rw [natural_unsigned_iff text value signless, read, bare]
    exact unsigned_iff limit _ text value fun digits => (padded_number_iff text value digits).1

theorem hex_value_digit_char (digit : Nat) (small : digit < 10) :
    hexValue? digit.digitChar = some digit := by
  interval_cases digit <;> rfl

/-- A number written in decimal is a row of digits, and only nought begins with a zero. -/
theorem decimal_digits (number : Nat) :
    Digits 10 (Nat.toDigits 10 number) number ∧
      (number ≠ 0 → (Nat.toDigits 10 number).head? ≠ some '0') := by
  induction number using Nat.strongRecOn with
  | ind number ih =>
      rcases Nat.lt_or_ge number 10 with small | large
      · rw [Nat.toDigits_of_lt_base small]
        refine ⟨Digits.one (hex_value_digit_char number small) small, ?_⟩
        interval_cases number <;> decide
      · obtain ⟨digits, bare⟩ := ih (number / 10) (by omega)
        have low := Nat.mod_lt number (by decide : 0 < 10)
        have more := Digits.more digits (hex_value_digit_char _ low) low
        rw [Nat.div_add_mod' number 10] at more
        rw [Nat.toDigits_of_base_le (by decide) large]
        refine ⟨more, fun _ => ?_⟩
        rw [List.head?_append_of_ne_nil _ Nat.toDigits_ne_nil]
        exact bare (by omega)

theorem natural_decimal (number : Nat) : Natural (Nat.toDigits 10 number) number := by
  obtain ⟨digits, bare⟩ := decimal_digits number
  refine .bare (.decimal digits ?_)
  rintro ⟨zero, more⟩
  by_cases nought : number = 0
  · subst nought
    exact more rfl
  · exact bare nought zero

theorem natural_unique (text : List Char) (value other : Nat) (one : Natural text value)
    (two : Natural text other) : value = other := by
  have first := (natural_iff (max value other) text value).mpr ⟨one, Nat.le_max_left _ _⟩
  have second := (natural_iff (max value other) text other).mpr ⟨two, Nat.le_max_right _ _⟩
  exact Option.some.inj (first.symm.trans second)

theorem natural_decimal_iff (number value : Nat) :
    Natural (Nat.toDigits 10 number) value ↔ value = number :=
  ⟨fun read => natural_unique _ _ _ read (natural_decimal number),
    fun same => same ▸ natural_decimal number⟩

end LicenseGate.Yaml
