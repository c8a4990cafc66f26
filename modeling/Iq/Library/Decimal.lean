import Mathlib.Data.List.Induction
import Mathlib.Tactic.Common

/-!
# Decimal numerals

Numbers as texts of decimal digits, and the reading of a numeral as the standard library of the
source does it: an optional plus sign, then digits with any number of leading zeros. A number has
one canonical numeral and many that are read as it.
-/

namespace Iq.Library.Decimal

/-- The canonical numeral of a number. -/
def digits (value : Nat) : List Char := Nat.toDigits 10 value

/-- A numeral without its sign. -/
def unsigned (text : List Char) : List Char := if text.head? = some '+' then text.tail else text

/-- `str::parse` of an unsigned integer below a bound. -/
def parse (bound : Nat) (text : List Char) : Option Nat :=
  let value := Nat.ofDigitChars 10 (unsigned text) 0
  if unsigned text ≠ [] ∧ (unsigned text).all Char.isDigit = true ∧ value < bound then some value
  else none

variable {bound value : Nat} {text : List Char}

/-- A numeral consists of digits. -/
theorem isDigit_of_mem_digits {character : Char} (mem : character ∈ digits value) :
    character.isDigit = true :=
  Nat.isDigit_of_mem_toDigits (by decide) (by decide) mem

/-- A numeral is not empty. -/
theorem digits_ne_nil : digits value ≠ [] := Nat.toDigits_ne_nil

/-- The value of a numeral. -/
theorem ofDigitChars_digits : Nat.ofDigitChars 10 (digits value) 0 = value :=
  Nat.ofDigitChars_ten_toDigits

/-- The value of a digit. -/
theorem digit_value {character : Char} (digit : character.isDigit = true) :
    character.toNat - 48 < 10 ∧ Nat.digitChar (character.toNat - 48) = character := by
  have all : ∀ value < 10, Nat.digitChar value = Char.ofNat (48 + value) := by decide
  have range : 48 ≤ character.toNat ∧ character.toNat ≤ 57 := by
    simp only [Char.isDigit, Bool.and_eq_true, decide_eq_true_eq] at digit
    exact digit
  have small : character.toNat - 48 < 10 := by omega
  refine ⟨small, ?_⟩
  rw [all _ small, show 48 + (character.toNat - 48) = character.toNat by omega, Char.ofNat_toNat]

/-- The head of a list that goes on. -/
theorem head?_append_of_ne_nil {first second : List Char} (some_first : first ≠ []) :
    (first ++ second).head? = first.head? := by
  cases first with
  | nil => exact absurd rfl some_first
  | cons head rest => rfl

/-- The canonical numeral of a positive number begins with none of a zero and a sign. -/
theorem head_digits (positive : 0 < value) :
    (digits value).head? ≠ some '0' ∧ (digits value).head? ≠ some '+' := by
  have plus : (digits value).head? ≠ some '+' := by
    intro head
    have digit := isDigit_of_mem_digits (List.mem_of_head? head)
    exact absurd digit (by decide)
  refine ⟨?_, plus⟩
  clear plus
  induction value using Nat.strongRecOn with
  | ind value smaller =>
    rw [digits, Nat.toDigits_eq_if (by decide)]
    split
    · rename_i small
      have all : ∀ value < 10, 0 < value → [Nat.digitChar value].head? ≠ some '0' := by decide
      exact all value small positive
    · have rest := smaller (value / 10) (by omega) (by omega)
      rw [head?_append_of_ne_nil Nat.toDigits_ne_nil]
      exact rest

/-- Digits without a leading zero are the canonical numeral of their value. -/
theorem digits_ofDigitChars (some_digit : text ≠ []) (all_digits : text.all Char.isDigit = true)
    (unpadded : text.head? ≠ some '0') : digits (Nat.ofDigitChars 10 text 0) = text := by
  induction text using List.reverseRecOn with
  | nil => exact absurd rfl some_digit
  | append_singleton earlier last digits_earlier =>
    rw [List.all_append, Bool.and_eq_true] at all_digits
    have last_digit : last.isDigit = true := by simpa using all_digits.2
    obtain ⟨small, read⟩ := digit_value last_digit
    rw [Nat.ofDigitChars_append]
    show digits (10 * Nat.ofDigitChars 10 earlier 0 + (last.toNat - 48)) = _
    by_cases single : earlier = []
    · subst single
      show digits (10 * 0 + (last.toNat - 48)) = [last]
      rw [digits, Nat.mul_zero, Nat.zero_add, Nat.toDigits_of_lt_base small, read]
    · have head : earlier.head? ≠ some '0' := by
        rwa [head?_append_of_ne_nil single] at unpadded
      have same := digits_earlier single all_digits.1 head
      have positive : 0 < Nat.ofDigitChars 10 earlier 0 := by
        refine Nat.pos_of_ne_zero fun zero => head ?_
        rw [← same, zero]
        rfl
      rw [digits, ← Nat.toDigits_append_toDigits (by decide) positive small,
        Nat.toDigits_of_lt_base small, read]
      exact congrArg (· ++ [last]) same

/-- A number below the bound is read back from its canonical numeral. -/
theorem parse_digits (below : value < bound) : parse bound (digits value) = some value := by
  have plus : (digits value).head? ≠ some '+' := by
    intro head
    have digit := isDigit_of_mem_digits (List.mem_of_head? head)
    exact absurd digit (by decide)
  have bare : unsigned (digits value) = digits value := if_neg plus
  have all_digits : (digits value).all Char.isDigit = true :=
    List.all_eq_true.mpr fun _ => isDigit_of_mem_digits
  rw [parse, bare, ofDigitChars_digits]
  exact if_pos ⟨digits_ne_nil, all_digits, below⟩

/-- What was read as a positive number is its canonical numeral unless it begins with a sign or a
zero. -/
theorem digits_eq_iff (read : parse bound text = some value) (positive : 0 < value) :
    digits value = text ↔ text.head? ≠ some '+' ∧ text.head? ≠ some '0' := by
  constructor
  · rintro rfl
    exact ⟨(head_digits positive).2, (head_digits positive).1⟩
  · rintro ⟨bare, unpadded⟩
    have same : unsigned text = text := if_neg bare
    simp only [parse, same] at read
    split at read
    · rename_i accepted
      rw [← Option.some.inj read]
      exact digits_ofDigitChars accepted.1 accepted.2.1 unpadded
    · cases read

/-- Canonical numerals that are read as the same number are the same. -/
theorem eq_of_parse {other : List Char} (read : parse bound text = some value)
    (read_other : parse bound other = some value) (positive : 0 < value)
    (canonical : text.head? ≠ some '+' ∧ text.head? ≠ some '0')
    (canonical_other : other.head? ≠ some '+' ∧ other.head? ≠ some '0') : text = other := by
  rw [← (digits_eq_iff read positive).mpr canonical,
    (digits_eq_iff read_other positive).mpr canonical_other]

/-- A numeral is read from digits and perhaps a sign. -/
theorem isDigit_of_parse (read : parse bound text = some value) {character : Char}
    (mem : character ∈ text) : character.isDigit = true ∨ character = '+' := by
  simp only [parse] at read
  split at read
  · rename_i accepted
    have digits := List.all_eq_true.mp accepted.2.1
    unfold unsigned at digits
    split at digits
    · rename_i sign
      obtain ⟨rest, rfl⟩ : ∃ rest, text = '+' :: rest := by
        cases text with
        | nil => cases sign
        | cons head rest => exact ⟨rest, by rw [Option.some.inj sign]⟩
      rcases List.mem_cons.mp mem with rfl | later
      · exact .inr rfl
      · exact .inl (digits _ later)
    · exact .inl (digits _ mem)
  · cases read

example : parse 256 "+007".toList = some 7 := by decide

example : parse 256 "256".toList = none := by decide

end Iq.Library.Decimal
