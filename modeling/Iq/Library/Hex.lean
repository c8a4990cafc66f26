import Mathlib.Tactic.Common
import Mathlib.Tactic.IntervalCases

/-!
# Hexadecimal text

Bytes as pairs of hexadecimal digits, written in lower case and read in either case. Reading gives
back what was written; writing gives back what was read exactly when it was in lower case.
-/

namespace Iq.Library.Hex

/-- The lower-case digit of a value. -/
def digit (value : Nat) : Char := "0123456789abcdef".toList.getD value '0'

/-- The value of a digit in either case. -/
def value? (character : Char) : Option Nat :=
  let code := character.toNat
  if 48 ≤ code ∧ code ≤ 57 then some (code - 48)
  else if 97 ≤ code ∧ code ≤ 102 then some (code - 87)
  else if 65 ≤ code ∧ code ≤ 70 then some (code - 55)
  else none

/-- A digit in either case. -/
def isDigit (character : Char) : Bool := (value? character).isSome

/-- A character other than an upper-case digit. -/
def isLower (character : Char) : Bool := !(65 ≤ character.toNat && character.toNat ≤ 70)

/-- Two lower-case digits for each byte. -/
def encode (bytes : List UInt8) : List Char :=
  bytes.flatMap fun byte => [digit (byte.toNat / 16), digit (byte.toNat % 16)]

/-- The bytes of pairs of digits. -/
def decode : List Char → Option (List UInt8)
  | [] => some []
  | high :: low :: rest => do
    let upper ← value? high
    let lower ← value? low
    let bytes ← decode rest
    some (UInt8.ofNat (16 * upper + lower) :: bytes)
  | [_] => none

variable {character : Char} {characters : List Char} {bytes : List UInt8} {value : Nat}

/-- The value of a digit. -/
theorem value?_digit (small : value < 16) : value? (digit value) = some value := by
  have all : ∀ value < 16, value? (digit value) = some value := by decide
  exact all value small

/-- A digit is in lower case. -/
theorem isLower_digit (small : value < 16) : isLower (digit value) = true := by
  have all : ∀ value < 16, isLower (digit value) = true := by decide
  exact all value small

/-- A digit is that of its value in lower case. -/
theorem digit_of_value? (read : value? character = some value) :
    value < 16 ∧ (digit value = character ↔ isLower character = true) := by
  have lower : ∀ code, 97 ≤ code → code ≤ 102 → digit (code - 87) = Char.ofNat code := by
    intro code low high
    interval_cases code <;> rfl
  have decimal : ∀ code, 48 ≤ code → code ≤ 57 → digit (code - 48) = Char.ofNat code := by
    intro code low high
    interval_cases code <;> rfl
  have named : Char.ofNat character.toNat = character := Char.ofNat_toNat character
  simp only [value?] at read
  split at read
  · rename_i range
    cases read
    refine ⟨by omega, iff_of_true ?_ ?_⟩
    · rw [decimal _ range.1 range.2, named]
    · simp only [isLower, Bool.not_eq_true', Bool.and_eq_false_iff, decide_eq_false_iff_not]
      omega
  · split at read
    · rename_i range
      cases read
      refine ⟨by omega, iff_of_true ?_ ?_⟩
      · rw [lower _ range.1 range.2, named]
      · simp only [isLower, Bool.not_eq_true', Bool.and_eq_false_iff, decide_eq_false_iff_not]
        omega
    · split at read
      · rename_i range
        cases read
        have small : character.toNat - 55 < 16 := by omega
        refine ⟨small, iff_of_false (fun same => ?_) ?_⟩
        · have written := isLower_digit small
          rw [same] at written
          simp [isLower, range] at written
        · simp [isLower, range]
      · cases read

/-- Reading gives back the bytes that were written. -/
theorem decode_encode (bytes : List UInt8) : decode (encode bytes) = some bytes := by
  induction bytes with
  | nil => rfl
  | cons byte rest decode_rest =>
    have bound := byte.toNat_lt
    have high : byte.toNat / 16 < 16 := by omega
    have low : byte.toNat % 16 < 16 := by omega
    have whole : 16 * (byte.toNat / 16) + byte.toNat % 16 = byte.toNat := by omega
    show (do
      let upper ← value? (digit (byte.toNat / 16))
      let lower ← value? (digit (byte.toNat % 16))
      let bytes ← decode (encode rest)
      some (UInt8.ofNat (16 * upper + lower) :: bytes)) = some (byte :: rest)
    simp only [value?_digit high, value?_digit low, decode_rest, Option.bind_eq_bind,
      Option.bind_some, whole, UInt8.ofNat_toNat]

/-- Written text is in lower case. -/
theorem isLower_of_mem_encode (mem : character ∈ encode bytes) :
    isLower character = true ∧ isDigit character = true := by
  obtain ⟨byte, -, digit⟩ := List.mem_flatMap.mp mem
  have bound := byte.toNat_lt
  have high : byte.toNat / 16 < 16 := by omega
  have low : byte.toNat % 16 < 16 := by omega
  simp only [List.mem_cons, List.not_mem_nil, or_false] at digit
  rcases digit with rfl | rfl
  · exact ⟨isLower_digit high, by rw [isDigit, value?_digit high]; rfl⟩
  · exact ⟨isLower_digit low, by rw [isDigit, value?_digit low]; rfl⟩

/-- Each byte has two digits. -/
theorem length_encode (bytes : List UInt8) : (encode bytes).length = 2 * bytes.length := by
  induction bytes with
  | nil => rfl
  | cons byte rest length_rest =>
    show (encode rest).length + 2 = 2 * (rest.length + 1)
    omega

/-- Writing gives back the text that was read exactly when it was in lower case. -/
theorem encode_eq_iff (read : decode characters = some bytes) :
    encode bytes = characters ↔ ∀ character ∈ characters, isLower character = true := by
  induction characters using decode.induct generalizing bytes with
  | case1 =>
    cases read
    simp [encode]
  | case2 high low rest encode_rest =>
    simp only [decode, Option.bind_eq_bind, Option.bind_eq_some_iff, Option.some.injEq] at read
    obtain ⟨upper, upper_read, lower, lower_read, later, later_read, rfl⟩ := read
    obtain ⟨upper_small, upper_lower⟩ := digit_of_value? upper_read
    obtain ⟨lower_small, lower_lower⟩ := digit_of_value? lower_read
    have byte : (UInt8.ofNat (16 * upper + lower)).toNat = 16 * upper + lower := by
      rw [UInt8.toNat_ofNat']
      omega
    have quotient : (16 * upper + lower) / 16 = upper := by omega
    have remainder : (16 * upper + lower) % 16 = lower := by omega
    show digit ((UInt8.ofNat (16 * upper + lower)).toNat / 16) ::
      digit ((UInt8.ofNat (16 * upper + lower)).toNat % 16) :: encode later = _ ↔ _
    rw [byte, quotient, remainder, List.cons.injEq, List.cons.injEq, upper_lower, lower_lower,
      encode_rest later_read]
    simp
  | case3 => cases read

end Iq.Library.Hex
