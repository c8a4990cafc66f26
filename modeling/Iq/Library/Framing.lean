import Mathlib.Algebra.Order.Group.Nat
import Mathlib.Tactic.Common

/-!
# Framed values

A list of byte strings, each after its length in a fixed number of bytes. The list is read back from
its bytes, so no two lists are framed alike.
-/

namespace Iq.Library

/-- The bytes of a number, the most significant one first. -/
def bigEndian : Nat → Nat → List UInt8
  | 0, _ => []
  | width + 1, value => UInt8.ofNat (value / 256 ^ width) :: bigEndian width (value % 256 ^ width)

/-- A number takes its width. -/
theorem length_bigEndian (width value : Nat) : (bigEndian width value).length = width := by
  induction width generalizing value with
  | zero => rfl
  | succ width length_rest => rw [bigEndian, List.length_cons, length_rest]

/-- Numbers that fit are told apart. -/
theorem bigEndian_injective {width value other : Nat} (small : value < 256 ^ width)
    (small_other : other < 256 ^ width) (same : bigEndian width value = bigEndian width other) :
    value = other := by
  induction width generalizing value other with
  | zero => omega
  | succ width injective_rest =>
    have positive : 0 < 256 ^ width := Nat.pow_pos (by decide)
    obtain ⟨lead, rest⟩ := List.cons.inj same
    have quotient : value / 256 ^ width < 256 := by
      rw [Nat.div_lt_iff_lt_mul positive, Nat.mul_comm]
      exact small
    have quotient_other : other / 256 ^ width < 256 := by
      rw [Nat.div_lt_iff_lt_mul positive, Nat.mul_comm]
      exact small_other
    have leads : value / 256 ^ width = other / 256 ^ width := by
      have numbers := congrArg UInt8.toNat lead
      rwa [UInt8.toNat_ofNat', UInt8.toNat_ofNat', Nat.mod_eq_of_lt quotient,
        Nat.mod_eq_of_lt quotient_other] at numbers
    have remainders := injective_rest (Nat.mod_lt _ positive) (Nat.mod_lt _ positive) rest
    rw [← Nat.div_add_mod value (256 ^ width), leads, remainders, Nat.div_add_mod]

/-- Byte strings, each after its length. -/
def framed (width : Nat) (values : List (List UInt8)) : List UInt8 :=
  values.flatMap fun value => bigEndian width value.length ++ value

/-- Framed values are told apart. -/
theorem framed_injective {width : Nat} {values others : List (List UInt8)}
    (short : ∀ value ∈ values, value.length < 256 ^ (width + 1))
    (short_others : ∀ value ∈ others, value.length < 256 ^ (width + 1))
    (same : framed (width + 1) values = framed (width + 1) others) : values = others := by
  have some_byte : ∀ (value : List UInt8) (rest : List (List UInt8)),
      framed (width + 1) (value :: rest) ≠ [] := by
    intro value rest empty
    have long := congrArg List.length empty
    simp [framed, length_bigEndian] at long
  induction values generalizing others with
  | nil =>
    cases others with
    | nil => rfl
    | cons value rest => exact absurd same.symm (some_byte value rest)
  | cons value rest injective_rest =>
    cases others with
    | nil => exact absurd same (some_byte value rest)
    | cons other later =>
      rw [List.forall_mem_cons] at short short_others
      simp only [framed, List.flatMap_cons, List.append_assoc] at same
      have sizes : (bigEndian (width + 1) value.length).length =
          (bigEndian (width + 1) other.length).length := by
        rw [length_bigEndian, length_bigEndian]
      obtain ⟨lengths, same⟩ := List.append_inj same sizes
      have long := bigEndian_injective short.1 short_others.1 lengths
      obtain ⟨rfl, -⟩ := List.append_inj same long
      rw [injective_rest short.2 short_others.2 (List.append_cancel_left same)]

end Iq.Library
