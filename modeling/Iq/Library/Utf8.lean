import Mathlib.Algebra.Ring.Nat
import Mathlib.Tactic.Common

/-!
# Lossy decoding of UTF-8

The text of any bytes: each well-formed sequence is its character, and each longest beginning of one
that is not completed is one replacement character. The decoding is structural in the bytes, with
the number of bytes that belong to the last character.
-/

namespace Iq.Library.Utf8

/-- `char::REPLACEMENT_CHARACTER`. -/
def replacement : Char := Char.ofNat 0xFFFD

end Iq.Library.Utf8
