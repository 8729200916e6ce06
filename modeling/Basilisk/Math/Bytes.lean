/-
# Little-endian byte strings

A number and its bytes, the lowest first, at any width.  Cutting such a string
takes a remainder and appending another one adds a multiple of a power of 256, so
that what is packed into an identifier byte by byte can be reasoned about as plain
arithmetic.
-/

import Mathlib.Data.Nat.Digits.Defs
import Mathlib.Tactic.Common

namespace Basilisk.Math

/-- The low `width` bytes of a number: `to_le_bytes` of a word of that width. -/
def toLe : (width n : ℕ) → List UInt8
  | 0, _ => []
  | width + 1, n => n.toUInt8 :: toLe width (n / 256)

/-- The number with the given bytes: `from_le_bytes`. -/
def fromLe (bytes : List UInt8) : ℕ :=
  Nat.ofDigits 256 (bytes.map UInt8.toNat)

theorem fromLe_cons (byte : UInt8) (bytes : List UInt8) :
    fromLe (byte :: bytes) = byte.toNat + 256 * fromLe bytes := by
  rw [fromLe, List.map_cons, Nat.ofDigits_cons]
  rfl

/-- What is appended counts from the first power the string does not reach. -/
theorem fromLe_append (bytes bytes' : List UInt8) :
    fromLe (bytes ++ bytes') = fromLe bytes + 256 ^ bytes.length * fromLe bytes' := by
  unfold fromLe
  rw [List.map_append, Nat.ofDigits_append, List.length_map]

/-- A word of `width` bytes holds the remainder. -/
theorem fromLe_toLe (width n : ℕ) : fromLe (toLe width n) = n % 256 ^ width := by
  induction width generalizing n with
  | zero =>
      rw [Nat.pow_zero, Nat.mod_one]
      rfl
  | succ width ih =>
      have low : n.toUInt8.toNat = n % 256 := UInt8.toNat_ofNat'
      rw [toLe, fromLe_cons, ih, low, Nat.pow_succ', Nat.mod_mul]

/-- The first bytes of a wide word are the bytes of a narrower one. -/
theorem take_toLe {count width : ℕ} (narrower : count ≤ width) (n : ℕ) :
    (toLe width n).take count = toLe count n := by
  induction count generalizing width n with
  | zero => rfl
  | succ count ih =>
      obtain ⟨width, rfl⟩ : ∃ wide, width = wide + 1 := Nat.exists_eq_add_one.mpr (by omega)
      rw [toLe, toLe, List.take_succ_cons, ih (Nat.le_of_succ_le_succ narrower)]

end Basilisk.Math
