/-
# Constant-product arithmetic

The pricing formulas of a constant-product market on natural numbers.  What a
trade takes out is rounded down and what it has to pay in is rounded up, so the
product of the two reserves never falls.  Taking out a proper part of a positive
reserve, rounded down, always leaves something, and leaves every remaining share at
least what was behind it.
-/

import Mathlib.Algebra.Order.Ring.Nat
import Mathlib.Tactic.Common
import Mathlib.Tactic.Ring

namespace Basilisk.Math

variable {reserveIn reserveOut amount paid price fee reserve part total : ℕ}

/-- Paying out at most what an exact input buys. -/
theorem product_le_of_exact_in (priced : paid ≤ reserveOut * amount / (reserveIn + amount)) :
    reserveIn * reserveOut ≤ (reserveIn + amount) * (reserveOut - paid) := by
  have covered : paid * (reserveIn + amount) ≤ reserveOut * amount :=
    (Nat.mul_le_mul_right _ priced).trans (Nat.div_mul_le_self _ _)
  rw [Nat.mul_sub, Nat.mul_comm (reserveIn + amount) paid]
  apply Nat.le_sub_of_add_le
  calc reserveIn * reserveOut + paid * (reserveIn + amount)
      ≤ reserveIn * reserveOut + reserveOut * amount := Nat.add_le_add_left covered _
    _ = (reserveIn + amount) * reserveOut := by rw [Nat.add_mul, Nat.mul_comm amount]

/-- Paying in at least what an exact output costs; no output costs nothing. -/
theorem product_le_of_exact_out (below : amount < reserveOut)
    (priced : 0 < amount → reserveIn * amount / (reserveOut - amount) < price) :
    reserveIn * reserveOut ≤ (reserveIn + price) * (reserveOut - amount) := by
  obtain rfl | positive := Nat.eq_zero_or_pos amount
  · exact Nat.mul_le_mul_right _ (Nat.le_add_right _ _)
  have rest : 0 < reserveOut - amount := Nat.sub_pos_of_lt below
  have covered : reserveIn * amount ≤ price * (reserveOut - amount) :=
    ((Nat.div_lt_iff_lt_mul rest).mp (priced positive)).le
  have whole : reserveOut = (reserveOut - amount) + amount := by omega
  calc reserveIn * reserveOut
      = reserveIn * (reserveOut - amount) + reserveIn * amount := by
        rw [← Nat.mul_add, ← whole]
    _ ≤ reserveIn * (reserveOut - amount) + price * (reserveOut - amount) :=
        Nat.add_le_add_left covered _
    _ = (reserveIn + price) * (reserveOut - amount) := (Nat.add_mul _ _ _).symm

/-- A proper part of a positive reserve is less than all of it. -/
theorem part_lt_of_lt (proper : part < total) (positive : 0 < reserve) :
    part * reserve / total < reserve := by
  rw [Nat.div_lt_iff_lt_mul (Nat.zero_lt_of_lt proper), Nat.mul_comm reserve total]
  exact Nat.mul_lt_mul_of_pos_right proper positive

section Shares

variable {product product' product'' total' total'' shares : ℕ}

/-- What is behind two shares, one in each reserve, is at most what is behind two shares of
another total and product. -/
def PerShareLe (product total product' total' : ℕ) : Prop :=
  product * total' ^ 2 ≤ product' * total ^ 2

theorem PerShareLe.of_le (grown : product ≤ product') : PerShareLe product total product' total :=
  Nat.mul_le_mul_right _ grown

theorem PerShareLe.trans (positive : 0 < total')
    (first : PerShareLe product total product' total')
    (second : PerShareLe product' total' product'' total'') :
    PerShareLe product total product'' total'' := by
  refine Nat.le_of_mul_le_mul_right ?_ (Nat.pow_pos positive : 0 < total' ^ 2)
  calc product * total'' ^ 2 * total' ^ 2
      = product * total' ^ 2 * total'' ^ 2 := Nat.mul_right_comm _ _ _
    _ ≤ product' * total ^ 2 * total'' ^ 2 := Nat.mul_le_mul_right _ first
    _ = product' * total'' ^ 2 * total ^ 2 := Nat.mul_right_comm _ _ _
    _ ≤ product'' * total' ^ 2 * total ^ 2 := Nat.mul_le_mul_right _ second
    _ = product'' * total ^ 2 * total' ^ 2 := Nat.mul_right_comm _ _ _

/-- Each of the reserves keeps what is behind a share. -/
theorem PerShareLe.of_reserves {reserveA reserveB reserveA' reserveB' : ℕ}
    (keptA : reserveA * total' ≤ reserveA' * total)
    (keptB : reserveB * total' ≤ reserveB' * total) :
    PerShareLe (reserveA * reserveB) total (reserveA' * reserveB') total' :=
  calc reserveA * reserveB * total' ^ 2
      = reserveA * total' * (reserveB * total') := by ring
    _ ≤ reserveA' * total * (reserveB' * total) := Nat.mul_le_mul keptA keptB
    _ = reserveA' * reserveB' * total ^ 2 := by ring

/-- Shares that are burned take their part of the reserve, rounded down. -/
theorem kept_of_burned (left : reserve = amount + part * reserve / total) :
    reserve * (total - part) ≤ amount * total := by
  have taken : part * reserve / total * total ≤ part * reserve := Nat.div_mul_le_self _ _
  have whole : reserve * total = amount * total + part * reserve / total * total := by
    rw [← Nat.add_mul, ← left]
  rw [Nat.mul_sub, Nat.mul_comm reserve part]
  omega

/-- Shares that are minted are paid for with at least their part of the reserve. -/
theorem kept_of_minted (fair : shares * reserve ≤ paid * total) :
    reserve * (total + shares) ≤ (reserve + paid) * total := by
  rw [Nat.mul_add, Nat.add_mul, Nat.mul_comm reserve shares]
  exact Nat.add_le_add_left fair _

end Shares

end Basilisk.Math
