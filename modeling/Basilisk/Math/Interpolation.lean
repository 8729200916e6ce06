/-
# Linear interpolation on the natural numbers

The value that moves linearly from one number to another over a range, rounded
down.  Rounding does not disturb what matters of a straight line: it starts and
ends at the given values, stays between them and never turns back.
-/

import Mathlib.Algebra.Order.Ring.Nat
import Mathlib.Tactic.Common

namespace Basilisk.Math

/-- The value at a point of a range, on the line from `initial` to `final`, rounded down. -/
def interpolate (start finish initial final point : ℕ) : ℕ :=
  (initial * (finish - point) + final * (point - start)) / (finish - start)

variable {start finish initial final point later : ℕ}

theorem interpolate_start (proper : start < finish) :
    interpolate start finish initial final start = initial := by
  unfold interpolate
  rw [Nat.sub_self, Nat.mul_zero, Nat.add_zero, Nat.mul_div_cancel _ (Nat.sub_pos_of_lt proper)]

theorem interpolate_finish (proper : start < finish) :
    interpolate start finish initial final finish = final := by
  unfold interpolate
  rw [Nat.sub_self, Nat.mul_zero, Nat.zero_add, Nat.mul_div_cancel _ (Nat.sub_pos_of_lt proper)]

/-- A rising line does not fall. -/
theorem interpolate_mono (rising : initial ≤ final) (first : start ≤ point)
    (ordered : point ≤ later) (last : later ≤ finish) :
    interpolate start finish initial final point ≤
      interpolate start finish initial final later := by
  apply Nat.div_le_div_right
  obtain ⟨gone, rfl⟩ := Nat.exists_eq_add_of_le first
  obtain ⟨passed, rfl⟩ := Nat.exists_eq_add_of_le ordered
  obtain ⟨left, rfl⟩ := Nat.exists_eq_add_of_le last
  have step : initial * passed ≤ final * passed := Nat.mul_le_mul_right _ rising
  have before : start + gone + passed + left - (start + gone) = passed + left := by omega
  have after : start + gone + passed + left - (start + gone + passed) = left := by omega
  have elapsed : start + gone - start = gone := by omega
  have elapsed' : start + gone + passed - start = gone + passed := by omega
  rw [before, after, elapsed, elapsed', Nat.mul_add, Nat.mul_add]
  omega

/-- Read from the other end, the line has its ends exchanged. -/
theorem interpolate_reverse (first : start ≤ point) (last : point ≤ finish) :
    interpolate start finish initial final point =
      interpolate start finish final initial (start + finish - point) := by
  unfold interpolate
  have toFinish : finish - (start + finish - point) = point - start := by omega
  have toStart : start + finish - point - start = finish - point := by omega
  rw [toFinish, toStart, Nat.add_comm]

/-- A falling line does not rise. -/
theorem interpolate_anti (falling : final ≤ initial) (first : start ≤ point)
    (ordered : point ≤ later) (last : later ≤ finish) :
    interpolate start finish initial final later ≤
      interpolate start finish initial final point := by
  rw [interpolate_reverse first (ordered.trans last),
    interpolate_reverse (first.trans ordered) last]
  exact interpolate_mono falling (by omega) (by omega) (by omega)

/-- The line stays between its ends. -/
theorem interpolate_mem (proper : start < finish) (first : start ≤ point)
    (last : point ≤ finish) :
    min initial final ≤ interpolate start finish initial final point ∧
      interpolate start finish initial final point ≤ max initial final := by
  have atStart : interpolate start finish initial final start = initial := interpolate_start proper
  have atFinish : interpolate start finish initial final finish = final :=
    interpolate_finish proper
  rcases Nat.le_total initial final with rising | falling
  · have up := interpolate_mono rising le_rfl first last
    have down := interpolate_mono rising first last le_rfl
    omega
  · have up := interpolate_anti falling le_rfl first last
    have down := interpolate_anti falling first last le_rfl
    omega

end Basilisk.Math
