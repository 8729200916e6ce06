/-
# Payments out of reserves

A list of payments is settled one after the other out of what the senders have
reserved, or released back to them.  As long as the reserves cover everything
that is drawn from them, both are exact: reserves fall by what is drawn, and free
balances rise by what is received, or by what is drawn when it is released.  A
reserve that is too small pays what it has; `capped` is what a list of payments
then really pays, and that is always covered.
-/

import Basilisk.Math.Ledger
import Mathlib.Algebra.BigOperators.Group.List.Basic
import Mathlib.Algebra.Order.Ring.Nat

namespace Basilisk.Math

universe u v

/-- A payment out of the sender's reserve. -/
structure Payment (Account : Type u) (Currency : Type v) where
  sender : Account
  receiver : Account
  currency : Currency
  amount : ℕ

variable {Account : Type u} {Currency : Type v}
variable [DecidableEq Account] [DecidableEq Currency]

/-- What a list of payments draws from one reserve. -/
def drawn (payments : List (Payment Account Currency)) (who : Account)
    (currency : Currency) : ℕ :=
  (payments.map fun payment =>
    if who = payment.sender ∧ currency = payment.currency then payment.amount else 0).sum

/-- What a list of payments brings to one account. -/
def received (payments : List (Payment Account Currency)) (who : Account)
    (currency : Currency) : ℕ :=
  (payments.map fun payment =>
    if who = payment.receiver ∧ currency = payment.currency then payment.amount else 0).sum

namespace Ledger

/-- Settle one payment. -/
def settle (ledger : Ledger Account Currency) (payment : Payment Account Currency) :
    Ledger Account Currency :=
  ledger.repatriateReserved payment.currency payment.sender payment.receiver payment.amount

/-- Release what one payment would have drawn. -/
def release (ledger : Ledger Account Currency) (payment : Payment Account Currency) :
    Ledger Account Currency :=
  ledger.unreserve payment.currency payment.sender payment.amount

variable {ledger : Ledger Account Currency} {payments : List (Payment Account Currency)}

/-- A reserve that covers a list of payments covers the first, and what is left
covers the others. -/
theorem covered_tail {payment : Payment Account Currency}
    {reserved : Account → Currency → ℕ}
    (covered : ∀ who currency, drawn (payment :: payments) who currency ≤ reserved who currency) :
    payment.amount ≤ reserved payment.sender payment.currency ∧
      ∀ who currency, drawn payments who currency ≤
        debit reserved payment.sender payment.currency payment.amount who currency := by
  have first := covered payment.sender payment.currency
  simp only [drawn, List.map_cons, List.sum_cons, and_self, if_true] at covered first
  constructor
  · omega
  · intro who currency
    have bound := covered who currency
    rw [debit_apply]
    unfold drawn
    split_ifs at bound ⊢ <;> omega

/-- Settling takes exactly what is drawn from the reserves and pays exactly what
is received. -/
theorem settle_all
    (covered : ∀ who currency, drawn payments who currency ≤ ledger.reserved who currency)
    (who : Account) (currency : Currency) :
    (payments.foldl settle ledger).reserved who currency + drawn payments who currency =
        ledger.reserved who currency ∧
      (payments.foldl settle ledger).free who currency =
        ledger.free who currency + received payments who currency := by
  induction payments generalizing ledger with
  | nil => simp [drawn, received]
  | cons payment payments ih =>
      obtain ⟨first, others⟩ := covered_tail covered
      have exactly : min payment.amount (ledger.reserved payment.sender payment.currency) =
          payment.amount := Nat.min_eq_left first
      have reserved : (ledger.settle payment).reserved =
          debit ledger.reserved payment.sender payment.currency payment.amount := by
        simp only [settle, repatriateReserved, exactly]
      have free : (ledger.settle payment).free =
          credit ledger.free payment.receiver payment.currency payment.amount := by
        simp only [settle, repatriateReserved, exactly]
      rw [← reserved] at others
      obtain ⟨left, gained⟩ := ih others
      rw [reserved, debit_apply] at left
      rw [free, credit_apply] at gained
      have enough := covered who currency
      simp only [List.foldl_cons, drawn, received, List.map_cons, List.sum_cons] at *
      constructor
      · split_ifs at left enough ⊢ <;> omega
      · split_ifs at gained ⊢ <;> omega

/-- Settling lowers no free balance, whether or not the reserves cover it. -/
theorem free_le_settle (payments : List (Payment Account Currency))
    (ledger : Ledger Account Currency) (who : Account) (currency : Currency) :
    ledger.free who currency ≤ (payments.foldl settle ledger).free who currency := by
  induction payments generalizing ledger with
  | nil => exact le_rfl
  | cons payment payments ih =>
      have first : ledger.free who currency ≤ (ledger.settle payment).free who currency := by
        show _ ≤ credit _ _ _ _ who currency
        rw [credit_apply]
        split_ifs
        · exact Nat.le_add_right _ _
        · exact le_rfl
      exact first.trans (ih _)

/-- Releasing takes from every reserve what would have been drawn, as far as it is there,
and leaves it with its owner. -/
theorem release_any (payments : List (Payment Account Currency))
    (ledger : Ledger Account Currency) (who : Account) (currency : Currency) :
    (payments.foldl release ledger).reserved who currency =
        ledger.reserved who currency - drawn payments who currency ∧
      (payments.foldl release ledger).totalBalance who currency =
        ledger.totalBalance who currency := by
  induction payments generalizing ledger with
  | nil => exact ⟨rfl, rfl⟩
  | cons payment payments ih =>
      obtain ⟨reserved, total⟩ := ih (ledger.release payment)
      rw [List.foldl_cons, reserved, total]
      constructor
      · simp only [release, unreserve, debit_apply, drawn, List.map_cons, List.sum_cons]
        split_ifs with here
        · rw [here.1, here.2]
          omega
        · omega
      · exact totalBalance_unreserve ledger _ _ _ who currency

/-- The payments that are really made out of these reserves: each one is cut down to what
those before it have left. -/
def capped : (Account → Currency → ℕ) → List (Payment Account Currency) →
    List (Payment Account Currency)
  | _, [] => []
  | reserved, payment :: payments =>
      let paid := min payment.amount (reserved payment.sender payment.currency)
      { payment with amount := paid } ::
        capped (debit reserved payment.sender payment.currency paid) payments

/-- Settling pays what is really paid. -/
theorem foldl_settle_capped (payments : List (Payment Account Currency))
    (ledger : Ledger Account Currency) :
    (capped ledger.reserved payments).foldl settle ledger = payments.foldl settle ledger := by
  induction payments generalizing ledger with
  | nil => rfl
  | cons payment payments ih =>
      have first : ledger.settle { payment with
          amount := min payment.amount (ledger.reserved payment.sender payment.currency) } =
          ledger.settle payment := by
        simp only [settle, repatriateReserved, min_assoc, min_self]
      rw [capped, List.foldl_cons, List.foldl_cons, first]
      exact ih (ledger.settle payment)

/-- What is really drawn from a reserve is what there is of what is asked for. -/
theorem drawn_capped (reserved : Account → Currency → ℕ)
    (payments : List (Payment Account Currency)) (who : Account) (currency : Currency) :
    drawn (capped reserved payments) who currency =
      min (drawn payments who currency) (reserved who currency) := by
  induction payments generalizing reserved with
  | nil => simp [capped, drawn]
  | cons payment payments ih =>
      have rest := ih (debit reserved payment.sender payment.currency
        (min payment.amount (reserved payment.sender payment.currency)))
      rw [debit_apply] at rest
      simp only [capped, drawn, List.map_cons, List.sum_cons] at rest ⊢
      rw [rest]
      split_ifs with here
      · rw [here.1, here.2]
        omega
      · omega

/-- Settling, whether or not the reserves cover it. -/
theorem settle_any (payments : List (Payment Account Currency))
    (ledger : Ledger Account Currency) (who : Account) (currency : Currency) :
    (payments.foldl settle ledger).reserved who currency =
        ledger.reserved who currency - drawn payments who currency ∧
      (payments.foldl settle ledger).free who currency =
        ledger.free who currency + received (capped ledger.reserved payments) who currency := by
  have covered : ∀ who currency, drawn (capped ledger.reserved payments) who currency ≤
      ledger.reserved who currency := by
    intro who currency
    rw [drawn_capped]
    exact min_le_right _ _
  have settled := settle_all covered who currency
  rw [foldl_settle_capped, drawn_capped] at settled
  omega

end Ledger

end Basilisk.Math
