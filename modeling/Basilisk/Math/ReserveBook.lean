/-
# Reserves and the books about them

Whoever reserves balances also keeps books about it.  As long as reserves and books
move by the same amounts, what is reserved beyond the books stays the same; what is
reserved and never booked shows up there and adds up over a whole history.
-/

import Basilisk.Math.Ledger

namespace Basilisk.Math

universe u v

/-- Reserves, and what somebody's books account for. -/
structure ReserveBook (Account : Type u) (Currency : Type v) where
  reserved : Account → Currency → ℕ
  booked : Account → Currency → ℕ

namespace ReserveBook

variable {Account : Type u} {Currency : Type v} {a b c : ReserveBook Account Currency}

/-- Everything that is booked is reserved. -/
def Covered (a : ReserveBook Account Currency) : Prop :=
  ∀ who currency, a.booked who currency ≤ a.reserved who currency

/-- What is reserved beyond the books is the same. -/
def SameBeyond (a b : ReserveBook Account Currency) : Prop :=
  ∀ who currency, b.reserved who currency + a.booked who currency =
    a.reserved who currency + b.booked who currency

/-- What is reserved beyond the books has not become less. -/
def GrowsBeyond (a b : ReserveBook Account Currency) : Prop :=
  ∀ who currency, a.reserved who currency + b.booked who currency ≤
    b.reserved who currency + a.booked who currency

theorem SameBeyond.grows (same : SameBeyond a b) : GrowsBeyond a b :=
  fun who currency => (same who currency).ge

theorem SameBeyond.of_eq (reserved : b.reserved = a.reserved) (booked : b.booked = a.booked) :
    SameBeyond a b := by
  intro who currency
  rw [reserved, booked]

theorem GrowsBeyond.trans (first : GrowsBeyond a b) (second : GrowsBeyond b c) :
    GrowsBeyond a c := by
  intro who currency
  have before := first who currency
  have after := second who currency
  omega

/-- If nothing was added on the way, nothing was added on any part of it. -/
theorem sameBeyond_trans_iff (first : GrowsBeyond a b) (second : GrowsBeyond b c) :
    SameBeyond a c ↔ SameBeyond a b ∧ SameBeyond b c := by
  have parts (who : Account) (currency : Currency) :=
    And.intro (first who currency) (second who currency)
  constructor
  · intro total
    constructor
    · intro who currency
      have sum := total who currency
      have grown := parts who currency
      omega
    · intro who currency
      have sum := total who currency
      have grown := parts who currency
      omega
  · rintro ⟨earlier, later⟩ who currency
    have before := earlier who currency
    have after := later who currency
    omega

theorem GrowsBeyond.covered (grows : GrowsBeyond a b) (covered : Covered a) : Covered b := by
  intro who currency
  have before := covered who currency
  have rest := grows who currency
  omega

/-- What a book with one entry rewritten says. -/
theorem update_apply_add [DecidableEq Account] (book : Account → ℕ) (who other : Account)
    (value : ℕ) :
    Function.update book who value other + (if who = other then book who else 0) =
      book other + if who = other then value else 0 := by
  rw [Function.update_apply]
  by_cases here : who = other
  · rw [if_pos here.symm, if_pos here, if_pos here, here]
    exact Nat.add_comm _ _
  · rw [if_neg (Ne.symm here), if_neg here, if_neg here]

section Entries

variable [DecidableEq Account] [DecidableEq Currency]
variable {who : Account} {currency : Currency} {amount : ℕ}

/-- An amount is reserved and booked. -/
theorem sameBeyond_of_credit
    (reserved : b.reserved = Ledger.credit a.reserved who currency amount)
    (booked : b.booked = Ledger.credit a.booked who currency amount) : SameBeyond a b := by
  intro other asset
  rw [reserved, booked, Ledger.credit_apply, Ledger.credit_apply]
  split_ifs with here
  · rw [here.1, here.2]
    omega
  · rfl

/-- An amount that was booked is released and taken off the books. -/
theorem sameBeyond_of_debit (covered : Covered a)
    (reserved : b.reserved = Ledger.debit a.reserved who currency
      (min amount (a.reserved who currency)))
    (booked : a.booked = Ledger.credit b.booked who currency amount) : SameBeyond a b := by
  have enough := covered who currency
  intro other asset
  rw [booked, Ledger.credit_apply, if_pos ⟨rfl, rfl⟩] at enough
  rw [reserved, booked, Ledger.credit_apply, Ledger.debit_apply,
    min_eq_left ((Nat.le_add_left _ _).trans enough)]
  split_ifs with here
  · rw [here.1, here.2]
    omega
  · rfl

end Entries

end ReserveBook

end Basilisk.Math
