/-
# A plain multi-currency ledger

Every account holds, in every currency, a free and a reserved balance, and every
currency has a total issuance.  A transfer succeeds exactly when the sender's
free balance covers the amount; there are no existential deposits and no locks.
Reserving moves free balance aside, and releasing or repatriating moves as much
of the requested amount as is really reserved.  Accounts and currencies are
arbitrary types with decidable equality.
-/

import Mathlib.Algebra.BigOperators.Group.Finset.Basic
import Mathlib.Data.Nat.Notation
import Mathlib.Logic.Function.Basic
import Mathlib.Tactic.Common

namespace Basilisk.Math

universe u v

/-- Balances of every account in every currency. -/
structure Ledger (Account : Type u) (Currency : Type v) where
  free : Account → Currency → ℕ
  reserved : Account → Currency → ℕ
  issuance : Currency → ℕ

namespace Ledger

variable {Account : Type u} {Currency : Type v}
variable [DecidableEq Account] [DecidableEq Currency]

/-- Raise one entry of a balance table. -/
def credit (table : Account → Currency → ℕ) (who : Account) (currency : Currency)
    (amount : ℕ) : Account → Currency → ℕ :=
  Function.update table who
    (Function.update (table who) currency (table who currency + amount))

/-- Lower one entry of a balance table. -/
def debit (table : Account → Currency → ℕ) (who : Account) (currency : Currency)
    (amount : ℕ) : Account → Currency → ℕ :=
  Function.update table who
    (Function.update (table who) currency (table who currency - amount))

/-- Changing one entry of a balance table leaves the others alone. -/
theorem update_entry_apply (table : Account → Currency → ℕ) (who other : Account)
    (currency asset : Currency) (change : ℕ → ℕ) :
    Function.update table who
        (Function.update (table who) currency (change (table who currency))) other asset =
      if other = who ∧ asset = currency then change (table other asset)
      else table other asset := by
  by_cases hwho : other = who
  · subst hwho
    by_cases hasset : asset = currency
    · subst hasset
      simp
    · simp [hasset]
  · simp [hwho]

theorem credit_apply (table : Account → Currency → ℕ) (who other : Account)
    (currency asset : Currency) (amount : ℕ) :
    credit table who currency amount other asset =
      if other = who ∧ asset = currency then table other asset + amount
      else table other asset :=
  update_entry_apply table who other currency asset (· + amount)

theorem debit_apply (table : Account → Currency → ℕ) (who other : Account)
    (currency asset : Currency) (amount : ℕ) :
    debit table who currency amount other asset =
      if other = who ∧ asset = currency then table other asset - amount
      else table other asset :=
  update_entry_apply table who other currency asset (· - amount)

/-- `amount` at one entry of a balance table, and nothing elsewhere. -/
def entry (who : Account) (currency : Currency) (amount : ℕ) (account : Account)
    (asset : Currency) : ℕ :=
  if account = who ∧ asset = currency then amount else 0

@[simp]
theorem entry_self (who : Account) (currency : Currency) (amount : ℕ) :
    entry who currency amount who currency = amount :=
  if_pos ⟨rfl, rfl⟩

@[simp]
theorem entry_zero (who account : Account) (currency asset : Currency) :
    entry who currency 0 account asset = 0 := by
  unfold entry
  split_ifs
  · rfl
  · rfl

theorem entry_of_ne_account {who account : Account} (distinct : account ≠ who)
    (currency asset : Currency) (amount : ℕ) :
    entry who currency amount account asset = 0 :=
  if_neg fun here => distinct here.1

theorem entry_of_ne_currency {currency asset : Currency} (distinct : asset ≠ currency)
    (who account : Account) (amount : ℕ) :
    entry who currency amount account asset = 0 :=
  if_neg fun here => distinct here.2

/-- Amounts at one entry add up. -/
theorem entry_add (who account : Account) (currency asset : Currency) (first second : ℕ) :
    entry who currency (first + second) account asset =
      entry who currency first account asset + entry who currency second account asset := by
  unfold entry
  split_ifs
  · rfl
  · rfl

/-- One entry, summed over accounts that include its own. -/
theorem sum_entry {who : Account} {accounts : Finset Account} (member : who ∈ accounts)
    (currency asset : Currency) (amount : ℕ) :
    ∑ account ∈ accounts, entry who currency amount account asset =
      if asset = currency then amount else 0 := by
  rw [Finset.sum_eq_single who]
  · simp [entry]
  · intro account _ other
    exact entry_of_ne_account other currency asset amount
  · intro missing
    exact absurd member missing

/-- Free and reserved balance together. -/
def totalBalance (ledger : Ledger Account Currency) (who : Account)
    (currency : Currency) : ℕ :=
  ledger.free who currency + ledger.reserved who currency

/-- Move free balance between two accounts. -/
def transfer (ledger : Ledger Account Currency) (currency : Currency)
    (sender receiver : Account) (amount : ℕ) : Option (Ledger Account Currency) :=
  if amount ≤ ledger.free sender currency then
    some { ledger with
      free := credit (debit ledger.free sender currency amount)
        receiver currency amount }
  else none

/-- Mint into an account, unless the issuance would leave the machine word. -/
def deposit (bound : ℕ) (ledger : Ledger Account Currency) (currency : Currency)
    (who : Account) (amount : ℕ) : Option (Ledger Account Currency) :=
  if ledger.issuance currency + amount < bound then
    some { ledger with
      free := credit ledger.free who currency amount
      issuance := Function.update ledger.issuance currency
        (ledger.issuance currency + amount) }
  else none

/-- Burn from an account. -/
def withdraw (ledger : Ledger Account Currency) (currency : Currency)
    (who : Account) (amount : ℕ) : Option (Ledger Account Currency) :=
  if amount ≤ ledger.free who currency then
    some { ledger with
      free := debit ledger.free who currency amount
      issuance := Function.update ledger.issuance currency
        (ledger.issuance currency - amount) }
  else none

/-- Move free balance into the account's reserve. -/
def reserve (ledger : Ledger Account Currency) (currency : Currency)
    (who : Account) (amount : ℕ) : Option (Ledger Account Currency) :=
  if amount ≤ ledger.free who currency then
    some { ledger with
      free := debit ledger.free who currency amount
      reserved := credit ledger.reserved who currency amount }
  else none

/-- Release reserved balance, as far as it is there. -/
def unreserve (ledger : Ledger Account Currency) (currency : Currency)
    (who : Account) (amount : ℕ) : Ledger Account Currency :=
  let released := min amount (ledger.reserved who currency)
  { ledger with
    free := credit ledger.free who currency released
    reserved := debit ledger.reserved who currency released }

/-- Pay another account out of reserved balance, as far as it is there. -/
def repatriateReserved (ledger : Ledger Account Currency) (currency : Currency)
    (sender receiver : Account) (amount : ℕ) : Ledger Account Currency :=
  let released := min amount (ledger.reserved sender currency)
  { ledger with
    free := credit ledger.free receiver currency released
    reserved := debit ledger.reserved sender currency released }

variable {ledger ledger' : Ledger Account Currency}
variable {currency asset : Currency} {sender receiver who other : Account}
variable {amount : ℕ}

/-- A transfer succeeds exactly when the sender is covered. -/
theorem transfer_isSome_iff :
    (ledger.transfer currency sender receiver amount).isSome ↔
      amount ≤ ledger.free sender currency := by
  unfold transfer
  split_ifs with covered <;> simp [covered]

/-- A covered transfer succeeds. -/
theorem exists_transfer (covered : amount ≤ ledger.free sender currency)
    (receiver : Account) :
    ∃ ledger', ledger.transfer currency sender receiver amount = some ledger' :=
  ⟨_, if_pos covered⟩

/-- A successful transfer was covered. -/
theorem covered_of_transfer
    (moved : ledger.transfer currency sender receiver amount = some ledger') :
    amount ≤ ledger.free sender currency := by
  unfold transfer at moved
  split_ifs at moved with covered
  exact covered

/-- The free balances after a transfer. -/
theorem free_transfer
    (moved : ledger.transfer currency sender receiver amount = some ledger')
    (other : Account) (asset : Currency) :
    ledger'.free other asset =
      credit (debit ledger.free sender currency amount) receiver currency amount
        other asset := by
  unfold transfer at moved
  split_ifs at moved
  obtain rfl := Option.some.inj moved
  rfl

/-- Other currencies are untouched by a transfer. -/
theorem free_transfer_of_ne_currency
    (moved : ledger.transfer currency sender receiver amount = some ledger')
    (other : Account) (distinct : asset ≠ currency) :
    ledger'.free other asset = ledger.free other asset := by
  rw [free_transfer moved, credit_apply, debit_apply]
  simp [distinct]

/-- Third parties are untouched by a transfer. -/
theorem free_transfer_of_ne
    (moved : ledger.transfer currency sender receiver amount = some ledger')
    (notSender : other ≠ sender) (notReceiver : other ≠ receiver)
    (asset : Currency) :
    ledger'.free other asset = ledger.free other asset := by
  rw [free_transfer moved, credit_apply, debit_apply]
  simp [notSender, notReceiver]

/-- The sender of a real transfer loses exactly the amount. -/
theorem free_transfer_sender
    (moved : ledger.transfer currency sender receiver amount = some ledger')
    (distinct : sender ≠ receiver) :
    ledger'.free sender currency + amount = ledger.free sender currency := by
  have covered := covered_of_transfer moved
  rw [free_transfer moved, credit_apply, debit_apply]
  simp only [distinct, false_and, if_false, and_self, if_true]
  omega

/-- The receiver of a real transfer gains exactly the amount. -/
theorem free_transfer_receiver
    (moved : ledger.transfer currency sender receiver amount = some ledger')
    (distinct : sender ≠ receiver) :
    ledger'.free receiver currency = ledger.free receiver currency + amount := by
  rw [free_transfer moved, credit_apply, debit_apply]
  simp [distinct.symm]

/-- What a real transfer takes from its sender, asset by asset. -/
theorem free_spent
    (moved : ledger.transfer currency sender receiver amount = some ledger')
    (distinct : sender ≠ receiver) (asset : Currency) :
    ledger'.free sender asset + (if asset = currency then amount else 0) =
      ledger.free sender asset := by
  split_ifs with here
  · subst here
    exact free_transfer_sender moved distinct
  · exact free_transfer_of_ne_currency moved sender here

/-- Whoever does not send gains what is sent to it. -/
theorem free_transfer_of_ne_sender
    (moved : ledger.transfer currency sender receiver amount = some ledger')
    (distinct : other ≠ sender) (asset : Currency) :
    ledger'.free other asset = ledger.free other asset +
      if other = receiver ∧ asset = currency then amount else 0 := by
  rw [free_transfer moved, credit_apply, debit_apply]
  simp only [distinct, false_and, if_false]
  split_ifs
  · rfl
  · rfl

/-- What a real transfer brings its receiver, asset by asset. -/
theorem free_received
    (moved : ledger.transfer currency sender receiver amount = some ledger')
    (distinct : sender ≠ receiver) (asset : Currency) :
    ledger'.free receiver asset =
      ledger.free receiver asset + if asset = currency then amount else 0 := by
  rw [free_transfer_of_ne_sender moved distinct.symm]
  simp only [true_and]

/-- Only the sender of a transfer can lose. -/
theorem free_le_transfer_of_ne_sender
    (moved : ledger.transfer currency sender receiver amount = some ledger')
    (notSender : other ≠ sender) (asset : Currency) :
    ledger.free other asset ≤ ledger'.free other asset := by
  rw [free_transfer_of_ne_sender moved notSender]
  exact Nat.le_add_right _ _

/-- No account loses more than the amount. -/
theorem free_le_transfer_add
    (moved : ledger.transfer currency sender receiver amount = some ledger')
    (other : Account) :
    ledger.free other currency ≤ ledger'.free other currency + amount := by
  rw [free_transfer moved, credit_apply, debit_apply]
  split_ifs <;> omega

/-- What a transfer does to every entry, also if it is to the sender itself. -/
theorem free_transfer_add_entry
    (moved : ledger.transfer currency sender receiver amount = some ledger')
    (other : Account) (asset : Currency) :
    ledger'.free other asset + entry sender currency amount other asset =
      ledger.free other asset + entry receiver currency amount other asset := by
  have covered := covered_of_transfer moved
  rw [free_transfer moved, credit_apply, debit_apply]
  unfold entry
  by_cases paying : other = sender ∧ asset = currency
  · rcases paying with ⟨rfl, rfl⟩
    split_ifs <;> omega
  · simp only [paying, if_false]
    split_ifs <;> omega

/-- A transfer between some accounts keeps what they hold together. -/
theorem sum_free_transfer {accounts : Finset Account}
    (moved : ledger.transfer currency sender receiver amount = some ledger')
    (sends : sender ∈ accounts) (receives : receiver ∈ accounts) (asset : Currency) :
    ∑ account ∈ accounts, ledger'.free account asset =
      ∑ account ∈ accounts, ledger.free account asset := by
  have entries : ∑ account ∈ accounts,
        (ledger'.free account asset + entry sender currency amount account asset) =
      ∑ account ∈ accounts,
        (ledger.free account asset + entry receiver currency amount account asset) :=
    Finset.sum_congr rfl fun account _ => free_transfer_add_entry moved account asset
  rw [Finset.sum_add_distrib, Finset.sum_add_distrib, sum_entry sends, sum_entry receives]
    at entries
  exact Nat.add_right_cancel entries

/-- Transfers touch neither reserves nor the issuance. -/
theorem reserved_transfer
    (moved : ledger.transfer currency sender receiver amount = some ledger') :
    ledger'.reserved = ledger.reserved ∧ ledger'.issuance = ledger.issuance := by
  unfold transfer at moved
  split_ifs at moved
  obtain rfl := Option.some.inj moved
  exact ⟨rfl, rfl⟩

/-- The free balances after minting. -/
theorem free_deposit {bound : ℕ}
    (minted : ledger.deposit bound currency who amount = some ledger')
    (other : Account) (asset : Currency) :
    ledger'.free other asset = credit ledger.free who currency amount other asset := by
  unfold deposit at minted
  split_ifs at minted
  obtain rfl := Option.some.inj minted
  rfl

/-- The free balances after burning. -/
theorem free_withdraw
    (burned : ledger.withdraw currency who amount = some ledger')
    (other : Account) (asset : Currency) :
    ledger'.free other asset = debit ledger.free who currency amount other asset := by
  unfold withdraw at burned
  split_ifs at burned
  obtain rfl := Option.some.inj burned
  rfl

/-- A covered amount can be burned. -/
theorem exists_withdraw (covered : amount ≤ ledger.free who currency) :
    ∃ ledger', ledger.withdraw currency who amount = some ledger' :=
  ⟨_, if_pos covered⟩

/-- What is burned was covered. -/
theorem covered_of_withdraw
    (burned : ledger.withdraw currency who amount = some ledger') :
    amount ≤ ledger.free who currency := by
  unfold withdraw at burned
  split_ifs at burned with covered
  exact covered

/-- What burning does to every entry. -/
theorem free_withdraw_add_entry
    (burned : ledger.withdraw currency who amount = some ledger')
    (other : Account) (asset : Currency) :
    ledger'.free other asset + entry who currency amount other asset =
      ledger.free other asset := by
  have covered := covered_of_withdraw burned
  rw [free_withdraw burned, debit_apply]
  unfold entry
  split_ifs with here
  · rw [here.1, here.2]
    omega
  · rfl

/-- Burning nothing changes nothing. -/
@[simp]
theorem withdraw_zero : ledger.withdraw currency who 0 = some ledger := by
  unfold withdraw
  simp [debit]

/-- Minting lowers nobody's balance. -/
theorem free_le_deposit {bound : ℕ}
    (minted : ledger.deposit bound currency who amount = some ledger')
    (other : Account) (asset : Currency) :
    ledger.free other asset ≤ ledger'.free other asset := by
  rw [free_deposit minted, credit_apply]
  split_ifs <;> omega

/-- Minting touches only the account it mints to. -/
theorem free_deposit_of_ne {bound : ℕ}
    (minted : ledger.deposit bound currency who amount = some ledger')
    (distinct : other ≠ who) (asset : Currency) :
    ledger'.free other asset = ledger.free other asset := by
  rw [free_deposit minted, credit_apply]
  simp [distinct]

theorem reserved_deposit {bound : ℕ}
    (minted : ledger.deposit bound currency who amount = some ledger') :
    ledger'.reserved = ledger.reserved := by
  unfold deposit at minted
  split_ifs at minted
  obtain rfl := Option.some.inj minted
  rfl

theorem issuance_deposit {bound : ℕ}
    (minted : ledger.deposit bound currency who amount = some ledger') :
    ledger'.issuance = Function.update ledger.issuance currency
      (ledger.issuance currency + amount) := by
  unfold deposit at minted
  split_ifs at minted
  obtain rfl := Option.some.inj minted
  rfl

theorem issuance_withdraw
    (burned : ledger.withdraw currency who amount = some ledger') :
    ledger'.issuance = Function.update ledger.issuance currency
      (ledger.issuance currency - amount) := by
  unfold withdraw at burned
  split_ifs at burned
  obtain rfl := Option.some.inj burned
  rfl

theorem reserved_withdraw
    (burned : ledger.withdraw currency who amount = some ledger') :
    ledger'.reserved = ledger.reserved := by
  unfold withdraw at burned
  split_ifs at burned
  obtain rfl := Option.some.inj burned
  rfl

/-- Burning touches only the account it burns from. -/
theorem free_withdraw_of_ne
    (burned : ledger.withdraw currency who amount = some ledger')
    (distinct : other ≠ who) (asset : Currency) :
    ledger'.free other asset = ledger.free other asset := by
  rw [free_withdraw burned, debit_apply]
  simp [distinct]

section Payments

variable {charged paid : Ledger Account Currency} {native first second : Currency}
variable {charge amount₁ amount₂ : ℕ} {sender₁ receiver₁ sender₂ receiver₂ : Account}

/-- Burning a charge and then moving two currencies succeeds exactly when every payer is
covered, together with the charge where both fall on one entry. -/
theorem exists_payments_iff (distinct : first ≠ second) :
    (∃ charged paid ledger', ledger.withdraw native who charge = some charged ∧
      charged.transfer first sender₁ receiver₁ amount₁ = some paid ∧
      paid.transfer second sender₂ receiver₂ amount₂ = some ledger') ↔
    charge ≤ ledger.free who native ∧
      amount₁ + entry who native charge sender₁ first ≤ ledger.free sender₁ first ∧
      amount₂ + entry who native charge sender₂ second ≤ ledger.free sender₂ second := by
  constructor
  · rintro ⟨charged, paid, last, burned, moved₁, moved₂⟩
    have covered₁ := covered_of_transfer moved₁
    have covered₂ := covered_of_transfer moved₂
    rw [free_transfer_of_ne_currency moved₁ _ distinct.symm] at covered₂
    have entry₁ := free_withdraw_add_entry burned sender₁ first
    have entry₂ := free_withdraw_add_entry burned sender₂ second
    exact ⟨covered_of_withdraw burned, by omega, by omega⟩
  · rintro ⟨covered, covered₁, covered₂⟩
    obtain ⟨charged, burned⟩ := exists_withdraw covered
    have entry₁ := free_withdraw_add_entry burned sender₁ first
    have entry₂ := free_withdraw_add_entry burned sender₂ second
    obtain ⟨paid, moved₁⟩ := exists_transfer
      (show amount₁ ≤ charged.free sender₁ first by omega) receiver₁
    have same := free_transfer_of_ne_currency moved₁ sender₂ distinct.symm
    obtain ⟨last, moved₂⟩ := exists_transfer
      (show amount₂ ≤ paid.free sender₂ second by omega) receiver₂
    exact ⟨charged, paid, last, burned, moved₁, moved₂⟩

variable (burned : ledger.withdraw native who charge = some charged)
  (moved₁ : charged.transfer first sender₁ receiver₁ amount₁ = some paid)
  (moved₂ : paid.transfer second sender₂ receiver₂ amount₂ = some ledger')
include burned moved₁ moved₂

/-- What the charge and the two payments do to every entry. -/
theorem free_payments (other : Account) (asset : Currency) :
    ledger'.free other asset + entry who native charge other asset +
        entry sender₁ first amount₁ other asset + entry sender₂ second amount₂ other asset =
      ledger.free other asset + entry receiver₁ first amount₁ other asset +
        entry receiver₂ second amount₂ other asset := by
  have burning := free_withdraw_add_entry burned other asset
  have moving₁ := free_transfer_add_entry moved₁ other asset
  have moving₂ := free_transfer_add_entry moved₂ other asset
  omega

/-- Only the charge leaves the ledger. -/
theorem issuance_payments :
    ledger'.reserved = ledger.reserved ∧
      ledger'.issuance = Function.update ledger.issuance native
        (ledger.issuance native - charge) := by
  rw [(reserved_transfer moved₂).1, (reserved_transfer moved₁).1, reserved_withdraw burned,
    (reserved_transfer moved₂).2, (reserved_transfer moved₁).2, issuance_withdraw burned]
  exact ⟨rfl, rfl⟩

end Payments

/-- A reservation fails exactly when the free balance does not cover it. -/
theorem reserve_eq_none_iff :
    ledger.reserve currency who amount = none ↔ ledger.free who currency < amount := by
  unfold reserve
  split_ifs with covered
  · simpa using covered
  · simpa using covered

/-- The balances after a reservation. -/
theorem reserve_eq_some_iff :
    ledger.reserve currency who amount = some ledger' ↔
      amount ≤ ledger.free who currency ∧
        ledger' = { ledger with
          free := debit ledger.free who currency amount
          reserved := credit ledger.reserved who currency amount } := by
  unfold reserve
  split_ifs with covered <;> simp [covered, eq_comm]

/-- Other currencies are untouched by a reservation. -/
theorem free_reserve_of_ne_currency
    (reserving : ledger.reserve currency who amount = some ledger') (other : Account)
    (distinct : asset ≠ currency) : ledger'.free other asset = ledger.free other asset := by
  obtain ⟨-, rfl⟩ := reserve_eq_some_iff.mp reserving
  simp [debit_apply, distinct]

/-- Other accounts are untouched by a reservation. -/
theorem free_reserve_of_ne (reserving : ledger.reserve currency who amount = some ledger')
    {other : Account} (apart : other ≠ who) (asset : Currency) :
    ledger'.free other asset = ledger.free other asset := by
  obtain ⟨-, rfl⟩ := reserve_eq_some_iff.mp reserving
  simp [debit_apply, apart]

/-- Reserving only sets balance aside. -/
theorem totalBalance_reserve
    (reserving : ledger.reserve currency who amount = some ledger') (other : Account)
    (asset : Currency) : ledger'.totalBalance other asset = ledger.totalBalance other asset := by
  obtain ⟨covered, rfl⟩ := reserve_eq_some_iff.mp reserving
  simp only [totalBalance, debit_apply, credit_apply]
  split_ifs with here
  · rw [here.1, here.2]
    omega
  · rfl

/-- Releasing only puts balance back. -/
theorem totalBalance_unreserve (ledger : Ledger Account Currency) (currency : Currency)
    (who : Account) (amount : ℕ) (other : Account) (asset : Currency) :
    (ledger.unreserve currency who amount).totalBalance other asset =
      ledger.totalBalance other asset := by
  simp only [totalBalance, unreserve, debit_apply, credit_apply]
  split_ifs with here
  · rw [here.1, here.2]
    omega
  · rfl

/-- What is reserved can be released in full. -/
theorem unreserve_covered (covered : amount ≤ ledger.reserved who currency) :
    (ledger.unreserve currency who amount).free who currency =
        ledger.free who currency + amount ∧
      (ledger.unreserve currency who amount).reserved who currency + amount =
        ledger.reserved who currency := by
  simp only [unreserve, min_eq_left covered, debit_apply, credit_apply, and_self, if_true,
    Nat.sub_add_cancel covered]

/-- What a transfer does to what an account has in total. -/
theorem totalBalance_transfer_add_entry
    (moved : ledger.transfer currency sender receiver amount = some ledger') (other : Account)
    (asset : Currency) :
    ledger'.totalBalance other asset + entry sender currency amount other asset =
      ledger.totalBalance other asset + entry receiver currency amount other asset := by
  have free := free_transfer_add_entry moved other asset
  unfold totalBalance
  rw [(reserved_transfer moved).1]
  omega

end Ledger

end Basilisk.Math
