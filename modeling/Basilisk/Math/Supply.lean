/-
# Operations on a ledger and the supply they keep

A program changes a ledger by six operations only: it moves free balance, mints
and burns, sets balance aside, releases it, and pays out of what is set aside.
`Changes` relates two ledgers if the second results from the first by operations
of an allowed kind.  What the kind excludes, the relation keeps: a free balance
falls only if its account is the payer of some operation, an issuance rises only
if some operation mints.  And whatever is allowed, what all accounts hold together
stays the issuance.
-/

import Basilisk.Math.Ledger
import Mathlib.Algebra.BigOperators.Finprod
import Mathlib.Algebra.Order.BigOperators.Group.Finset
import Mathlib.Logic.Relation

namespace Basilisk.Math

universe u v

namespace Ledger

/-- The operations on a ledger. -/
inductive Op (Account : Type u) (Currency : Type v)
  | transfer (currency : Currency) (sender receiver : Account) (amount : ℕ)
  | deposit (currency : Currency) (who : Account) (amount : ℕ)
  | withdraw (currency : Currency) (who : Account) (amount : ℕ)
  | reserve (currency : Currency) (who : Account) (amount : ℕ)
  | unreserve (currency : Currency) (who : Account) (amount : ℕ)
  | repatriate (currency : Currency) (sender receiver : Account) (amount : ℕ)

variable {Account : Type u} {Currency : Type v}

namespace Op

/-- The account whose free balance the operation lowers. -/
def payer : Op Account Currency → Option Account
  | .transfer _ sender _ _ => some sender
  | .withdraw _ who _ => some who
  | .reserve _ who _ => some who
  | _ => none

/-- The account whose reserved balance the operation lowers. -/
def drawee : Op Account Currency → Option Account
  | .unreserve _ who _ => some who
  | .repatriate _ sender _ _ => some sender
  | _ => none

/-- The account whose reserved balance the operation raises. -/
def saver : Op Account Currency → Option Account
  | .reserve _ who _ => some who
  | _ => none

/-- The accounts that take part. -/
def parties [DecidableEq Account] : Op Account Currency → Finset Account
  | .transfer _ sender receiver _ => {sender, receiver}
  | .deposit _ who _ => {who}
  | .withdraw _ who _ => {who}
  | .reserve _ who _ => {who}
  | .unreserve _ who _ => {who}
  | .repatriate _ sender receiver _ => {sender, receiver}

/-- The currency the operation mints. -/
def mints : Op Account Currency → Option Currency
  | .deposit currency _ _ => some currency
  | _ => none

/-- The currency the operation burns. -/
def burns : Op Account Currency → Option Currency
  | .withdraw currency _ _ => some currency
  | _ => none

section Issuance

variable [DecidableEq Currency]

/-- What is added to the issuance. -/
def minted : Op Account Currency → Currency → ℕ
  | .deposit currency _ amount => fun asset => if asset = currency then amount else 0
  | _ => fun _ => 0

/-- What leaves the issuance. -/
def burned : Op Account Currency → Currency → ℕ
  | .withdraw currency _ amount => fun asset => if asset = currency then amount else 0
  | _ => fun _ => 0

variable {currency : Currency}

theorem minted_eq_zero (op : Op Account Currency) (idle : op.mints ≠ some currency) :
    op.minted currency = 0 := by
  cases op with
  | deposit => exact if_neg fun same => idle (congrArg some same.symm)
  | transfer => rfl
  | withdraw => rfl
  | reserve => rfl
  | unreserve => rfl
  | repatriate => rfl

theorem burned_eq_zero (op : Op Account Currency) (idle : op.burns ≠ some currency) :
    op.burned currency = 0 := by
  cases op with
  | withdraw => exact if_neg fun same => idle (congrArg some same.symm)
  | transfer => rfl
  | deposit => rfl
  | reserve => rfl
  | unreserve => rfl
  | repatriate => rfl

end Issuance

variable [DecidableEq Account] [DecidableEq Currency]

/-- Carry out the operation; `bound` is the exclusive bound of an issuance. -/
def apply (bound : ℕ) (ledger : Ledger Account Currency) :
    Op Account Currency → Option (Ledger Account Currency)
  | .transfer currency sender receiver amount => ledger.transfer currency sender receiver amount
  | .deposit currency who amount => ledger.deposit bound currency who amount
  | .withdraw currency who amount => ledger.withdraw currency who amount
  | .reserve currency who amount => ledger.reserve currency who amount
  | .unreserve currency who amount => some (ledger.unreserve currency who amount)
  | .repatriate currency sender receiver amount =>
      some (ledger.repatriateReserved currency sender receiver amount)

/-- What leaves the free balances. -/
def spent : Op Account Currency → Account → Currency → ℕ
  | .transfer currency sender _ amount => entry sender currency amount
  | .withdraw currency who amount => entry who currency amount
  | .reserve currency who amount => entry who currency amount
  | _ => fun _ _ => 0

/-- What is added to the free balances. -/
def gained (ledger : Ledger Account Currency) : Op Account Currency → Account → Currency → ℕ
  | .transfer currency _ receiver amount => entry receiver currency amount
  | .deposit currency who amount => entry who currency amount
  | .unreserve currency who amount =>
      entry who currency (min amount (ledger.reserved who currency))
  | .repatriate currency sender receiver amount =>
      entry receiver currency (min amount (ledger.reserved sender currency))
  | _ => fun _ _ => 0

/-- What leaves the reserved balances. -/
def drawnFrom (ledger : Ledger Account Currency) :
    Op Account Currency → Account → Currency → ℕ
  | .unreserve currency who amount =>
      entry who currency (min amount (ledger.reserved who currency))
  | .repatriate currency sender _ amount =>
      entry sender currency (min amount (ledger.reserved sender currency))
  | _ => fun _ _ => 0

/-- What is added to the reserved balances. -/
def setAside : Op Account Currency → Account → Currency → ℕ
  | .reserve currency who amount => entry who currency amount
  | _ => fun _ _ => 0

variable {who : Account} {currency : Currency}

theorem spent_eq_zero (op : Op Account Currency) (currency : Currency)
    (spared : op.payer ≠ some who) : op.spent who currency = 0 := by
  cases op with
  | transfer => exact entry_of_ne_account (fun same => spared (congrArg some same.symm)) _ _ _
  | withdraw => exact entry_of_ne_account (fun same => spared (congrArg some same.symm)) _ _ _
  | reserve => exact entry_of_ne_account (fun same => spared (congrArg some same.symm)) _ _ _
  | deposit => rfl
  | unreserve => rfl
  | repatriate => rfl

theorem drawnFrom_eq_zero (op : Op Account Currency) (ledger : Ledger Account Currency)
    (currency : Currency) (spared : op.drawee ≠ some who) :
    op.drawnFrom ledger who currency = 0 := by
  cases op with
  | unreserve => exact entry_of_ne_account (fun same => spared (congrArg some same.symm)) _ _ _
  | repatriate => exact entry_of_ne_account (fun same => spared (congrArg some same.symm)) _ _ _
  | transfer => rfl
  | withdraw => rfl
  | reserve => rfl
  | deposit => rfl

theorem setAside_eq_zero (op : Op Account Currency) (currency : Currency)
    (idle : op.saver ≠ some who) : op.setAside who currency = 0 := by
  cases op with
  | reserve => exact entry_of_ne_account (fun same => idle (congrArg some same.symm)) _ _ _
  | transfer => rfl
  | withdraw => rfl
  | deposit => rfl
  | unreserve => rfl
  | repatriate => rfl

/-- Who takes no part gains nothing. -/
theorem uninvolved (op : Op Account Currency) (ledger : Ledger Account Currency)
    (missing : who ∉ op.parties) (currency : Currency) :
    op.gained ledger who currency = 0 ∧ op.setAside who currency = 0 := by
  cases op with
  | transfer asset sender receiver amount =>
      have apart : who ≠ receiver := fun same => missing (by simp [parties, same])
      exact ⟨entry_of_ne_account apart _ _ _, rfl⟩
  | deposit asset owner amount =>
      have apart : who ≠ owner := fun same => missing (by simp [parties, same])
      exact ⟨entry_of_ne_account apart _ _ _, rfl⟩
  | withdraw => exact ⟨rfl, rfl⟩
  | reserve asset owner amount =>
      have apart : who ≠ owner := fun same => missing (by simp [parties, same])
      exact ⟨rfl, entry_of_ne_account apart _ _ _⟩
  | unreserve asset owner amount =>
      have apart : who ≠ owner := fun same => missing (by simp [parties, same])
      exact ⟨entry_of_ne_account apart _ _ _, rfl⟩
  | repatriate asset sender receiver amount =>
      have apart : who ≠ receiver := fun same => missing (by simp [parties, same])
      exact ⟨entry_of_ne_account apart _ _ _, rfl⟩

end Op

section Holders

variable {ledger : Ledger Account Currency}

/-- The accounts hold the whole issuance: nobody else has a balance, and theirs add up. -/
structure HeldBy (ledger : Ledger Account Currency) (accounts : Finset Account) : Prop where
  others : ∀ who ∉ accounts, ∀ currency, ledger.totalBalance who currency = 0
  total : ∀ currency,
    ∑ who ∈ accounts, ledger.totalBalance who currency = ledger.issuance currency

/-- What all accounts hold together is the issuance. -/
def Balanced (ledger : Ledger Account Currency) : Prop :=
  ∃ accounts, ledger.HeldBy accounts

theorem HeldBy.mono {accounts more : Finset Account} (held : ledger.HeldBy accounts)
    (subset : accounts ⊆ more) : ledger.HeldBy more where
  others who missing := held.others who fun present => missing (subset present)
  total currency := by
    rw [← held.total currency]
    refine (Finset.sum_subset subset ?_).symm
    intro who _ missing
    exact held.others who missing currency

/-- Nobody holds more than was issued. -/
theorem HeldBy.totalBalance_le {accounts : Finset Account} (held : ledger.HeldBy accounts)
    (who : Account) (currency : Currency) :
    ledger.totalBalance who currency ≤ ledger.issuance currency := by
  classical
  by_cases present : who ∈ accounts
  · rw [← held.total currency]
    exact Finset.single_le_sum (f := fun who => ledger.totalBalance who currency)
      (fun _ _ => Nat.zero_le _) present
  · rw [held.others who present]
    exact Nat.zero_le _

theorem Balanced.free_le (balanced : ledger.Balanced) (who : Account) (currency : Currency) :
    ledger.free who currency ≤ ledger.issuance currency := by
  obtain ⟨accounts, held⟩ := balanced
  exact (Nat.le_add_right _ _).trans (held.totalBalance_le who currency)

theorem Balanced.finsum (balanced : ledger.Balanced) (currency : Currency) :
    ∑ᶠ who, ledger.totalBalance who currency = ledger.issuance currency := by
  obtain ⟨accounts, held⟩ := balanced
  rw [← held.total currency]
  refine finsum_eq_sum_of_support_subset _ fun who holds => ?_
  by_contra missing
  exact holds (held.others who missing currency)

end Holders

variable [DecidableEq Account] [DecidableEq Currency]
variable {ledger ledger' : Ledger Account Currency} {bound : ℕ} {op : Op Account Currency}
variable {allowed allowed' : Op Account Currency → Prop}
variable {who : Account} {currency : Currency}

section Operation

/-- The balances after an operation, entry by entry.  Burning more than was ever issued is
the one case in which the issuance is not exact. -/
structure Effect (op : Op Account Currency) (ledger ledger' : Ledger Account Currency) :
    Prop where
  free : ∀ who currency, ledger'.free who currency + op.spent who currency =
    ledger.free who currency + op.gained ledger who currency
  reserved : ∀ who currency, ledger'.reserved who currency + op.drawnFrom ledger who currency =
    ledger.reserved who currency + op.setAside who currency
  issuance : ∀ currency, ledger'.issuance currency =
    ledger.issuance currency + op.minted currency - op.burned currency

/-- Raising an entry of a table. -/
theorem credit_eq_add (table : Account → Currency → ℕ) (who : Account) (currency : Currency)
    (amount : ℕ) (other : Account) (asset : Currency) :
    credit table who currency amount other asset =
      table other asset + entry who currency amount other asset := by
  rw [credit_apply]
  unfold entry
  split_ifs <;> rfl

/-- Lowering an entry of a table by what is there. -/
theorem debit_add_entry {table : Account → Currency → ℕ} {who : Account} {currency : Currency}
    {amount : ℕ} (covered : amount ≤ table who currency) (other : Account) (asset : Currency) :
    debit table who currency amount other asset + entry who currency amount other asset =
      table other asset := by
  rw [debit_apply]
  unfold entry
  split_ifs with here
  · rw [here.1, here.2]
    omega
  · rfl

theorem effect_of_apply (applied : op.apply bound ledger = some ledger') :
    Effect op ledger ledger' := by
  cases op with
  | transfer currency sender receiver amount =>
      obtain ⟨reserved, issuance⟩ := reserved_transfer applied
      refine ⟨free_transfer_add_entry applied, ?_, ?_⟩
      · intro who asset
        rw [reserved]
        rfl
      · intro asset
        rw [issuance]
        rfl
  | deposit currency who amount =>
      refine ⟨?_, ?_, ?_⟩
      · intro other asset
        rw [free_deposit applied, credit_eq_add]
        rfl
      · intro other asset
        rw [reserved_deposit applied]
        rfl
      · intro asset
        rw [issuance_deposit applied, Function.update_apply]
        dsimp only [Op.minted, Op.burned]
        split_ifs with same
        · rw [same]
          rfl
        · rfl
  | withdraw currency who amount =>
      refine ⟨?_, ?_, ?_⟩
      · exact free_withdraw_add_entry applied
      · intro other asset
        rw [reserved_withdraw applied]
        rfl
      · intro asset
        rw [issuance_withdraw applied, Function.update_apply]
        dsimp only [Op.minted, Op.burned]
        split_ifs with same
        · rw [same]
          rfl
        · rfl
  | reserve currency who amount =>
      obtain ⟨covered, rfl⟩ := reserve_eq_some_iff.mp applied
      refine ⟨debit_add_entry covered, ?_, fun _ => rfl⟩
      intro other asset
      exact credit_eq_add _ _ _ _ _ _
  | unreserve currency who amount =>
      obtain rfl := Option.some.inj applied
      refine ⟨?_, debit_add_entry (min_le_right _ _), fun _ => rfl⟩
      intro other asset
      exact credit_eq_add _ _ _ _ _ _
  | repatriate currency sender receiver amount =>
      obtain rfl := Option.some.inj applied
      refine ⟨?_, debit_add_entry (min_le_right _ _), fun _ => rfl⟩
      intro other asset
      exact credit_eq_add _ _ _ _ _ _

/-- What the accounts that take part gain and lose together is what is minted and burned. -/
theorem Op.sum_moved (ledger : Ledger Account Currency) {accounts : Finset Account}
    (inside : op.parties ⊆ accounts) (currency : Currency) :
    ∑ who ∈ accounts, (op.gained ledger who currency + op.setAside who currency) +
        op.burned currency =
      ∑ who ∈ accounts, (op.spent who currency + op.drawnFrom ledger who currency) +
        op.minted currency := by
  rw [Finset.sum_add_distrib, Finset.sum_add_distrib]
  cases op with
  | transfer asset sender receiver amount =>
      dsimp only [gained, setAside, spent, drawnFrom, minted, burned]
      rw [sum_entry (inside (by simp [parties])), sum_entry (inside (by simp [parties]))]
  | deposit asset who amount =>
      dsimp only [gained, setAside, spent, drawnFrom, minted, burned]
      rw [sum_entry (inside (by simp [parties])), Finset.sum_const_zero]
      omega
  | withdraw asset who amount =>
      dsimp only [gained, setAside, spent, drawnFrom, minted, burned]
      rw [sum_entry (inside (by simp [parties])), Finset.sum_const_zero]
      omega
  | reserve asset who amount =>
      dsimp only [gained, setAside, spent, drawnFrom, minted, burned]
      rw [sum_entry (inside (by simp [parties])), Finset.sum_const_zero]
      omega
  | unreserve asset who amount =>
      dsimp only [gained, setAside, spent, drawnFrom, minted, burned]
      rw [sum_entry (inside (by simp [parties])), Finset.sum_const_zero]
      omega
  | repatriate asset sender receiver amount =>
      dsimp only [gained, setAside, spent, drawnFrom, minted, burned]
      rw [sum_entry (inside (by simp [parties])), sum_entry (inside (by simp [parties])),
        Finset.sum_const_zero]
      omega

end Operation

section Supply

/-- What is burned was issued. -/
theorem HeldBy.burned_le {accounts : Finset Account} (held : ledger.HeldBy accounts)
    (applied : op.apply bound ledger = some ledger') (currency : Currency) :
    op.burned currency ≤ ledger.issuance currency := by
  cases op with
  | withdraw asset who amount =>
      dsimp only [Op.burned]
      split_ifs with same
      · rw [same]
        exact ((covered_of_withdraw applied).trans (Nat.le_add_right _ _)).trans
          (held.totalBalance_le who asset)
      · exact Nat.zero_le _
  | transfer => exact Nat.zero_le _
  | deposit => exact Nat.zero_le _
  | reserve => exact Nat.zero_le _
  | unreserve => exact Nat.zero_le _
  | repatriate => exact Nat.zero_le _

/-- An operation keeps the supply with the accounts that held it and those that take part. -/
theorem HeldBy.apply {accounts : Finset Account} (held : ledger.HeldBy accounts)
    (applied : op.apply bound ledger = some ledger') :
    ledger'.HeldBy (accounts ∪ op.parties) := by
  have effect := effect_of_apply applied
  have subset : accounts ⊆ accounts ∪ op.parties := Finset.subset_union_left
  have inside : op.parties ⊆ accounts ∪ op.parties := Finset.subset_union_right
  have wider := held.mono subset
  refine ⟨?_, ?_⟩
  · intro who missing currency
    have before := wider.others who missing currency
    obtain ⟨gained, setAside⟩ := op.uninvolved ledger
      (fun present => missing (inside present)) currency
    have free := effect.free who currency
    have reserved := effect.reserved who currency
    unfold totalBalance at before ⊢
    omega
  · intro currency
    have moved := op.sum_moved ledger inside currency
    have entries : ∑ who ∈ accounts ∪ op.parties, (ledger'.totalBalance who currency +
          (op.spent who currency + op.drawnFrom ledger who currency)) =
        ∑ who ∈ accounts ∪ op.parties, (ledger.totalBalance who currency +
          (op.gained ledger who currency + op.setAside who currency)) := by
      refine Finset.sum_congr rfl fun who _ => ?_
      have free := effect.free who currency
      have reserved := effect.reserved who currency
      unfold totalBalance
      omega
    simp only [Finset.sum_add_distrib] at entries moved
    rw [wider.total] at entries
    have issued := held.burned_le applied currency
    rw [effect.issuance]
    omega

end Supply

section Sequences

/-- The second ledger results from the first by operations of the allowed kind. -/
def Changes (bound : ℕ) (allowed : Op Account Currency → Prop) :
    Ledger Account Currency → Ledger Account Currency → Prop :=
  Relation.ReflTransGen fun before after => ∃ op, allowed op ∧ op.apply bound before = some after

theorem Changes.refl (ledger : Ledger Account Currency) : Changes bound allowed ledger ledger :=
  Relation.ReflTransGen.refl

theorem Changes.single (op : Op Account Currency) (permitted : allowed op)
    (applied : op.apply bound ledger = some ledger') : Changes bound allowed ledger ledger' :=
  Relation.ReflTransGen.single ⟨op, permitted, applied⟩

theorem Changes.trans {ledger'' : Ledger Account Currency}
    (first : Changes bound allowed ledger ledger')
    (second : Changes bound allowed ledger' ledger'') : Changes bound allowed ledger ledger'' :=
  Relation.ReflTransGen.trans first second

theorem Changes.mono (changes : Changes bound allowed ledger ledger')
    (wider : ∀ op, allowed op → allowed' op) : Changes bound allowed' ledger ledger' :=
  Relation.ReflTransGen.mono
    (fun _ _ taken => taken.imp fun op step => ⟨wider op step.1, step.2⟩) _ _ changes

/-- A loop makes changes if every turn does. -/
theorem Changes.foldl {Item : Type*}
    {turn : Ledger Account Currency → Item → Ledger Account Currency} {items : List Item}
    (each : ∀ ledger, ∀ item ∈ items, Changes bound allowed ledger (turn ledger item))
    (ledger : Ledger Account Currency) :
    Changes bound allowed ledger (items.foldl turn ledger) := by
  induction items generalizing ledger with
  | nil => exact .refl ledger
  | cons item items ih =>
      refine (each ledger item List.mem_cons_self).trans (ih ?_ _)
      exact fun ledger item listed => each ledger item (List.mem_cons_of_mem _ listed)

/-- What every allowed operation does not lower, no sequence of them lowers. -/
theorem Changes.le (changes : Changes bound allowed ledger ledger')
    (measure : Ledger Account Currency → ℕ)
    (each : ∀ {op : Op Account Currency} {before after}, allowed op →
      op.apply bound before = some after → measure before ≤ measure after) :
    measure ledger ≤ measure ledger' := by
  induction changes with
  | refl => exact le_rfl
  | tail _ taken ih =>
      obtain ⟨op, permitted, applied⟩ := taken
      exact ih.trans (each permitted applied)

/-- What every allowed operation does not raise, no sequence of them raises. -/
theorem Changes.ge (changes : Changes bound allowed ledger ledger')
    (measure : Ledger Account Currency → ℕ)
    (each : ∀ {op : Op Account Currency} {before after}, allowed op →
      op.apply bound before = some after → measure after ≤ measure before) :
    measure ledger' ≤ measure ledger := by
  induction changes with
  | refl => exact le_rfl
  | tail _ taken ih =>
      obtain ⟨op, permitted, applied⟩ := taken
      exact (each permitted applied).trans ih

/-- Who never pays never loses free balance. -/
theorem Changes.free_le (changes : Changes bound allowed ledger ledger')
    (spared : ∀ op, allowed op → op.payer ≠ some who) (currency : Currency) :
    ledger.free who currency ≤ ledger'.free who currency := by
  refine changes.le (fun ledger => ledger.free who currency) ?_
  intro op before after permitted applied
  have entries := (effect_of_apply applied).free who currency
  have unpaid := op.spent_eq_zero currency (spared op permitted)
  omega

/-- Whose reserve is never drawn on never loses reserved balance. -/
theorem Changes.reserved_le (changes : Changes bound allowed ledger ledger')
    (spared : ∀ op, allowed op → op.drawee ≠ some who) (currency : Currency) :
    ledger.reserved who currency ≤ ledger'.reserved who currency := by
  refine changes.le (fun ledger => ledger.reserved who currency) ?_
  intro op before after permitted applied
  have entries := (effect_of_apply applied).reserved who currency
  have unpaid := op.drawnFrom_eq_zero before currency (spared op permitted)
  omega

/-- Who never sets anything aside gains no reserved balance. -/
theorem Changes.reserved_ge (changes : Changes bound allowed ledger ledger')
    (idle : ∀ op, allowed op → op.saver ≠ some who) (currency : Currency) :
    ledger'.reserved who currency ≤ ledger.reserved who currency := by
  refine changes.ge (fun ledger => ledger.reserved who currency) ?_
  intro op before after permitted applied
  have entries := (effect_of_apply applied).reserved who currency
  have unsaved := op.setAside_eq_zero currency (idle op permitted)
  omega

/-- An issuance rises only if something is minted. -/
theorem Changes.issuance_ge (changes : Changes bound allowed ledger ledger')
    (idle : ∀ op, allowed op → op.mints ≠ some currency) :
    ledger'.issuance currency ≤ ledger.issuance currency := by
  refine changes.ge (fun ledger => ledger.issuance currency) ?_
  intro op before after permitted applied
  have issued := (effect_of_apply applied).issuance currency
  have unminted := op.minted_eq_zero (idle op permitted)
  omega

/-- An issuance falls only if something is burned. -/
theorem Changes.issuance_le (changes : Changes bound allowed ledger ledger')
    (idle : ∀ op, allowed op → op.burns ≠ some currency) :
    ledger.issuance currency ≤ ledger'.issuance currency := by
  refine changes.le (fun ledger => ledger.issuance currency) ?_
  intro op before after permitted applied
  have issued := (effect_of_apply applied).issuance currency
  have unburned := op.burned_eq_zero (idle op permitted)
  omega

/-- Whatever is done by operations, all accounts together hold the issuance. -/
theorem Changes.balanced (changes : Changes bound allowed ledger ledger')
    (balanced : ledger.Balanced) : ledger'.Balanced := by
  induction changes with
  | refl => exact balanced
  | tail _ taken ih =>
      obtain ⟨accounts, held⟩ := ih
      obtain ⟨op, -, applied⟩ := taken
      exact ⟨_, held.apply applied⟩

end Sequences

/-- Who may pay, who may set balance aside, whose reserve may be drawn on, and which currencies
may be minted and burned. -/
structure Licence (Account : Type u) (Currency : Type v) where
  pays : Account → Prop
  saves : Account → Prop
  yields : Account → Prop
  mints : Currency → Prop
  burns : Currency → Prop

/-- The operation keeps to the licence. -/
structure Licence.Permits (licence : Licence Account Currency) (op : Op Account Currency) :
    Prop where
  pays : ∀ who, op.payer = some who → licence.pays who
  saves : ∀ who, op.saver = some who → licence.saves who
  yields : ∀ who, op.drawee = some who → licence.yields who
  mints : ∀ currency, op.mints = some currency → licence.mints currency
  burns : ∀ currency, op.burns = some currency → licence.burns currency

section Licences

variable {licence wider : Licence Account Currency} {sender receiver : Account} {amount : ℕ}

/-- The second licence permits whatever the first one does. -/
structure Licence.Within (licence wider : Licence Account Currency) : Prop where
  pays : ∀ who, licence.pays who → wider.pays who
  saves : ∀ who, licence.saves who → wider.saves who
  yields : ∀ who, licence.yields who → wider.yields who
  mints : ∀ currency, licence.mints currency → wider.mints currency
  burns : ∀ currency, licence.burns currency → wider.burns currency

theorem Changes.widen (changes : Changes bound licence.Permits ledger ledger')
    (within : licence.Within wider) : Changes bound wider.Permits ledger ledger' := by
  refine changes.mono fun op permitted => ⟨?_, ?_, ?_, ?_, ?_⟩
  · exact fun who pays => within.pays who (permitted.pays who pays)
  · exact fun who saves => within.saves who (permitted.saves who saves)
  · exact fun who yields => within.yields who (permitted.yields who yields)
  · exact fun currency mints => within.mints currency (permitted.mints currency mints)
  · exact fun currency burns => within.burns currency (permitted.burns currency burns)

/-- Who is not licensed to pay keeps the free balance. -/
theorem Changes.free_le_of_not_pays (changes : Changes bound licence.Permits ledger ledger')
    (spared : ¬ licence.pays who) (currency : Currency) :
    ledger.free who currency ≤ ledger'.free who currency :=
  changes.free_le (fun _ permitted pays => spared (permitted.pays _ pays)) currency

theorem Changes.reserved_le_of_not_yields (changes : Changes bound licence.Permits ledger ledger')
    (spared : ¬ licence.yields who) (currency : Currency) :
    ledger.reserved who currency ≤ ledger'.reserved who currency :=
  changes.reserved_le (fun _ permitted yields => spared (permitted.yields _ yields)) currency

theorem Changes.reserved_eq (changes : Changes bound licence.Permits ledger ledger')
    (idle : ¬ licence.saves who) (spared : ¬ licence.yields who) (currency : Currency) :
    ledger'.reserved who currency = ledger.reserved who currency := by
  apply le_antisymm
  · exact changes.reserved_ge (fun _ permitted saves => idle (permitted.saves _ saves)) currency
  · exact changes.reserved_le_of_not_yields spared currency

theorem Licence.transfer (pays : licence.pays sender)
    (moved : ledger.transfer currency sender receiver amount = some ledger') :
    Changes bound licence.Permits ledger ledger' := by
  refine .single (.transfer currency sender receiver amount) ⟨?_, ?_, ?_, ?_, ?_⟩ moved
  · rintro who ⟨⟩
    exact pays
  all_goals exact nofun

theorem Licence.deposit (mints : licence.mints currency)
    (minted : ledger.deposit bound currency who amount = some ledger') :
    Changes bound licence.Permits ledger ledger' := by
  refine .single (.deposit currency who amount) ⟨?_, ?_, ?_, ?_, ?_⟩ minted
  case refine_4 =>
    rintro asset ⟨⟩
    exact mints
  all_goals exact nofun

theorem Licence.withdraw (pays : licence.pays who) (burns : licence.burns currency)
    (burned : ledger.withdraw currency who amount = some ledger') :
    Changes bound licence.Permits ledger ledger' := by
  refine .single (.withdraw currency who amount) ⟨?_, ?_, ?_, ?_, ?_⟩ burned
  case refine_1 =>
    rintro payer ⟨⟩
    exact pays
  case refine_5 =>
    rintro asset ⟨⟩
    exact burns
  all_goals exact nofun

theorem Licence.reserve (pays : licence.pays who) (saves : licence.saves who)
    (reserved : ledger.reserve currency who amount = some ledger') :
    Changes bound licence.Permits ledger ledger' := by
  refine .single (.reserve currency who amount) ⟨?_, ?_, ?_, ?_, ?_⟩ reserved
  case refine_1 =>
    rintro payer ⟨⟩
    exact pays
  case refine_2 =>
    rintro saver ⟨⟩
    exact saves
  all_goals exact nofun

theorem Licence.unreserve (yields : licence.yields who) :
    Changes bound licence.Permits ledger (ledger.unreserve currency who amount) := by
  refine .single (.unreserve currency who amount) ⟨?_, ?_, ?_, ?_, ?_⟩ rfl
  case refine_3 =>
    rintro drawee ⟨⟩
    exact yields
  all_goals exact nofun

theorem Licence.repatriate (yields : licence.yields sender) :
    Changes bound licence.Permits ledger
      (ledger.repatriateReserved currency sender receiver amount) := by
  refine .single (.repatriate currency sender receiver amount) ⟨?_, ?_, ?_, ?_, ?_⟩ rfl
  case refine_3 =>
    rintro drawee ⟨⟩
    exact yields
  all_goals exact nofun

end Licences

end Ledger

end Basilisk.Math
