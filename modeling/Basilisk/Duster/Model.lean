/-
# The duster pallet

Anybody may ask for what is left on an account to be sent to the dust account, if
the account holds less of the currency than its existential deposit and is not
listed as non-dustable.  The caller is rewarded out of the reward account; a reward
that cannot be paid is dropped without an error.  Root keeps the list, and the
two accounts are set at genesis.

The calls are not transactional, but nothing can fail once the dust is moved, so a
call is a function into `Except` here too.
-/

import Basilisk.Math.StorageMap
import Basilisk.Primitives

namespace Basilisk.Duster

open Basilisk.Math

/-- The pallet's `Config`. -/
structure Config where
  /-- `MinCurrencyDeposits`: the existential deposit of every currency. -/
  minCurrencyDeposits : AssetId → ℕ
  reward : ℕ
  nativeCurrencyId : AssetId

/-- Pallet errors; the last one comes from the currencies. -/
inductive Error
  | accountBlacklisted
  | accountNotBlacklisted
  | zeroBalance
  | balanceSufficient
  | dustAccountNotSet
  | reserveAccountNotSet
  | currency
  deriving DecidableEq, Repr

inductive Event
  | dusted (account : AccountId) (amount : ℕ)
  | added (account : AccountId)
  | removed (account : AccountId)
  deriving DecidableEq, Repr

/-- The pallet's own storage. -/
structure Storage where
  accountBlacklist : AList fun _ : AccountId => Unit
  rewardAccount : Option AccountId
  dustAccount : Option AccountId

/-- The pallet's storage and events over the chain's ledger. -/
structure State extends Storage where
  events : List Event
  ledger : Currencies

/-- `GenesisConfig`. -/
structure GenesisConfig where
  accountBlacklist : List AccountId
  rewardAccount : Option AccountId
  dustAccount : Option AccountId

/-- `GenesisConfig::build`, which panics unless both accounts are set. -/
def GenesisConfig.build (genesis : GenesisConfig) : Option Storage :=
  match genesis.rewardAccount, genesis.dustAccount with
  | some rewardAccount, some dustAccount => some {
      accountBlacklist := genesis.accountBlacklist.foldl
        (fun blacklist account => blacklist.insert account ()) ∅
      rewardAccount := some rewardAccount
      dustAccount := some dustAccount }
  | _, _ => none

namespace State

def depositEvent (s : State) (event : Event) : State :=
  { s with events := s.events ++ [event] }

/-- `T::MultiCurrency::transfer`. -/
def transfer (s : State) (currency : AssetId) (sender receiver : AccountId) (amount : ℕ) :
    Except Error State := do
  let ledger ← okOr (s.ledger.transfer currency sender receiver amount) .currency
  return { s with ledger }

end State

/-- `blacklisted`, and `DusterWhitelist::contains`. -/
def Storage.blacklisted (s : Storage) (account : AccountId) : Bool :=
  (s.accountBlacklist.lookup account).isSome

/-- `is_dustable`: whether the whole balance is below the deposit, and the balance. -/
def isDustable (cfg : Config) (s : State) (account : AccountId) (currencyId : AssetId) :
    Bool × ℕ :=
  let total := s.ledger.totalBalance account currencyId
  (decide (total < cfg.minCurrencyDeposits currencyId), total)

/-- `reward_duster`. -/
def rewardDuster (cfg : Config) (s : State) (duster : AccountId) : Except Error State := do
  let reserveAccount ← okOr s.rewardAccount .reserveAccountNotSet
  s.transfer cfg.nativeCurrencyId reserveAccount duster cfg.reward

/-- `transfer_dust`. -/
def transferDust (s : State) (sender dest : AccountId) (currencyId : AssetId) (dust : ℕ) :
    Except Error State :=
  s.transfer currencyId sender dest dust

/-- `dust_account`. -/
def dustAccount (cfg : Config) (s : State) (who account : AccountId) (currencyId : AssetId) :
    Except Error State := do
  ensure (s.blacklisted account = false) .accountBlacklisted
  let dustable := (isDustable cfg s account currencyId).1
  let dust := (isDustable cfg s account currencyId).2
  ensure (dust ≠ 0) .zeroBalance
  ensure (dustable = true) .balanceSufficient
  let dustDestAccount ← okOr s.dustAccount .dustAccountNotSet
  let s ← transferDust s account dustDestAccount currencyId dust
  let s := s.depositEvent (.dusted account dust)
  -- the result of the reward is ignored
  return match rewardDuster cfg s who with
    | .ok s => s
    | .error _ => s

/-- `add_nondustable_account`, once the origin is accepted. -/
def addNondustableAccount (s : State) (account : AccountId) : Except Error State :=
  return { s with accountBlacklist := s.accountBlacklist.insert account () }.depositEvent
    (.added account)

/-- `remove_nondustable_account`, once the origin is accepted. -/
def removeNondustableAccount (s : State) (account : AccountId) : Except Error State := do
  ensure (s.blacklisted account = true) .accountNotBlacklisted
  return { s with accountBlacklist := s.accountBlacklist.erase account }.depositEvent
    (.removed account)

/-- The pallet's extrinsics.  Root changes the list; `who` is the key that signed. -/
inductive Call
  | dustAccount (who : ℕ) (account : AccountId) (currencyId : AssetId)
  | addNondustableAccount (account : AccountId)
  | removeNondustableAccount (account : AccountId)
  deriving DecidableEq, Repr

def dispatch (cfg : Config) (s : State) : Call → Except Error State
  | .dustAccount who account currencyId => dustAccount cfg s (.signer who) account currencyId
  | .addNondustableAccount account => addNondustableAccount s account
  | .removeNondustableAccount account => removeNondustableAccount s account

section Effects

variable {cfg : Config} {s t : State} {who account dest : AccountId} {currencyId : AssetId}

theorem State.transfer_eq_ok {currency : AssetId} {sender receiver : AccountId} {amount : ℕ} :
    s.transfer currency sender receiver amount = .ok t ↔
      ∃ ledger, s.ledger.transfer currency sender receiver amount = some ledger ∧
        { s with ledger } = t := by
  simp only [State.transfer, bind_eq_ok, okOr_eq_ok, return_eq_ok]

/-- The reward is paid in full or not at all. -/
inductive Rewarded (cfg : Config) (s : State) (duster : AccountId) : State → Prop
  | paid {reserveAccount : AccountId} {ledger : Currencies}
      (known : s.rewardAccount = some reserveAccount)
      (moved : s.ledger.transfer cfg.nativeCurrencyId reserveAccount duster cfg.reward =
        some ledger) : Rewarded cfg s duster { s with ledger }
  | unpaid (lacking : ∀ reserveAccount, s.rewardAccount = some reserveAccount →
      s.ledger.free reserveAccount cfg.nativeCurrencyId < cfg.reward) :
      Rewarded cfg s duster s

theorem rewarded (cfg : Config) (s : State) (duster : AccountId) :
    Rewarded cfg s duster (match rewardDuster cfg s duster with
      | .ok s => s
      | .error _ => s) := by
  cases attempted : rewardDuster cfg s duster with
  | ok t =>
      simp only [rewardDuster, bind_eq_ok, okOr_eq_ok, State.transfer_eq_ok] at attempted
      obtain ⟨reserveAccount, known, ledger, moved, rfl⟩ := attempted
      exact .paid known moved
  | error e =>
      refine .unpaid fun reserveAccount known => ?_
      rw [rewardDuster, known] at attempted
      refine lt_of_not_ge fun covered => ?_
      obtain ⟨ledger, moved⟩ := Ledger.exists_transfer covered duster
      have paid : s.transfer cfg.nativeCurrencyId reserveAccount duster cfg.reward =
          .ok { s with ledger } := State.transfer_eq_ok.mpr ⟨ledger, moved, rfl⟩
      rw [okOr, ok_bind, paid] at attempted
      cases attempted

/-- The steps of `dust_account`. -/
theorem dustAccount_ok (dusted : dustAccount cfg s who account currencyId = .ok t) :
    ∃ dest ledger, s.blacklisted account = false ∧
      s.ledger.totalBalance account currencyId ≠ 0 ∧
      s.ledger.totalBalance account currencyId < cfg.minCurrencyDeposits currencyId ∧
      s.dustAccount = some dest ∧
      s.ledger.transfer currencyId account dest (s.ledger.totalBalance account currencyId) =
        some ledger ∧
      Rewarded cfg ({ s with ledger }.depositEvent
        (.dusted account (s.ledger.totalBalance account currencyId))) who t := by
  simp only [dustAccount, transferDust, bind_eq_ok, ensure_eq_ok, okOr_eq_ok,
    State.transfer_eq_ok, return_eq_ok, exists_const] at dusted
  obtain ⟨allowed, nonzero, below, dest, known, _, ⟨ledger, moved, rfl⟩, rfl⟩ := dusted
  exact ⟨dest, ledger, allowed, nonzero, of_decide_eq_true below, known, moved,
    rewarded cfg _ who⟩

/-- A call succeeds exactly if the account is not listed, has something but less than the
deposit, and has nothing of it reserved, so that all of it can be moved. -/
theorem dustAccount_succeeds_iff :
    (∃ t, dustAccount cfg s who account currencyId = .ok t) ↔
      s.blacklisted account = false ∧ 0 < s.ledger.free account currencyId ∧
        s.ledger.free account currencyId < cfg.minCurrencyDeposits currencyId ∧
        s.ledger.reserved account currencyId = 0 ∧ s.dustAccount.isSome = true := by
  constructor
  · rintro ⟨t, dusted⟩
    obtain ⟨dest, ledger, allowed, nonzero, below, known, moved, -⟩ := dustAccount_ok dusted
    have covered := Ledger.covered_of_transfer moved
    unfold Ledger.totalBalance at nonzero below covered
    exact ⟨allowed, by omega, by omega, by omega, by rw [known]; rfl⟩
  · rintro ⟨allowed, nonzero, below, unreserved, set⟩
    obtain ⟨dest, known⟩ := Option.isSome_iff_exists.mp set
    have total : s.ledger.totalBalance account currencyId = s.ledger.free account currencyId := by
      rw [Ledger.totalBalance, unreserved, Nat.add_zero]
    obtain ⟨ledger, moved⟩ := Ledger.exists_transfer
      (show s.ledger.totalBalance account currencyId ≤ s.ledger.free account currencyId from
        total.le) dest
    have some : (isDustable cfg s account currencyId).2 ≠ 0 := total.trans_ne nonzero.ne'
    have little : (isDustable cfg s account currencyId).1 = true :=
      decide_eq_true (total.trans_lt below)
    simp only [dustAccount, transferDust, bind_eq_ok, ensure_eq_ok, okOr_eq_ok,
      State.transfer_eq_ok, return_eq_ok, exists_const]
    exact ⟨_, allowed, some, little, dest, known, _, ⟨ledger, moved, rfl⟩, rfl⟩

end Effects

end Basilisk.Duster
