/-
# Sweeping the dust

The offchain worker of a validator goes through all token accounts and submits a
call of the duster for every entry below the deposit.  This module follows such
calls through the duster: in whatever order they are executed, every entry that can
be dusted is emptied, and no other entry changes but the dust account's.  An emptied
entry cannot be dusted again, so no reward is paid twice for it.  The dust account
itself is the exception: sending its dust to itself leaves it dusty, and pays.
-/

import Basilisk.Duster.Model
import Mathlib.Data.List.Perm.Basic

namespace Basilisk.Duster

open Basilisk.Math

/-- An entry of the ledger. -/
abbrev Entry := AccountId × AssetId

/-- The entry can be dusted: its account is not listed, and all it has of the currency is free
and less than the deposit. -/
structure State.Dusty (cfg : Config) (s : State) (account : AccountId) (currencyId : AssetId) :
    Prop where
  unlisted : s.blacklisted account = false
  nonempty : 0 < s.ledger.free account currencyId
  below : s.ledger.free account currencyId < cfg.minCurrencyDeposits currencyId
  unreserved : s.ledger.reserved account currencyId = 0

instance (cfg : Config) (s : State) (account : AccountId) (currencyId : AssetId) :
    Decidable (s.Dusty cfg account currencyId) :=
  decidable_of_iff (s.blacklisted account = false ∧ 0 < s.ledger.free account currencyId ∧
      s.ledger.free account currencyId < cfg.minCurrencyDeposits currencyId ∧
      s.ledger.reserved account currencyId = 0)
    ⟨fun conditions => ⟨conditions.1, conditions.2.1, conditions.2.2.1, conditions.2.2.2⟩,
      fun dusty => ⟨dusty.unlisted, dusty.nonempty, dusty.below, dusty.unreserved⟩⟩

section Dusting

variable {cfg : Config} {s t : State} {who account dest other : AccountId}
variable {currencyId asset : AssetId}

/-- What a successful call moves: the dust to the dust account, and the reward, or nothing, to
the caller. -/
structure Dusting (cfg : Config) (s : State) (who account dest : AccountId)
    (currencyId : AssetId) (t : State) : Prop where
  storage : t.toStorage = s.toStorage
  reserved : t.ledger.reserved = s.ledger.reserved
  issuance : t.ledger.issuance = s.ledger.issuance
  free : ∃ payer paid, (paid ≠ 0 → s.rewardAccount = some payer ∧ paid = cfg.reward) ∧
    ∀ other asset, t.ledger.free other asset +
        Ledger.entry account currencyId (s.ledger.free account currencyId) other asset +
        Ledger.entry payer cfg.nativeCurrencyId paid other asset =
      s.ledger.free other asset +
        Ledger.entry dest currencyId (s.ledger.free account currencyId) other asset +
        Ledger.entry who cfg.nativeCurrencyId paid other asset

/-- A call succeeds exactly on a dusty entry, once the dust account is set. -/
theorem exists_dustAccount_iff (who : AccountId) (known : s.dustAccount = some dest) :
    (∃ t, dustAccount cfg s who account currencyId = .ok t) ↔ s.Dusty cfg account currencyId := by
  rw [dustAccount_succeeds_iff, known]
  constructor
  · rintro ⟨unlisted, nonempty, below, unreserved, -⟩
    exact ⟨unlisted, nonempty, below, unreserved⟩
  · intro dusty
    exact ⟨dusty.unlisted, dusty.nonempty, dusty.below, dusty.unreserved, rfl⟩

theorem dusting_of_ok (known : s.dustAccount = some dest)
    (dusted : dustAccount cfg s who account currencyId = .ok t) :
    Dusting cfg s who account dest currencyId t := by
  have dusty := (exists_dustAccount_iff who known).mp ⟨t, dusted⟩
  obtain ⟨_, ledger, -, -, -, stored, moved, rewarded⟩ := dustAccount_ok dusted
  obtain rfl := Option.some.inj (known.symm.trans stored)
  have whole : s.ledger.totalBalance account currencyId = s.ledger.free account currencyId := by
    rw [Ledger.totalBalance, dusty.unreserved, Nat.add_zero]
  rw [whole] at moved
  obtain ⟨reserved, issuance⟩ := Ledger.reserved_transfer moved
  cases rewarded with
  | @paid payer after set granted =>
      obtain ⟨reservedAfter, issuanceAfter⟩ := Ledger.reserved_transfer granted
      refine ⟨rfl, reservedAfter.trans reserved, issuanceAfter.trans issuance, payer, cfg.reward,
        fun _ => ⟨set, rfl⟩, ?_⟩
      intro other asset
      have first := Ledger.free_transfer_add_entry moved other asset
      have second := Ledger.free_transfer_add_entry granted other asset
      dsimp only [State.depositEvent] at second ⊢
      omega
  | unpaid =>
      refine ⟨rfl, reserved, issuance, who, 0, fun paid => absurd rfl paid, ?_⟩
      intro other asset
      have first := Ledger.free_transfer_add_entry moved other asset
      dsimp only [State.depositEvent]
      omega

/-- In a currency other than the native one only the dust moves. -/
theorem Dusting.free_of_ne (dusting : Dusting cfg s who account dest currencyId t)
    (foreign : asset ≠ cfg.nativeCurrencyId) (other : AccountId) :
    t.ledger.free other asset +
        Ledger.entry account currencyId (s.ledger.free account currencyId) other asset =
      s.ledger.free other asset +
        Ledger.entry dest currencyId (s.ledger.free account currencyId) other asset := by
  obtain ⟨payer, paid, -, entries⟩ := dusting.free
  have moved := entries other asset
  rwa [Ledger.entry_of_ne_currency foreign, Ledger.entry_of_ne_currency foreign, Nat.add_zero,
    Nat.add_zero] at moved

/-- The dusted entry is emptied, unless it is the dust account's own. -/
theorem Dusting.emptied (dusting : Dusting cfg s who account dest currencyId t)
    (foreign : currencyId ≠ cfg.nativeCurrencyId) (apart : account ≠ dest) :
    t.ledger.free account currencyId = 0 := by
  have moved := dusting.free_of_ne foreign account
  rw [Ledger.entry_self, Ledger.entry_of_ne_account apart] at moved
  omega

/-- Every other entry of a currency that is not the native one is left alone, but for the dust
account's. -/
theorem Dusting.spared (dusting : Dusting cfg s who account dest currencyId t)
    (foreign : asset ≠ cfg.nativeCurrencyId) (apart : other ≠ dest)
    (elsewhere : (other, asset) ≠ (account, currencyId)) :
    t.ledger.free other asset = s.ledger.free other asset := by
  have moved := dusting.free_of_ne foreign other
  have unspent : Ledger.entry account currencyId (s.ledger.free account currencyId) other asset =
      0 := by
    refine if_neg ?_
    rintro ⟨rfl, rfl⟩
    exact elsewhere rfl
  rw [unspent, Ledger.entry_of_ne_account apart] at moved
  exact moved

/-- The entry stays as dusty as it was. -/
theorem Dusting.dusty_iff (dusting : Dusting cfg s who account dest currencyId t)
    (foreign : asset ≠ cfg.nativeCurrencyId) (apart : other ≠ dest)
    (elsewhere : (other, asset) ≠ (account, currencyId)) :
    t.Dusty cfg other asset ↔ s.Dusty cfg other asset := by
  have free := dusting.spared foreign apart elsewhere
  have reserved := congrFun₂ dusting.reserved other asset
  have listed : t.blacklisted other = s.blacklisted other := by rw [dusting.storage]
  constructor
  · intro dusty
    exact ⟨listed ▸ dusty.unlisted, free ▸ dusty.nonempty, free ▸ dusty.below,
      reserved ▸ dusty.unreserved⟩
  · intro dusty
    exact ⟨listed ▸ dusty.unlisted, free.symm ▸ dusty.nonempty, free.symm ▸ dusty.below,
      reserved.symm ▸ dusty.unreserved⟩

end Dusting

section Calls

/-- A call of `dust_account` in a block, with the key that signed it. -/
structure Attempt where
  who : ℕ
  entry : Entry
  deriving DecidableEq, Repr

/-- One call in a block: a failed one leaves the state as it was. -/
def attempt (cfg : Config) (s : State) (call : Attempt) : State :=
  match dustAccount cfg s (.signer call.who) call.entry.1 call.entry.2 with
  | .ok t => t
  | .error _ => s

/-- The entries of the calls that succeed, in order. -/
def dustedEntries (cfg : Config) : State → List Attempt → List Entry
  | _, [] => []
  | s, call :: rest =>
      if s.Dusty cfg call.entry.1 call.entry.2 then
        call.entry :: dustedEntries cfg (attempt cfg s call) rest
      else dustedEntries cfg s rest

variable {cfg : Config} {s : State} {dest account : AccountId} {asset : AssetId}

/-- A call on a dusty entry dusts it, any other changes nothing. -/
theorem attempt_cases (cfg : Config) (known : s.dustAccount = some dest) (call : Attempt) :
    (s.Dusty cfg call.entry.1 call.entry.2 ∧ Dusting cfg s (.signer call.who) call.entry.1 dest
        call.entry.2 (attempt cfg s call)) ∨
      (¬ s.Dusty cfg call.entry.1 call.entry.2 ∧ attempt cfg s call = s) := by
  rw [← exists_dustAccount_iff (.signer call.who) known]
  unfold attempt
  split
  next t called => exact .inl ⟨⟨t, called⟩, dusting_of_ok known called⟩
  next e refused =>
    refine .inr ⟨?_, rfl⟩
    rintro ⟨t, called⟩
    rw [refused] at called
    cases called

/-- Calls in any order empty every dusty entry they name, and leave every other entry as it
is. -/
theorem free_attempts (cfg : Config) (known : s.dustAccount = some dest)
    (foreign : asset ≠ cfg.nativeCurrencyId) (apart : account ≠ dest) (calls : List Attempt) :
    (calls.foldl (attempt cfg) s).ledger.free account asset =
      if (account, asset) ∈ calls.map Attempt.entry ∧ s.Dusty cfg account asset then 0
      else s.ledger.free account asset := by
  induction calls generalizing s with
  | nil => simp
  | cons call rest ih =>
      simp only [List.foldl_cons, List.map_cons, List.mem_cons]
      obtain ⟨dusty, dusting⟩ | ⟨clean, same⟩ := attempt_cases cfg known call
      · have known' : (attempt cfg s call).dustAccount = some dest := by rw [dusting.storage, known]
        rw [ih known']
        by_cases here : (account, asset) = call.entry
        · -- the call empties the entry, and what is empty stays empty
          obtain ⟨rfl, rfl⟩ := Prod.ext_iff.mp here
          rw [dusting.emptied foreign apart, ite_self, if_pos ⟨.inl rfl, dusty⟩]
        · simp only [dusting.spared foreign apart here, dusting.dusty_iff foreign apart here,
            here, false_or]
      · rw [same, ih known]
        refine if_congr ?_ rfl rfl
        constructor
        · rintro ⟨later, dusty⟩
          exact ⟨.inr later, dusty⟩
        · rintro ⟨here | later, dusty⟩
          · rw [← here] at clean
            exact absurd dusty clean
          · exact ⟨later, dusty⟩

/-- The calls change neither the lists nor a reserved balance. -/
theorem storage_attempts (cfg : Config) (known : s.dustAccount = some dest) (calls : List Attempt) :
    (calls.foldl (attempt cfg) s).toStorage = s.toStorage ∧
      (calls.foldl (attempt cfg) s).ledger.reserved = s.ledger.reserved := by
  induction calls generalizing s with
  | nil => exact ⟨rfl, rfl⟩
  | cons call rest ih =>
      rw [List.foldl_cons]
      obtain ⟨-, dusting⟩ | ⟨-, same⟩ := attempt_cases cfg known call
      · have known' : (attempt cfg s call).dustAccount = some dest := by rw [dusting.storage, known]
        obtain ⟨storage, reserved⟩ := ih known'
        exact ⟨storage.trans dusting.storage, reserved.trans dusting.reserved⟩
      · rw [same]
        exact ih known

/-- What is not dusty is not dusted by any of the calls. -/
theorem not_mem_dustedEntries (known : s.dustAccount = some dest)
    (foreign : asset ≠ cfg.nativeCurrencyId) (apart : account ≠ dest)
    (clean : ¬ s.Dusty cfg account asset) (calls : List Attempt) :
    (account, asset) ∉ dustedEntries cfg s calls := by
  induction calls generalizing s with
  | nil => exact List.not_mem_nil
  | cons call rest ih =>
      unfold dustedEntries
      split_ifs with dusty
      · obtain ⟨-, dusting⟩ | ⟨contradiction, -⟩ := attempt_cases cfg known call
        · have elsewhere : (account, asset) ≠ call.entry := by
            intro here
            rw [← here] at dusty
            exact clean dusty
          rw [List.mem_cons, not_or]
          refine ⟨elsewhere, ih (by rw [dusting.storage, known]) ?_⟩
          rwa [dusting.dusty_iff foreign apart elsewhere]
        · exact absurd dusty contradiction
      · exact ih known clean

/-- A treasury with 100 of the native asset, rewards of 3 and deposits of 10, and dust of asset 5
with the treasury and the signer 7. -/
def dustyConfig : Config := ⟨fun _ => 10, 3, 0⟩

def treasury : AccountId := .hashed [1]

/-- The treasury is listed, or is not. -/
def dustyState (listed : Bool) : State where
  accountBlacklist := if listed then AList.singleton treasury () else ∅
  rewardAccount := some treasury
  dustAccount := some treasury
  events := []
  ledger := {
    free := fun who asset =>
      if asset = 0 ∧ who = treasury then 100
      else if asset = 5 ∧ (who = treasury ∨ who = .signer 7) then 4
      else if asset = 5 ∧ who = .signer 8 then 20
      else 0
    reserved := fun _ _ => 0
    issuance := fun _ => 100 }

/-- As long as the dust account is listed as non-dustable, no sequence of calls dusts an entry
twice, in any currency but the native one. -/
theorem dusted_once (known : s.dustAccount = some dest) (listed : s.blacklisted dest = true)
    (calls : List Attempt) :
    ((dustedEntries cfg s calls).filter fun entry => entry.2 ≠ cfg.nativeCurrencyId).Nodup := by
  induction calls generalizing s with
  | nil => exact List.nodup_nil
  | cons call rest ih =>
      unfold dustedEntries
      split_ifs with dusty
      · obtain ⟨-, dusting⟩ | ⟨contradiction, -⟩ := attempt_cases cfg known call
        · have known' : (attempt cfg s call).dustAccount = some dest := by
            rw [dusting.storage, known]
          have listed' : (attempt cfg s call).blacklisted dest = true := by
            rw [dusting.storage, listed]
          have once := ih known' listed'
          rw [List.filter_cons]
          split_ifs with foreign
          · have foreign : call.entry.2 ≠ cfg.nativeCurrencyId := of_decide_eq_true foreign
            have apart : call.entry.1 ≠ dest := by
              rintro same
              rw [same] at dusty
              exact absurd (listed.symm.trans dusty.unlisted) nofun
            refine List.nodup_cons.mpr ⟨fun again => ?_, once⟩
            have emptied := dusting.emptied foreign apart
            have clean : ¬ (attempt cfg s call).Dusty cfg call.entry.1 call.entry.2 :=
              fun dusty => dusty.nonempty.ne' emptied
            exact not_mem_dustedEntries known' foreign apart clean rest
              (List.mem_of_mem_filter again)
          · exact once
        · exact absurd dusty contradiction
      · exact ih known listed

/-- The second of two equal calls fails. -/
theorem dusted_once_treasury :
    dustedEntries dustyConfig (dustyState true)
        [⟨1, .signer 7, 5⟩, ⟨2, .signer 7, 5⟩, ⟨2, treasury, 5⟩] = [(.signer 7, 5)] ∧
      ((dustedEntries dustyConfig (dustyState true)
        [⟨1, .signer 7, 5⟩, ⟨2, .signer 7, 5⟩, ⟨2, treasury, 5⟩]).filter
          fun entry => entry.2 ≠ dustyConfig.nativeCurrencyId).Nodup :=
  have known : (dustyState true).dustAccount = some treasury := rfl
  ⟨by decide +kernel, dusted_once known (by decide) _⟩

/-- A call for the dust account's own dust leaves it where it is, and is rewarded. -/
theorem attempt_dustAccount {payer : AccountId} {call : Attempt}
    (known : s.dustAccount = some call.entry.1) (set : s.rewardAccount = some payer)
    (dusty : s.Dusty cfg call.entry.1 call.entry.2)
    (covered : cfg.reward ≤ s.ledger.free payer cfg.nativeCurrencyId) :
    (attempt cfg s call).toStorage = s.toStorage ∧
      (attempt cfg s call).ledger.reserved = s.ledger.reserved ∧
      ∀ other asset, (attempt cfg s call).ledger.free other asset +
          Ledger.entry payer cfg.nativeCurrencyId cfg.reward other asset =
        s.ledger.free other asset +
          Ledger.entry (.signer call.who) cfg.nativeCurrencyId cfg.reward other asset := by
  obtain ⟨t, called⟩ := (exists_dustAccount_iff (.signer call.who) known).mpr dusty
  have dusting := dusting_of_ok known called
  have reached : attempt cfg s call = t := by rw [attempt, called]
  rw [reached]
  refine ⟨dusting.storage, dusting.reserved, ?_⟩
  obtain ⟨dest, ledger, -, -, -, stored, moved, rewarded⟩ := dustAccount_ok called
  obtain rfl := Option.some.inj (known.symm.trans stored)
  -- the dust is sent from the dust account to itself
  have same (other : AccountId) (asset : AssetId) :
      ledger.free other asset = s.ledger.free other asset :=
    Nat.add_right_cancel (Ledger.free_transfer_add_entry moved other asset)
  cases rewarded with
  | @paid payer' after set' granted =>
      obtain rfl := Option.some.inj (set.symm.trans set')
      intro other asset
      rw [← same other asset]
      exact Ledger.free_transfer_add_entry granted other asset
  | unpaid lacking =>
      have short := lacking payer set
      dsimp only [State.depositEvent] at short
      rw [same] at short
      exact absurd covered (Nat.not_le.mpr short)

/-- The dust account has to be listed.  Otherwise, once all it has of a currency other than the
native one is dust, anybody but the reward account can call for that dust over and over, and is
paid every time until the reward account is used up. -/
theorem rewards_drained {payer : AccountId} {call : Attempt}
    (known : s.dustAccount = some call.entry.1) (set : s.rewardAccount = some payer)
    (dusty : s.Dusty cfg call.entry.1 call.entry.2)
    (foreign : call.entry.2 ≠ cfg.nativeCurrencyId) (apart : .signer call.who ≠ payer) (n : ℕ)
    (covered : n * cfg.reward ≤ s.ledger.free payer cfg.nativeCurrencyId) :
    dustedEntries cfg s (List.replicate n call) = List.replicate n call.entry ∧
      ((List.replicate n call).foldl (attempt cfg) s).ledger.free (.signer call.who)
          cfg.nativeCurrencyId =
        s.ledger.free (.signer call.who) cfg.nativeCurrencyId + n * cfg.reward := by
  induction n generalizing s with
  | zero =>
      rw [Nat.zero_mul]
      exact ⟨rfl, rfl⟩
  | succ n ih =>
      rw [Nat.succ_mul] at covered ⊢
      obtain ⟨storage, reserved, free⟩ := attempt_dustAccount known set dusty (by omega)
      have dust := free call.entry.1 call.entry.2
      rw [Ledger.entry_of_ne_currency foreign, Ledger.entry_of_ne_currency foreign,
        Nat.add_zero, Nat.add_zero] at dust
      have dusty' : (attempt cfg s call).Dusty cfg call.entry.1 call.entry.2 := by
        refine ⟨?_, ?_, ?_, ?_⟩
        · rw [storage]
          exact dusty.unlisted
        · exact dust.symm ▸ dusty.nonempty
        · exact dust.symm ▸ dusty.below
        · rw [reserved]
          exact dusty.unreserved
      have earned := free (.signer call.who) cfg.nativeCurrencyId
      have spent := free payer cfg.nativeCurrencyId
      rw [Ledger.entry_self, Ledger.entry_of_ne_account apart] at earned
      rw [Ledger.entry_self, Ledger.entry_of_ne_account apart.symm] at spent
      obtain ⟨again, total⟩ := ih (by rw [storage, known]) (by rw [storage, set]) dusty' (by omega)
      rw [List.replicate_succ, List.replicate_succ, List.foldl_cons, total]
      refine ⟨?_, by omega⟩
      rw [dustedEntries, if_pos dusty, again]

theorem rewards_drained_ten :
    ((List.replicate 10 ⟨2, treasury, 5⟩).foldl (attempt dustyConfig)
        (dustyState false)).ledger.free (.signer 2) 0 = 30 :=
  have set : (dustyState false).rewardAccount = some treasury := rfl
  have dusty : (dustyState false).Dusty dustyConfig treasury 5 := by decide
  (@rewards_drained dustyConfig (dustyState false) treasury ⟨2, treasury, 5⟩ rfl set dusty
    (by decide) (by decide) 10 (by decide)).2

end Calls

section Worker

/-- Why the worker stops. -/
inductive OffchainErr
  | offchainLock
  | notValidator
  deriving DecidableEq, Repr

/-- What the worker finds on its node: `renewals` is how often the lock can be extended. -/
structure Node where
  isValidator : Bool
  lockFree : Bool
  canSign : Bool
  renewals : ℕ
  deriving DecidableEq, Repr

/-- The loop of `_offchain_worker` over the token accounts, with the entries it submits
`dust_account` for. -/
def scan (cfg : Config) (ledger : Currencies) (canSign : Bool) :
    ℕ → List Entry → List Entry × Except OffchainErr Unit
  | _, [] => ([], .ok ())
  | renewals, (who, asset) :: rest =>
      -- `saturating_add`
      let total := min (ledger.free who asset + ledger.reserved who asset) (u128Bound - 1)
      let submitted :=
        if total < cfg.minCurrencyDeposits asset ∧ canSign = true then [(who, asset)] else []
      match renewals with
      | 0 => (submitted, .error .offchainLock)
      | renewals + 1 =>
          let others := scan cfg ledger canSign renewals rest
          (submitted ++ others.1, others.2)

/-- `_offchain_worker`, over the entries of the token accounts. -/
def offchainWorker (cfg : Config) (node : Node) (ledger : Currencies) (accounts : List Entry) :
    List Entry × Except OffchainErr Unit :=
  if node.isValidator = false then ([], .error .notValidator)
  else if node.lockFree = false then ([], .error .offchainLock)
  else scan cfg ledger node.canSign node.renewals accounts

variable {cfg : Config} {s : State} {dest : AccountId} {accounts : List Entry}

/-- A scan that goes through submits exactly the entries below the deposit. -/
theorem mem_scan_iff {ledger : Currencies} {renewals : ℕ}
    (deposits : ∀ asset, cfg.minCurrencyDeposits asset < u128Bound)
    (completed : (scan cfg ledger true renewals accounts).2 = .ok ()) (entry : Entry) :
    entry ∈ (scan cfg ledger true renewals accounts).1 ↔
      entry ∈ accounts ∧
        ledger.totalBalance entry.1 entry.2 < cfg.minCurrencyDeposits entry.2 := by
  induction accounts generalizing renewals with
  | nil => simp [scan]
  | cons first rest ih =>
      obtain ⟨who, asset⟩ := first
      cases renewals with
      | zero => exact absurd completed nofun
      | succ renewals =>
          have others := @ih renewals completed
          have deposit := deposits asset
          have saturated : min (ledger.free who asset + ledger.reserved who asset)
                (u128Bound - 1) < cfg.minCurrencyDeposits asset ↔
              ledger.totalBalance who asset < cfg.minCurrencyDeposits asset := by
            unfold Ledger.totalBalance
            omega
          dsimp only [scan]
          rw [List.mem_append, others, List.mem_cons, or_and_right]
          refine or_congr_left ?_
          simp only [and_true, saturated]
          split_ifs with below
          · rw [List.mem_singleton, iff_self_and]
            rintro rfl
            exact below
          · refine iff_of_false List.not_mem_nil ?_
            rintro ⟨rfl, dust⟩
            exact below dust

theorem mem_offchainWorker_iff {node : Node} {ledger : Currencies}
    (deposits : ∀ asset, cfg.minCurrencyDeposits asset < u128Bound) (signs : node.canSign = true)
    (completed : (offchainWorker cfg node ledger accounts).2 = .ok ()) (entry : Entry) :
    entry ∈ (offchainWorker cfg node ledger accounts).1 ↔
      entry ∈ accounts ∧
        ledger.totalBalance entry.1 entry.2 < cfg.minCurrencyDeposits entry.2 := by
  unfold offchainWorker at completed ⊢
  rw [signs] at completed ⊢
  split_ifs at completed ⊢ with idle locked
  exact mem_scan_iff deposits completed entry

/-- After a complete run of the worker on a validator that can sign, the calls it submitted,
executed in any order and by any signers, have emptied every dusty entry among the token accounts
and left every other entry of theirs as it was, apart from those of the dust account. -/
theorem sweep_cleans {node : Node}
    (deposits : ∀ asset, cfg.minCurrencyDeposits asset < u128Bound)
    (known : s.dustAccount = some dest) (signs : node.canSign = true)
    (completed : (offchainWorker cfg node s.ledger accounts).2 = .ok ())
    {calls : List Attempt}
    (executed : (calls.map Attempt.entry).Perm (offchainWorker cfg node s.ledger accounts).1)
    {account : AccountId} {asset : AssetId} (listed : (account, asset) ∈ accounts)
    (foreign : asset ≠ cfg.nativeCurrencyId) (apart : account ≠ dest) :
    (calls.foldl (attempt cfg) s).ledger.free account asset =
        (if s.Dusty cfg account asset then 0 else s.ledger.free account asset) ∧
      ¬ (calls.foldl (attempt cfg) s).Dusty cfg account asset := by
  have submitted := mem_offchainWorker_iff deposits signs completed (account, asset)
  have free := free_attempts cfg known foreign apart calls
  obtain ⟨storage, reserved⟩ := storage_attempts cfg known calls
  -- a dusty entry holds less than the deposit, so the worker has submitted it
  have named (dusty : s.Dusty cfg account asset) :
      (account, asset) ∈ calls.map Attempt.entry := by
    rw [executed.mem_iff, submitted, Ledger.totalBalance, dusty.unreserved, Nat.add_zero]
    exact ⟨listed, dusty.below⟩
  by_cases dusty : s.Dusty cfg account asset
  · rw [if_pos ⟨named dusty, dusty⟩] at free
    rw [if_pos dusty]
    exact ⟨free, fun left => left.nonempty.ne' free⟩
  · rw [if_neg fun both => dusty both.2] at free
    rw [if_neg dusty]
    refine ⟨free, fun left => dusty ⟨?_, free ▸ left.nonempty, free ▸ left.below, ?_⟩⟩
    · rw [← storage]
      exact left.unlisted
    · rw [← reserved]
      exact left.unreserved

theorem sweep_cleans_signer :
    ([⟨1, .signer 7, 5⟩, ⟨1, treasury, 5⟩].foldl (attempt dustyConfig)
        (dustyState true)).ledger.free (.signer 7) 5 = 0 :=
  have known : (dustyState true).dustAccount = some treasury := rfl
  have deposits (asset : AssetId) : dustyConfig.minCurrencyDeposits asset < u128Bound := by
    change 10 < u128Bound
    decide
  have completed : (offchainWorker dustyConfig ⟨true, true, true, 3⟩ (dustyState true).ledger
      [(.signer 7, 5), (treasury, 5), (.signer 8, 5)]).2 = .ok () := by decide
  have executed : ([⟨1, .signer 7, 5⟩, ⟨1, treasury, 5⟩].map Attempt.entry).Perm
      (offchainWorker dustyConfig ⟨true, true, true, 3⟩ (dustyState true).ledger
        [(.signer 7, 5), (treasury, 5), (.signer 8, 5)]).1 := by decide
  (sweep_cleans deposits known rfl completed executed (by decide) (by decide) (by decide)).1

end Worker

end Basilisk.Duster
