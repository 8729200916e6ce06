/-
# What the calls do

A successful call creates a pool, rewrites one that has not started, adds to its
reserves, removes it, or trades with it.  `Effect` says for each what was checked
and what is written; everything about runs of the pallet is derived from it.
-/

import Basilisk.Lbp.Model

namespace Basilisk.Lbp

open Basilisk.Math
open Basilisk.Xyk (AMMTransfer)

variable {cfg : Config} {s t : State} {pool : Pool} {call : Call} {transfer : AMMTransfer}

section Validation

@[simp]
theorem State.transfer_eq_ok {currency : AssetId} {sender receiver : AccountId} {amount : ℕ} :
    s.transfer currency sender receiver amount = .ok t ↔
      ∃ ledger, s.ledger.transfer currency sender receiver amount = some ledger ∧
        { s with ledger } = t := by
  simp only [State.transfer, bind_eq_ok, okOr_eq_ok, return_eq_ok]

/-- What `validate_pool_data` accepts at a block. -/
structure Pool.ValidAt (pool : Pool) (now : ℕ) : Prop where
  range : isBlockRangeValid now pool.start pool.endBlock = true
  duration : pool.endBlock.getD 0 - pool.start.getD 0 < maxSaleDuration
  weights : pool.initialWeight ≠ 0 ∧ pool.initialWeight < maxWeight ∧
    pool.finalWeight ≠ 0 ∧ pool.finalWeight < maxWeight
  fee : pool.fee.2 ≠ 0

theorem validAt_of_validatePoolData (accepted : validatePoolData s pool = .ok ()) :
    pool.ValidAt s.blockNumber := by
  simp only [validatePoolData, bind_eq_ok, ensure_eq_ok, exists_const] at accepted
  obtain ⟨range, duration, weights, fee⟩ := accepted
  exact ⟨range, duration, weights, fee⟩

theorem isPoolRunning_iff :
    s.isPoolRunning pool = true ↔ ∃ start ∈ pool.start, ∃ endBlock ∈ pool.endBlock,
      start ≤ s.blockNumber ∧ s.blockNumber ≤ endBlock := by
  unfold State.isPoolRunning
  cases pool.start <;> cases pool.endBlock <;> simp

theorem hasPoolStarted_iff :
    s.hasPoolStarted pool = true ↔ ∃ start ∈ pool.start, start ≤ s.blockNumber := by
  unfold State.hasPoolStarted
  cases pool.start <;> simp

/-- A running sale has started. -/
theorem hasPoolStarted_of_running (running : s.isPoolRunning pool = true) :
    s.hasPoolStarted pool = true := by
  obtain ⟨start, begins, _, -, started, -⟩ := isPoolRunning_iff.mp running
  exact hasPoolStarted_iff.mpr ⟨start, begins, started⟩

/-- What both validations of a trade have checked. -/
structure Validated (cfg : Config) (s : State) (pool : Pool) (transfer : AMMTransfer) :
    Prop where
  stored : s.poolData.lookup (getPairId transfer.assets) = some pool
  running : s.isPoolRunning pool = true
  feeAsset : transfer.fee.1 = pool.assets.1
  fee : ∃ amount, calculateFees cfg s pool amount = .ok transfer.fee.2

/-- What `validate_sell` accepts: the pool computes an amount out, and the fee is a part of
the amount paid if that is the accumulated asset, and of the computed amount otherwise. -/
structure Sale (cfg : Config) (s : State) (pool : Pool) (who : AccountId) (assets : AssetPair)
    (amount minBought computed : ℕ) (transfer : AMMTransfer) : Prop where
  stored : s.poolData.lookup (getPairId assets) = some pool
  running : s.isPoolRunning pool = true
  funded : amount ≤ s.ledger.free who assets.assetIn
  priced : ∃ weightIn weightOut,
    getSortedWeight cfg assets.assetIn s.blockNumber pool = .ok (weightIn, weightOut) ∧
    cfg.math.calculateOutGivenIn (s.ledger.free (getPairId assets) assets.assetIn)
      (s.ledger.free (getPairId assets) assets.assetOut) weightIn weightOut amount = some computed
  requested : amount ≤ s.ledger.free (getPairId assets) assets.assetIn / maxInRatio
  bounded : computed ≤ s.ledger.free (getPairId assets) assets.assetOut / maxOutRatio
  trader : transfer.origin = who
  pair : transfer.assets = assets
  feeAsset : transfer.fee.1 = pool.assets.1
  fee : calculateFees cfg s pool (if pool.assets.1 = assets.assetIn then amount else computed) =
    .ok transfer.fee.2
  paid : transfer.amount + (if pool.assets.1 = assets.assetIn then transfer.fee.2 else 0) = amount
  received : transfer.amountOut + (if pool.assets.1 = assets.assetIn then 0 else transfer.fee.2) =
    computed
  limit : minBought ≤ transfer.amountOut

/-- What `validate_buy` accepts: the pool computes an amount in, for the fee as well if that
is in the accumulated asset; otherwise the fee is a part of the computed amount. -/
structure Purchase (cfg : Config) (s : State) (pool : Pool) (who : AccountId)
    (assets : AssetPair) (amount maxSold computed : ℕ) (transfer : AMMTransfer) : Prop where
  stored : s.poolData.lookup (getPairId assets) = some pool
  running : s.isPoolRunning pool = true
  funded : maxSold ≤ s.ledger.free who assets.assetIn
  priced : ∃ weightIn weightOut,
    getSortedWeight cfg assets.assetIn s.blockNumber pool = .ok (weightIn, weightOut) ∧
    cfg.math.calculateInGivenOut (s.ledger.free (getPairId assets) assets.assetIn)
      (s.ledger.free (getPairId assets) assets.assetOut) weightIn weightOut
      (if pool.assets.1 = assets.assetOut then amount + transfer.fee.2 else amount) = some computed
  requested : amount ≤ s.ledger.free (getPairId assets) assets.assetOut / maxOutRatio
  bounded : computed ≤ s.ledger.free (getPairId assets) assets.assetIn / maxInRatio
  trader : transfer.origin = who
  pair : transfer.assets = assets
  feeAsset : transfer.fee.1 = pool.assets.1
  fee : calculateFees cfg s pool (if pool.assets.1 = assets.assetOut then amount else computed) =
    .ok transfer.fee.2
  paid : transfer.amount + (if pool.assets.1 = assets.assetOut then 0 else transfer.fee.2) =
    computed
  received : transfer.amountOut = amount
  limit : computed ≤ maxSold

theorem validateSell_ok {who : AccountId} {assets : AssetPair} {amount minBought : ℕ}
    (accepted : validateSell cfg s who assets amount minBought = .ok transfer) :
    ∃ pool computed, Sale cfg s pool who assets amount minBought computed transfer := by
  simp only [validateSell, bind_eq_ok, ensure_eq_ok, okOr_eq_ok, exists_const,
    checkedDiv_eq_some] at accepted
  obtain ⟨-, funded, pool, stored, running, ⟨weightIn, weightOut⟩, weights, _, ⟨-, rfl⟩,
    requested, chosen⟩ := accepted
  split_ifs at chosen with paysFee
  · simp only [bind_eq_ok, ensure_eq_ok, okOr_eq_ok, exists_const, return_eq_ok,
      checkedDiv_eq_some, checkedSub_eq_some] at chosen
    obtain ⟨fee, charged, computed, priced, _, ⟨-, rfl⟩, bounded, limit, _, ⟨covers, rfl⟩,
      rfl⟩ := chosen
    exact ⟨pool, computed,
      { stored, running, funded, requested, bounded, limit
        priced := ⟨weightIn, weightOut, weights, priced⟩
        trader := rfl
        pair := rfl
        feeAsset := rfl
        fee := by simpa only [if_pos paysFee] using charged
        paid := by simpa only [if_pos paysFee] using Nat.sub_add_cancel covers
        received := by simp only [if_pos paysFee, Nat.add_zero] }⟩
  · simp only [bind_eq_ok, ensure_eq_ok, okOr_eq_ok, exists_const, return_eq_ok,
      checkedDiv_eq_some, checkedSub_eq_some] at chosen
    obtain ⟨computed, priced, fee, charged, _, ⟨covers, rfl⟩, _, ⟨-, rfl⟩, bounded, limit,
      rfl⟩ := chosen
    exact ⟨pool, computed,
      { stored, running, funded, requested, bounded, limit
        priced := ⟨weightIn, weightOut, weights, priced⟩
        trader := rfl
        pair := rfl
        feeAsset := rfl
        fee := by simpa only [if_neg paysFee] using charged
        paid := by simp only [if_neg paysFee, Nat.add_zero]
        received := by simpa only [if_neg paysFee] using Nat.sub_add_cancel covers }⟩

theorem validateBuy_ok {who : AccountId} {assets : AssetPair} {amount maxSold : ℕ}
    (accepted : validateBuy cfg s who assets amount maxSold = .ok transfer) :
    ∃ pool computed, Purchase cfg s pool who assets amount maxSold computed transfer := by
  simp only [validateBuy, bind_eq_ok, ensure_eq_ok, okOr_eq_ok, exists_const,
    checkedDiv_eq_some] at accepted
  obtain ⟨-, funded, pool, stored, running, ⟨weightIn, weightOut⟩, weights, _, ⟨-, rfl⟩,
    requested, chosen⟩ := accepted
  split_ifs at chosen with onTop
  · simp only [bind_eq_ok, ensure_eq_ok, okOr_eq_ok, exists_const, return_eq_ok,
      checkedDiv_eq_some, checkedAdd_eq_some] at chosen
    obtain ⟨fee, charged, _, ⟨-, rfl⟩, computed, priced, _, ⟨-, rfl⟩, bounded, limit, rfl⟩ :=
      chosen
    exact ⟨pool, computed,
      { stored, running, funded, requested, bounded, limit
        priced := ⟨weightIn, weightOut, weights, by simpa only [if_pos onTop] using priced⟩
        trader := rfl
        pair := rfl
        feeAsset := rfl
        fee := by simpa only [if_pos onTop] using charged
        paid := by simp only [if_pos onTop, Nat.add_zero]
        received := rfl }⟩
  · simp only [bind_eq_ok, ensure_eq_ok, okOr_eq_ok, exists_const, return_eq_ok,
      checkedDiv_eq_some, checkedSub_eq_some] at chosen
    obtain ⟨computed, priced, fee, charged, _, ⟨covers, rfl⟩, _, ⟨-, rfl⟩, bounded, limit,
      rfl⟩ := chosen
    exact ⟨pool, computed,
      { stored, running, funded, requested, bounded, limit
        priced := ⟨weightIn, weightOut, weights, by simpa only [if_neg onTop] using priced⟩
        trader := rfl
        pair := rfl
        feeAsset := rfl
        fee := by simpa only [if_neg onTop] using charged
        paid := by simpa only [if_neg onTop] using Nat.sub_add_cancel covers
        received := rfl }⟩

theorem Sale.validated {who : AccountId} {assets : AssetPair} {amount minBought computed : ℕ}
    (sale : Sale cfg s pool who assets amount minBought computed transfer) :
    Validated cfg s pool transfer :=
  ⟨sale.pair ▸ sale.stored, sale.running, sale.feeAsset, _, sale.fee⟩

theorem Purchase.validated {who : AccountId} {assets : AssetPair} {amount maxSold computed : ℕ}
    (purchase : Purchase cfg s pool who assets amount maxSold computed transfer) :
    Validated cfg s pool transfer :=
  ⟨purchase.pair ▸ purchase.stored, purchase.running, purchase.feeAsset, _, purchase.fee⟩

theorem validated_of_validateSell {who : AccountId} {assets : AssetPair} {amount minBought : ℕ}
    (accepted : validateSell cfg s who assets amount minBought = .ok transfer) :
    ∃ pool, Validated cfg s pool transfer ∧ transfer.origin = who ∧ transfer.assets = assets := by
  obtain ⟨pool, computed, sale⟩ := validateSell_ok accepted
  exact ⟨pool, sale.validated, sale.trader, sale.pair⟩

theorem validated_of_validateBuy {who : AccountId} {assets : AssetPair} {amount maxSold : ℕ}
    (accepted : validateBuy cfg s who assets amount maxSold = .ok transfer) :
    ∃ pool, Validated cfg s pool transfer ∧ transfer.origin = who ∧ transfer.assets = assets := by
  obtain ⟨pool, computed, purchase⟩ := validateBuy_ok accepted
  exact ⟨pool, purchase.validated, purchase.trader, purchase.pair⟩

end Validation

section Effects

/-- The trade a call asks for, as it is validated. -/
def Call.trade (cfg : Config) (s : State) : Call → Option AMMTransfer
  | .sell who assetIn assetOut amount maxLimit =>
      (validateSell cfg s (.signer who) ⟨assetIn, assetOut⟩ amount maxLimit).toOption
  | .buy who assetOut assetIn amount maxLimit =>
      (validateBuy cfg s (.signer who) ⟨assetIn, assetOut⟩ amount maxLimit).toOption
  | _ => none

theorem validated_of_trade (asked : call.trade cfg s = some transfer) :
    ∃ pool, Validated cfg s pool transfer := by
  cases call with
  | sell who assetIn assetOut amount maxLimit =>
      obtain ⟨pool, validated, -, -⟩ := validated_of_validateSell (toOption_eq_some.mp asked)
      exact ⟨pool, validated⟩
  | buy who assetOut assetIn amount maxLimit =>
      obtain ⟨pool, validated, -, -⟩ := validated_of_validateBuy (toOption_eq_some.mp asked)
      exact ⟨pool, validated⟩
  | _ => cases asked

/-- The locks once the fee of a trade is added to what was collected. -/
def State.locksAfter (s : State) (pool : Pool) (transfer : AMMTransfer) :
    AList fun _ : Collector => ℕ :=
  (s.setLock pool.assets.1 pool.feeCollector
    (wrappingAdd u128Bound (s.collectedFees pool) transfer.fee.2)).locks

/-- The fee collectors after an update of a pool. -/
inductive Registers (s : State) (pool updated : Pool) : (AList fun _ : Collector => Bool) → Prop
  | kept (same : updated.collector = pool.collector) :
      Registers s pool updated s.feeCollectorWithAsset
  | replaced (unused : s.feeCollectorWithAsset.lookup updated.collector ≠ some true) :
      Registers s pool updated
        ((s.feeCollectorWithAsset.erase pool.collector).insert updated.collector true)

/-- What a successful call checks and writes. -/
inductive Effect (cfg : Config) (s : State) : Call → State → Prop
  | created {new : NewPool} {mid ledger : Currencies} {events : List Event}
      (fresh : s.poolData.lookup new.poolId = none)
      (distinct : new.assetA ≠ new.assetB)
      (unused : s.feeCollectorWithAsset.lookup new.pool.collector = none)
      (valid : new.pool.ValidAt s.blockNumber)
      (paidA : s.ledger.transfer new.assetA new.poolOwner new.poolId new.assetAAmount = some mid)
      (paidB : mid.transfer new.assetB new.poolOwner new.poolId new.assetBAmount = some ledger) :
      Effect cfg s (.createPool new)
        { s with
          poolData := s.poolData.insert new.poolId new.pool
          feeCollectorWithAsset := s.feeCollectorWithAsset.insert new.pool.collector true
          ledger
          events }
  | updated {who : ℕ} {poolId : AccountId} {update : PoolUpdate} {pool : Pool}
      {collectors : AList fun _ : Collector => Bool} {events : List Event}
      (stored : s.poolData.lookup poolId = some pool)
      (owned : .signer who = pool.owner)
      (pending : s.hasPoolStarted pool = false)
      (registers : Registers s pool (update.apply pool) collectors)
      (valid : (update.apply pool).ValidAt s.blockNumber) :
      Effect cfg s (.updatePoolData who poolId update)
        { s with
          poolData := s.poolData.insert poolId (update.apply pool)
          feeCollectorWithAsset := collectors
          events }
  | funded {who : ℕ} {assetA assetB : AssetId} {amountA amountB : ℕ} {pool : Pool}
      {mid ledger : Currencies} {events : List Event}
      (stored : s.poolData.lookup (pairAccountFromAssets assetA assetB) = some pool)
      (owned : .signer who = pool.owner)
      (paidA : s.ledger.transfer assetA (.signer who) (pairAccountFromAssets assetA assetB)
        amountA = some mid)
      (paidB : mid.transfer assetB (.signer who) (pairAccountFromAssets assetA assetB)
        amountB = some ledger) :
      Effect cfg s (.addLiquidity who assetA amountA assetB amountB) { s with ledger, events }
  | removed {who : ℕ} {poolId : AccountId} {pool : Pool} {mid ledger : Currencies}
      {events : List Event}
      (stored : s.poolData.lookup poolId = some pool)
      (owned : .signer who = pool.owner)
      (idle : s.isPoolRunning pool = false)
      (paidA : s.ledger.transfer pool.assets.1 poolId (.signer who)
        (s.ledger.free poolId pool.assets.1) = some mid)
      (paidB : mid.transfer pool.assets.2 poolId (.signer who)
        (s.ledger.free poolId pool.assets.2) = some ledger) :
      Effect cfg s (.removeLiquidity who poolId)
        { s with
          poolData := s.poolData.erase poolId
          feeCollectorWithAsset := s.feeCollectorWithAsset.erase pool.collector
          ledger
          locks := if 0 < s.collectedFees pool then s.locks.erase pool.collector else s.locks
          events }
  | traded {call : Call} {transfer : AMMTransfer} {pool : Pool} {ledger : Currencies}
      {events : List Event}
      (asked : call.trade cfg s = some transfer)
      (validated : Validated cfg s pool transfer) :
      Effect cfg s call
        { s with
          ledger
          locks := s.locksAfter pool transfer
          events }

theorem registers_of_replaceFeeCollector {update : PoolUpdate}
    (called : replaceFeeCollector s pool update.feeCollector = .ok t) :
    ∃ collectors, Registers s pool (update.apply pool) collectors ∧
      t = { s with feeCollectorWithAsset := collectors } := by
  cases collector : update.feeCollector with
  | none =>
      rw [collector] at called
      obtain rfl := Except.ok.inj called
      refine ⟨_, .kept ?_, rfl⟩
      rw [Pool.collector, PoolUpdate.apply, collector]
      rfl
  | some updated =>
      have named : (update.apply pool).collector = (updated, pool.assets.1) := by
        rw [Pool.collector, PoolUpdate.apply, collector]
        rfl
      simp only [replaceFeeCollector, collector, bind_eq_ok, ensure_eq_ok, exists_const,
        return_eq_ok] at called
      obtain ⟨unused, rfl⟩ := called
      refine ⟨_, .replaced ?_, ?_⟩
      · intro used
        rw [← named, used] at unused
        cases unused
      · rw [named]
        rfl

/-- The trader pays the fee if the accumulated asset is paid in, and the pool otherwise. -/
def feePayer (pool : Pool) (who : AccountId) (assets : AssetPair) : AccountId :=
  if assets.assetIn = pool.assets.1 then who else getPairId assets

/-- The three payments of a trade. -/
theorem executeTrade_iff (stored : s.poolData.lookup (getPairId transfer.assets) = some pool)
    (feeAsset : transfer.fee.1 = pool.assets.1) :
    executeTrade s transfer = .ok t ↔ ∃ mid after ledger,
      s.ledger.transfer transfer.assets.assetIn transfer.origin (getPairId transfer.assets)
        transfer.amount = some mid ∧
      mid.transfer transfer.assets.assetOut (getPairId transfer.assets) transfer.origin
        transfer.amountOut = some after ∧
      after.transfer pool.assets.1 (feePayer pool transfer.origin transfer.assets)
        pool.feeCollector transfer.fee.2 = some ledger ∧
      { s with ledger, locks := s.locksAfter pool transfer } = t := by
  simp only [executeTrade, bind_eq_ok, okOr_eq_ok, State.transfer_eq_ok, return_eq_ok, stored,
    Option.some.injEq, feeAsset]
  constructor
  · rintro ⟨_, rfl, _, ⟨mid, movedIn, rfl⟩, _, ⟨after, movedOut, rfl⟩, _, ⟨ledger, movedFee, rfl⟩,
      rfl⟩
    exact ⟨mid, after, ledger, movedIn, movedOut, movedFee, rfl⟩
  · rintro ⟨mid, after, ledger, movedIn, movedOut, movedFee, rfl⟩
    exact ⟨pool, rfl, _, ⟨mid, movedIn, rfl⟩, _, ⟨after, movedOut, rfl⟩, _, ⟨ledger, movedFee, rfl⟩,
      rfl⟩

/-- Executing a validated trade settles it on the ledger and adds its fee to the lock. -/
theorem executeTrade_ok (validated : Validated cfg s pool transfer)
    (called : executeTrade s transfer = .ok t) :
    ∃ ledger, t = { s with ledger, locks := s.locksAfter pool transfer } := by
  obtain ⟨_, _, ledger, -, -, -, rfl⟩ :=
    (executeTrade_iff validated.stored validated.feeAsset).mp called
  exact ⟨ledger, rfl⟩

/-- Unlocking the collected fees touches nothing but the locks. -/
theorem State.unlock_eq (s : State) (pool : Pool) :
    (if 0 < s.collectedFees pool then s.removeLock pool.assets.1 pool.feeCollector else s) =
      { s with
        locks := if 0 < s.collectedFees pool then s.locks.erase pool.collector else s.locks } := by
  split_ifs
  · rfl
  · rfl

theorem effect_of_dispatch (called : dispatch cfg s call = .ok t) : Effect cfg s call t := by
  cases call with
  | createPool new =>
      simp only [dispatch, createPool, bind_eq_ok, ensure_eq_ok, exists_const,
        State.transfer_eq_ok, return_eq_ok] at called
      obtain ⟨-, distinct, fresh, unused, -, -, _, valid, _, ⟨_, paidA, rfl⟩, _,
        ⟨_, paidB, rfl⟩, rfl⟩ := called
      refine .created ?_ distinct unused (validAt_of_validatePoolData valid) paidA paidB
      rw [State.poolExists, Option.isSome_eq_false_iff, Option.isNone_iff_eq_none] at fresh
      exact fresh
  | updatePoolData who poolId update =>
      simp only [dispatch, updatePoolData, bind_eq_ok, ensure_eq_ok, okOr_eq_ok, exists_const,
        return_eq_ok] at called
      obtain ⟨pool, stored, -, owned, pending, _, replaced, _, valid, rfl⟩ := called
      obtain ⟨collectors, registers, rfl⟩ := registers_of_replaceFeeCollector replaced
      exact .updated stored owned pending registers (validAt_of_validatePoolData valid)
  | addLiquidity who assetA amountA assetB amountB =>
      simp only [dispatch, addLiquidity, bind_eq_ok, ensure_eq_ok, okOr_eq_ok, exists_const,
        State.transfer_eq_ok, return_eq_ok] at called
      obtain ⟨pool, stored, owned, -, -, -, _, ⟨_, paidA, rfl⟩, _, ⟨_, paidB, rfl⟩, rfl⟩ := called
      exact .funded stored owned paidA paidB
  | removeLiquidity who poolId =>
      simp only [dispatch, removeLiquidity, bind_eq_ok, ensure_eq_ok, okOr_eq_ok, exists_const,
        State.transfer_eq_ok, return_eq_ok] at called
      obtain ⟨pool, stored, owned, idle, _, ⟨_, paidA, rfl⟩, _, ⟨ledger, paidB, rfl⟩,
        rfl⟩ := called
      rw [State.unlock_eq]
      exact .removed stored owned idle paidA paidB
  | sell who assetIn assetOut amount maxLimit =>
      simp only [dispatch, sell, executeSell, bind_eq_ok, return_eq_ok] at called
      obtain ⟨transfer, accepted, _, executed, rfl⟩ := called
      obtain ⟨pool, validated, -, -⟩ := validated_of_validateSell accepted
      obtain ⟨ledger, rfl⟩ := executeTrade_ok validated executed
      exact .traded (toOption_eq_some.mpr accepted) validated
  | buy who assetOut assetIn amount maxLimit =>
      simp only [dispatch, buy, executeBuy, bind_eq_ok, return_eq_ok] at called
      obtain ⟨transfer, accepted, _, executed, rfl⟩ := called
      obtain ⟨pool, validated, -, -⟩ := validated_of_validateBuy accepted
      obtain ⟨ledger, rfl⟩ := executeTrade_ok validated executed
      exact .traded (toOption_eq_some.mpr accepted) validated

/-- What holds of every created pool and survives every update holds of every stored pool. -/
theorem pools_of_reachable (P : AccountId → Pool → Prop)
    (created : ∀ (new : NewPool) (now : ℕ), new.assetA ≠ new.assetB → new.pool.ValidAt now →
      P new.poolId new.pool)
    (updated : ∀ (poolId : AccountId) (pool : Pool) (update : PoolUpdate) (now : ℕ),
      P poolId pool → (update.apply pool).ValidAt now → P poolId (update.apply pool))
    (reachable : Reachable Initial (Step cfg) s) :
    ∀ poolId pool, s.poolData.lookup poolId = some pool → P poolId pool := by
  refine reachable.invariant
    (fun s => ∀ poolId pool, s.poolData.lookup poolId = some pool → P poolId pool) ?_ ?_
  · intro s initial poolId pool stored
    rw [initial.poolData, AList.lookup_empty] at stored
    cases stored
  · intro s label t held taken
    cases label with
    | external blockNumber ledger =>
        rcases taken with ⟨-, rfl⟩
        exact held
    | call call =>
        cases effect_of_dispatch taken with
        | created _ distinct _ valid =>
            exact AList.forall_lookup_insert (created _ _ distinct valid)
              fun poolId pool _ stored => held poolId pool stored
        | updated stored _ _ _ valid =>
            exact AList.forall_lookup_insert (updated _ _ _ _ (held _ _ stored) valid)
              fun poolId pool _ stored => held poolId pool stored
        | removed =>
            exact AList.forall_lookup_erase fun poolId pool _ stored => held poolId pool stored
        | funded => exact held
        | traded => exact held

end Effects

end Basilisk.Lbp
