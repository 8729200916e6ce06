/-
# The LBP pallet

A liquidity bootstrapping pool sells one asset for another over a range of blocks
while the weights of the two assets shift.  The first asset of a pool is the one it
accumulates: fees are taken in it, sent to the pool's fee collector and locked
there, and the running total of the lock decides which fee applies.

The pricing formulas live in a separate crate, so they are a parameter, `Math`.
Currencies are a plain ledger, and next to it stand the locks under the pallet's
identifier: setting a lock overwrites it, except that a lock of zero is ignored.

Every extrinsic is transactional, so a call is a function into `Except`: an error
leaves the state as it was.
-/

import Basilisk.Xyk.Model

namespace Basilisk.Lbp

open Basilisk.Math
open Basilisk.Xyk (AMMTransfer)

/-- The functions of `hydra_dx_math::lbp` and `hydra_dx_math::fee` the pallet calls. -/
structure Math where
  calculateLinearWeights (start endBlock initialWeight finalWeight now : ℕ) : Option ℕ
  calculateSpotPrice (inReserve outReserve inWeight outWeight amount : ℕ) : Option ℕ
  calculateOutGivenIn (inReserve outReserve inWeight outWeight amount : ℕ) : Option ℕ
  calculateInGivenOut (inReserve outReserve inWeight outWeight amount : ℕ) : Option ℕ
  calculatePoolTradeFee (amount : ℕ) (fee : ℕ × ℕ) : Option ℕ

/-- The pallet's `Config`, as far as the calls read it. -/
structure Config where
  minPoolLiquidity : ℕ
  math : Math

inductive WeightCurveType
  | linear
  deriving DecidableEq, Repr

/-- `MAX_WEIGHT`: a weight of 100%. -/
def maxWeight : ℕ := 100000000

/-- `MAX_SALE_DURATION`: 14 days of blocks of 6 seconds. -/
def maxSaleDuration : ℕ := 60 * 60 * 24 / 6 * 14

/-- `MAX_IN_RATIO`. -/
def maxInRatio : ℕ := 3

/-- `MAX_OUT_RATIO`. -/
def maxOutRatio : ℕ := 3

/-- `repay_fee`: 20%. -/
def repayFee : ℕ × ℕ := (2, 10)

structure Pool where
  owner : AccountId
  start : Option ℕ
  endBlock : Option ℕ
  /-- The accumulated asset and the asset for sale. -/
  assets : AssetId × AssetId
  initialWeight : ℕ
  finalWeight : ℕ
  weightCurve : WeightCurveType
  fee : ℕ × ℕ
  feeCollector : AccountId
  repayTarget : ℕ
  deriving DecidableEq, Repr

inductive Error
  | cannotCreatePoolWithSameAssets
  | notOwner
  | saleStarted
  | saleNotEnded
  | saleIsNotRunning
  | maxSaleDurationExceeded
  | cannotAddZeroLiquidity
  | insufficientAssetBalance
  | poolNotFound
  | poolAlreadyExists
  | invalidBlockRange
  | weightCalculationError
  | invalidWeight
  | zeroAmount
  | maxInRatioExceeded
  | maxOutRatioExceeded
  | feeAmountInvalid
  | tradingLimitReached
  | overflow
  | nothingToUpdate
  | insufficientLiquidity
  | feeCollectorWithAssetAlreadyUsed
  /-- An error of the currencies. -/
  | currency
  deriving DecidableEq, Repr

inductive Event
  | poolCreated (poolId : AccountId) (pool : Pool)
  | poolUpdated (poolId : AccountId) (pool : Pool)
  | liquidityAdded (who : AccountId) (assetA assetB : AssetId) (amountA amountB : ℕ)
  | liquidityRemoved (who : AccountId) (assetA assetB : AssetId) (amountA amountB : ℕ)
  | sellExecuted (who : AccountId) (assetIn assetOut : AssetId) (amount salePrice : ℕ)
      (feeAsset : AssetId) (feeAmount : ℕ)
  | buyExecuted (who : AccountId) (assetOut assetIn : AssetId) (amount buyPrice : ℕ)
      (feeAsset : AssetId) (feeAmount : ℕ)
  deriving DecidableEq, Repr

/-- An account that collects fees, with the asset it collects. -/
abbrev Collector := AccountId × AssetId

/-- The fee collector of a pool. -/
def Pool.collector (pool : Pool) : Collector :=
  (pool.feeCollector, pool.assets.1)

/-- The pallet's storage, over the chain's balances, locks and block number. -/
structure State where
  poolData : AList fun _ : AccountId => Pool
  feeCollectorWithAsset : AList fun _ : Collector => Bool
  ledger : Currencies
  /-- The amounts locked under `COLLECTOR_LOCK_ID`. -/
  locks : AList fun _ : Collector => ℕ
  blockNumber : ℕ
  events : List Event

/-- The identifier `"lbp"`. -/
def identifier : List UInt8 := [108, 98, 112]

/-- `pair_account_from_assets`. -/
def pairAccountFromAssets (assetA assetB : AssetId) : AccountId :=
  fromAssets identifier assetA assetB

/-- `get_pair_id`. -/
def getPairId (assets : AssetPair) : AccountId :=
  pairAccountFromAssets assets.assetIn assets.assetOut

namespace State

def depositEvent (s : State) (event : Event) : State :=
  { s with events := s.events ++ [event] }

/-- `T::MultiCurrency::transfer`. -/
def transfer (s : State) (currency : AssetId) (sender receiver : AccountId) (amount : ℕ) :
    Except Error State := do
  let ledger ← okOr (s.ledger.transfer currency sender receiver amount) .currency
  return { s with ledger }

/-- `T::MultiCurrency::set_lock` with `COLLECTOR_LOCK_ID`, which ignores a lock of zero. -/
def setLock (s : State) (currency : AssetId) (who : AccountId) (amount : ℕ) : State :=
  { s with locks := if amount = 0 then s.locks else s.locks.insert (who, currency) amount }

/-- `T::MultiCurrency::remove_lock` with `COLLECTOR_LOCK_ID`. -/
def removeLock (s : State) (currency : AssetId) (who : AccountId) : State :=
  { s with locks := s.locks.erase (who, currency) }

/-- `T::LockedBalance::get_by_lock` with `COLLECTOR_LOCK_ID`. -/
def getByLock (s : State) (currency : AssetId) (who : AccountId) : ℕ :=
  (s.locks.lookup (who, currency)).getD 0

/-- `exists`. -/
def poolExists (s : State) (assets : AssetPair) : Bool :=
  (s.poolData.lookup (getPairId assets)).isSome

/-- `is_pool_running`: the current block is in the range of the sale, ends included. -/
def isPoolRunning (s : State) (pool : Pool) : Bool :=
  match pool.start, pool.endBlock with
  | some start, some endBlock => decide (start ≤ s.blockNumber ∧ s.blockNumber ≤ endBlock)
  | _, _ => false

/-- `has_pool_started`. -/
def hasPoolStarted (s : State) (pool : Pool) : Bool :=
  match pool.start with
  | some start => decide (start ≤ s.blockNumber)
  | none => false

/-- `collected_fees`. -/
def collectedFees (s : State) (pool : Pool) : ℕ :=
  s.getByLock pool.assets.1 pool.feeCollector

/-- `is_repay_fee_applied`. -/
def isRepayFeeApplied (s : State) (pool : Pool) : Bool :=
  decide (s.collectedFees pool < pool.repayTarget)

/-- `DisallowWhenLBPPoolRunning::can_create`. -/
def canCreate (s : State) (assetA assetB : AssetId) : Bool :=
  match s.poolData.lookup (pairAccountFromAssets assetA assetB) with
  | some data =>
      match data.endBlock with
      | some endBlock => decide (endBlock < s.blockNumber)
      | none => false
  | none => true

end State

/-- The match of `validate_pool_data`: no range yet, or one that lies ahead. -/
def isBlockRangeValid (now : ℕ) (start endBlock : Option ℕ) : Bool :=
  match start, endBlock with
  | some start, some endBlock => decide (now < start ∧ start < endBlock)
  | none, none => true
  | _, _ => false

/-- `validate_pool_data`. -/
def validatePoolData (s : State) (pool : Pool) : Except Error Unit := do
  ensure (isBlockRangeValid s.blockNumber pool.start pool.endBlock = true) .invalidBlockRange
  ensure (pool.endBlock.getD 0 - pool.start.getD 0 < maxSaleDuration) .maxSaleDurationExceeded
  ensure (pool.initialWeight ≠ 0 ∧ pool.initialWeight < maxWeight ∧
    pool.finalWeight ≠ 0 ∧ pool.finalWeight < maxWeight) .invalidWeight
  ensure (pool.fee.2 ≠ 0) .feeAmountInvalid

/-- `LBPWeightFunction::calculate_weight`, which has one curve. -/
def calculateWeight (cfg : Config) (_weightCurve : WeightCurveType)
    (start endBlock initialWeight finalWeight now : ℕ) : Option ℕ :=
  cfg.math.calculateLinearWeights start endBlock initialWeight finalWeight now

/-- `calculate_weights`. -/
def calculateWeights (cfg : Config) (pool : Pool) (now : ℕ) : Except Error (ℕ × ℕ) := do
  let weightA ←
    okOr (calculateWeight cfg pool.weightCurve (pool.start.getD 0) (pool.endBlock.getD 0)
      pool.initialWeight pool.finalWeight now) .weightCalculationError
  return (weightA, maxWeight - weightA)

/-- `get_sorted_weight`. -/
def getSortedWeight (cfg : Config) (assetIn : AssetId) (now : ℕ) (pool : Pool) :
    Except Error (ℕ × ℕ) :=
  match calculateWeights cfg pool now with
  | .ok weights =>
      if assetIn = pool.assets.1 then .ok (weights.1, weights.2)
      else .ok (weights.2, weights.1)
  | .error _ => .error .invalidWeight

/-- The arguments of `create_pool`. -/
structure NewPool where
  poolOwner : AccountId
  assetA : AssetId
  assetAAmount : ℕ
  assetB : AssetId
  assetBAmount : ℕ
  initialWeight : ℕ
  finalWeight : ℕ
  weightCurve : WeightCurveType
  fee : ℕ × ℕ
  feeCollector : AccountId
  repayTarget : ℕ
  deriving DecidableEq, Repr

/-- `Pool::new`. -/
def NewPool.pool (new : NewPool) : Pool where
  owner := new.poolOwner
  start := none
  endBlock := none
  assets := (new.assetA, new.assetB)
  initialWeight := new.initialWeight
  finalWeight := new.finalWeight
  weightCurve := new.weightCurve
  fee := new.fee
  feeCollector := new.feeCollector
  repayTarget := new.repayTarget

/-- The account of the new pool. -/
def NewPool.poolId (new : NewPool) : AccountId :=
  getPairId ⟨new.assetA, new.assetB⟩

/-- `create_pool`, once the origin is accepted. -/
def createPool (cfg : Config) (s : State) (new : NewPool) : Except Error State := do
  ensure (cfg.minPoolLiquidity ≤ new.assetAAmount ∧ cfg.minPoolLiquidity ≤ new.assetBAmount)
    .insufficientLiquidity
  ensure (new.assetA ≠ new.assetB) .cannotCreatePoolWithSameAssets
  ensure (s.poolExists ⟨new.assetA, new.assetB⟩ = false) .poolAlreadyExists
  ensure (s.feeCollectorWithAsset.lookup (new.feeCollector, new.assetA) = none)
    .feeCollectorWithAssetAlreadyUsed
  ensure (new.assetAAmount ≤ s.ledger.free new.poolOwner new.assetA) .insufficientAssetBalance
  ensure (new.assetBAmount ≤ s.ledger.free new.poolOwner new.assetB) .insufficientAssetBalance
  validatePoolData s new.pool
  let s := { s with
    poolData := s.poolData.insert new.poolId new.pool
    feeCollectorWithAsset :=
      s.feeCollectorWithAsset.insert (new.feeCollector, new.assetA) true }
  let s := s.depositEvent (.poolCreated new.poolId new.pool)
  let s ← s.transfer new.assetA new.poolOwner new.poolId new.assetAAmount
  let s ← s.transfer new.assetB new.poolOwner new.poolId new.assetBAmount
  return s.depositEvent (.liquidityAdded new.poolId new.assetA new.assetB new.assetAAmount
    new.assetBAmount)

/-- The optional arguments of `update_pool_data`. -/
structure PoolUpdate where
  poolOwner : Option AccountId
  start : Option ℕ
  endBlock : Option ℕ
  initialWeight : Option ℕ
  finalWeight : Option ℕ
  fee : Option (ℕ × ℕ)
  feeCollector : Option AccountId
  repayTarget : Option ℕ
  deriving DecidableEq, Repr

/-- There is something to update; a new owner alone is nothing. -/
def PoolUpdate.updatesSomething (update : PoolUpdate) : Bool :=
  update.start.isSome || update.endBlock.isSome || update.initialWeight.isSome ||
    update.finalWeight.isSome || update.fee.isSome || update.feeCollector.isSome ||
    update.repayTarget.isSome

/-- The pool with the given fields replaced. -/
def PoolUpdate.apply (update : PoolUpdate) (pool : Pool) : Pool :=
  { pool with
    owner := update.poolOwner.getD pool.owner
    start := update.start.or pool.start
    endBlock := update.endBlock.or pool.endBlock
    initialWeight := update.initialWeight.getD pool.initialWeight
    finalWeight := update.finalWeight.getD pool.finalWeight
    fee := update.fee.getD pool.fee
    feeCollector := update.feeCollector.getD pool.feeCollector
    repayTarget := update.repayTarget.getD pool.repayTarget }

/-- The part of `update_pool_data` that replaces the fee collector: the new entry must not be
set, the old one is removed, and the new one is written. -/
def replaceFeeCollector (s : State) (pool : Pool) (feeCollector : Option AccountId) :
    Except Error State := do
  match feeCollector with
  | some updated =>
      ensure ((s.feeCollectorWithAsset.lookup (updated, pool.assets.1)).getD false = false)
        .feeCollectorWithAssetAlreadyUsed
      return { s with
        feeCollectorWithAsset :=
          (s.feeCollectorWithAsset.erase (pool.feeCollector, pool.assets.1)).insert
            (updated, pool.assets.1) true }
  | none => return s

/-- `update_pool_data`. -/
def updatePoolData (s : State) (who : AccountId) (poolId : AccountId) (update : PoolUpdate) :
    Except Error State := do
  let pool ← okOr (s.poolData.lookup poolId) .poolNotFound
  ensure (update.updatesSomething = true) .nothingToUpdate
  ensure (who = pool.owner) .notOwner
  ensure (s.hasPoolStarted pool = false) .saleStarted
  let s ← replaceFeeCollector s pool update.feeCollector
  validatePoolData s (update.apply pool)
  let s := { s with poolData := s.poolData.insert poolId (update.apply pool) }
  return s.depositEvent (.poolUpdated poolId (update.apply pool))

/-- `add_liquidity`. -/
def addLiquidity (s : State) (who : AccountId) (assetA : AssetId) (amountA : ℕ)
    (assetB : AssetId) (amountB : ℕ) : Except Error State := do
  let poolId := pairAccountFromAssets assetA assetB
  let pool ← okOr (s.poolData.lookup poolId) .poolNotFound
  ensure (who = pool.owner) .notOwner
  ensure (amountA ≠ 0 ∨ amountB ≠ 0) .cannotAddZeroLiquidity
  ensure (amountA ≠ 0 → amountA ≤ s.ledger.free who assetA) .insufficientAssetBalance
  ensure (amountB ≠ 0 → amountB ≤ s.ledger.free who assetB) .insufficientAssetBalance
  let s ← s.transfer assetA who poolId amountA
  let s ← s.transfer assetB who poolId amountB
  return s.depositEvent (.liquidityAdded poolId assetA assetB amountA amountB)

/-- `remove_liquidity`: everything goes to the owner, and the pool is gone. -/
def removeLiquidity (s : State) (who : AccountId) (poolId : AccountId) : Except Error State := do
  let pool ← okOr (s.poolData.lookup poolId) .poolNotFound
  ensure (who = pool.owner) .notOwner
  ensure (s.isPoolRunning pool = false) .saleNotEnded
  let amountA := s.ledger.free poolId pool.assets.1
  let amountB := s.ledger.free poolId pool.assets.2
  let s ← s.transfer pool.assets.1 poolId who amountA
  let s ← s.transfer pool.assets.2 poolId who amountB
  let s := if 0 < s.collectedFees pool then s.removeLock pool.assets.1 pool.feeCollector else s
  let s := { s with
    feeCollectorWithAsset := s.feeCollectorWithAsset.erase (pool.feeCollector, pool.assets.1)
    poolData := s.poolData.erase poolId }
  return s.depositEvent (.liquidityRemoved poolId pool.assets.1 pool.assets.2 amountA amountB)

/-- `calculate_fees`: the repay fee until the target is reached, then the pool's own. -/
def calculateFees (cfg : Config) (s : State) (pool : Pool) (amount : ℕ) : Except Error ℕ :=
  let fee := if s.isRepayFeeApplied pool then repayFee else pool.fee
  okOr (cfg.math.calculatePoolTradeFee amount fee) .feeAmountInvalid

/-- `get_spot_price_unchecked`. -/
def getSpotPriceUnchecked (cfg : Config) (s : State) (assetA assetB : AssetId) (amount : ℕ) : ℕ :=
  let poolId := getPairId ⟨assetA, assetB⟩
  match s.poolData.lookup poolId with
  | none => 0
  | some pool =>
      match getSortedWeight cfg assetA s.blockNumber pool with
      | .error _ => 0
      | .ok (weightIn, weightOut) =>
          (cfg.math.calculateSpotPrice (s.ledger.free poolId assetA) (s.ledger.free poolId assetB)
            weightIn weightOut amount).getD 0

/-- `validate_sell`. -/
def validateSell (cfg : Config) (s : State) (who : AccountId) (assets : AssetPair)
    (amount minBought : ℕ) : Except Error AMMTransfer := do
  ensure (amount ≠ 0) .zeroAmount
  ensure (amount ≤ s.ledger.free who assets.assetIn) .insufficientAssetBalance
  let poolId := getPairId assets
  let pool ← okOr (s.poolData.lookup poolId) .poolNotFound
  ensure (s.isPoolRunning pool = true) .saleIsNotRunning
  let (weightIn, weightOut) ← getSortedWeight cfg assets.assetIn s.blockNumber pool
  let assetInReserve := s.ledger.free poolId assets.assetIn
  let assetOutReserve := s.ledger.free poolId assets.assetOut
  let maxIn ← okOr (checkedDiv assetInReserve maxInRatio) .overflow
  ensure (amount ≤ maxIn) .maxInRatioExceeded
  let feeAsset := pool.assets.1
  if feeAsset = assets.assetIn then
    -- the fee is a part of what the seller pays
    let fee ← calculateFees cfg s pool amount
    let amountOut ←
      okOr (cfg.math.calculateOutGivenIn assetInReserve assetOutReserve weightIn weightOut amount)
        .overflow
    let maxOut ← okOr (checkedDiv assetOutReserve maxOutRatio) .overflow
    ensure (amountOut ≤ maxOut) .maxOutRatioExceeded
    ensure (minBought ≤ amountOut) .tradingLimitReached
    let amountWithoutFee ← okOr (checkedSub amount fee) .overflow
    return {
      origin := who
      assets
      amount := amountWithoutFee
      amountOut
      discount := false
      discountAmount := 0
      fee := (feeAsset, fee) }
  else
    -- the fee is a part of what the pool pays
    let calculatedOut ←
      okOr (cfg.math.calculateOutGivenIn assetInReserve assetOutReserve weightIn weightOut amount)
        .overflow
    let fee ← calculateFees cfg s pool calculatedOut
    let amountOutWithoutFee ← okOr (checkedSub calculatedOut fee) .overflow
    let maxOut ← okOr (checkedDiv assetOutReserve maxOutRatio) .overflow
    ensure (calculatedOut ≤ maxOut) .maxOutRatioExceeded
    ensure (minBought ≤ amountOutWithoutFee) .tradingLimitReached
    return {
      origin := who
      assets
      amount
      amountOut := amountOutWithoutFee
      discount := false
      discountAmount := 0
      fee := (feeAsset, fee) }

/-- `validate_buy`. -/
def validateBuy (cfg : Config) (s : State) (who : AccountId) (assets : AssetPair)
    (amount maxSold : ℕ) : Except Error AMMTransfer := do
  ensure (amount ≠ 0) .zeroAmount
  ensure (maxSold ≤ s.ledger.free who assets.assetIn) .insufficientAssetBalance
  let poolId := getPairId assets
  let pool ← okOr (s.poolData.lookup poolId) .poolNotFound
  ensure (s.isPoolRunning pool = true) .saleIsNotRunning
  let (weightIn, weightOut) ← getSortedWeight cfg assets.assetIn s.blockNumber pool
  let assetInReserve := s.ledger.free poolId assets.assetIn
  let assetOutReserve := s.ledger.free poolId assets.assetOut
  let maxOut ← okOr (checkedDiv assetOutReserve maxOutRatio) .overflow
  ensure (amount ≤ maxOut) .maxOutRatioExceeded
  let feeAsset := pool.assets.1
  if feeAsset = assets.assetOut then
    -- the pool pays the fee on top, and the buyer the price of both
    let fee ← calculateFees cfg s pool amount
    let amountOutPlusFee ← okOr (checkedAdd u128Bound amount fee) .overflow
    let calculatedIn ←
      okOr (cfg.math.calculateInGivenOut assetInReserve assetOutReserve weightIn weightOut
        amountOutPlusFee) .overflow
    let maxIn ← okOr (checkedDiv assetInReserve maxInRatio) .overflow
    ensure (calculatedIn ≤ maxIn) .maxInRatioExceeded
    ensure (calculatedIn ≤ maxSold) .tradingLimitReached
    return {
      origin := who
      assets
      amount := calculatedIn
      amountOut := amount
      discount := false
      discountAmount := 0
      fee := (feeAsset, fee) }
  else
    -- the fee is a part of what the buyer pays
    let calculatedIn ←
      okOr (cfg.math.calculateInGivenOut assetInReserve assetOutReserve weightIn weightOut amount)
        .overflow
    let fee ← calculateFees cfg s pool calculatedIn
    let calculatedInWithoutFee ← okOr (checkedSub calculatedIn fee) .overflow
    let maxIn ← okOr (checkedDiv assetInReserve maxInRatio) .overflow
    ensure (calculatedIn ≤ maxIn) .maxInRatioExceeded
    ensure (calculatedIn ≤ maxSold) .tradingLimitReached
    return {
      origin := who
      assets
      amount := calculatedInWithoutFee
      amountOut := amount
      discount := false
      discountAmount := 0
      fee := (feeAsset, fee) }

/-- `execute_trade`; the new total of the lock is not checked. -/
def executeTrade (s : State) (transfer : AMMTransfer) : Except Error State := do
  let poolAccount := getPairId transfer.assets
  let pool ← okOr (s.poolData.lookup poolAccount) .poolNotFound
  let s ← s.transfer transfer.assets.assetIn transfer.origin poolAccount transfer.amount
  let s ← s.transfer transfer.assets.assetOut poolAccount transfer.origin transfer.amountOut
  let (feeAsset, feeAmount) := transfer.fee
  let feePayer := if transfer.assets.assetIn = feeAsset then transfer.origin else poolAccount
  let s ← s.transfer feeAsset feePayer pool.feeCollector feeAmount
  let collectedFeeTotal := wrappingAdd u128Bound (s.collectedFees pool) feeAmount
  return s.setLock feeAsset pool.feeCollector collectedFeeTotal

/-- `execute_sell`. -/
def executeSell (s : State) (transfer : AMMTransfer) : Except Error State := do
  let s ← executeTrade s transfer
  return s.depositEvent (.sellExecuted transfer.origin transfer.assets.assetIn
    transfer.assets.assetOut transfer.amount transfer.amountOut transfer.fee.1 transfer.fee.2)

/-- `execute_buy`. -/
def executeBuy (s : State) (transfer : AMMTransfer) : Except Error State := do
  let s ← executeTrade s transfer
  return s.depositEvent (.buyExecuted transfer.origin transfer.assets.assetOut
    transfer.assets.assetIn transfer.amount transfer.amountOut transfer.fee.1 transfer.fee.2)

/-- `AMM::sell`: validate, then execute. -/
def sell (cfg : Config) (s : State) (who : AccountId) (assets : AssetPair)
    (amount minBought : ℕ) : Except Error State := do
  let transfer ← validateSell cfg s who assets amount minBought
  executeSell s transfer

/-- `AMM::buy`: validate, then execute. -/
def buy (cfg : Config) (s : State) (who : AccountId) (assets : AssetPair)
    (amount maxSold : ℕ) : Except Error State := do
  let transfer ← validateBuy cfg s who assets amount maxSold
  executeBuy s transfer

/-- The pallet's extrinsics.  Pools are created by the privileged origin; `who` is the key that
signed any other call. -/
inductive Call
  | createPool (new : NewPool)
  | updatePoolData (who : ℕ) (poolId : AccountId) (update : PoolUpdate)
  | addLiquidity (who : ℕ) (assetA : AssetId) (amountA : ℕ) (assetB : AssetId) (amountB : ℕ)
  | removeLiquidity (who : ℕ) (poolId : AccountId)
  | sell (who : ℕ) (assetIn assetOut : AssetId) (amount maxLimit : ℕ)
  | buy (who : ℕ) (assetOut assetIn : AssetId) (amount maxLimit : ℕ)
  deriving DecidableEq, Repr

def dispatch (cfg : Config) (s : State) : Call → Except Error State
  | .createPool new => createPool cfg s new
  | .updatePoolData who poolId update => updatePoolData s (.signer who) poolId update
  | .addLiquidity who assetA amountA assetB amountB =>
      addLiquidity s (.signer who) assetA amountA assetB amountB
  | .removeLiquidity who poolId => removeLiquidity s (.signer who) poolId
  | .sell who assetIn assetOut amount maxLimit =>
      sell cfg s (.signer who) ⟨assetIn, assetOut⟩ amount maxLimit
  | .buy who assetOut assetIn amount maxLimit =>
      buy cfg s (.signer who) ⟨assetIn, assetOut⟩ amount maxLimit

/-- A call, or what the rest of the chain does: blocks pass and balances change. -/
inductive Label
  | call (call : Call)
  | external (blockNumber : ℕ) (ledger : Currencies)

/-- A successful call, or a step of the rest of the chain, in which block numbers never fall. -/
def Step (cfg : Config) (s : State) (label : Label) (t : State) : Prop :=
  match label with
  | .call call => dispatch cfg s call = .ok t
  | .external blockNumber ledger =>
      s.blockNumber ≤ blockNumber ∧ t = { s with blockNumber, ledger }

/-- Before the first call there are no pools, collectors and locks; balances are arbitrary. -/
structure Initial (s : State) : Prop where
  poolData : s.poolData = ∅
  feeCollectorWithAsset : s.feeCollectorWithAsset = ∅
  locks : s.locks = ∅

end Basilisk.Lbp
