/-
# What a call stores

The moves of a call forget which call they belong to and with which arguments it
was made.  Where that matters (the multiplier a pool is updated with, the period
in which it is resumed, the deposit that is the last one to leave) the storage
after a successful call is needed as a function of the storage before it.
`Writes` lists it once, call by call.
-/

import Basilisk.LiquidityMining.Calls

namespace Basilisk.LiquidityMining

open Basilisk.Math

/-- A farm and one of its pools are written back. -/
def Storage.put (σ : Storage) (slot : Slot) (globalPool : GlobalPool)
    (liqPool : LiquidityPoolYieldFarm) : Storage :=
  { σ with
    globalPoolData := σ.globalPoolData.insert slot.1 globalPool
    liquidityPoolData := σ.liquidityPoolData.insert slot liqPool }

/-- What a successful call leaves in storage. -/
inductive Writes (cfg : Config) (s : State) : Call → Storage → Prop
  | createFarm {totalRewards plannedYieldingPeriods blocksPerPeriod : ℕ}
      {incentivizedAsset rewardCurrency : AssetId} {owner : AccountId}
      {yieldPerPeriod : Permill} (maxRewardPerPeriod : ℕ) :
      Writes cfg s (.createFarm totalRewards plannedYieldingPeriods blocksPerPeriod
          incentivizedAsset rewardCurrency owner yieldPerPeriod)
        { s.toStorage with
          poolIdSequencer := s.poolIdSequencer + 1
          globalPoolData := s.globalPoolData.insert (s.poolIdSequencer + 1)
            (GlobalPool.new (s.poolIdSequencer + 1) (s.blockNumber / blocksPerPeriod)
              rewardCurrency yieldPerPeriod plannedYieldingPeriods blocksPerPeriod owner
              incentivizedAsset maxRewardPerPeriod) }
  | destroyFarm {key farmId : ℕ} {globalPool : GlobalPool}
      (farm : s.globalPoolData.lookup farmId = some globalPool)
      (empty : globalPool.liqPoolsCount = 0) :
      Writes cfg s (.destroyFarm key farmId)
        { s.toStorage with globalPoolData := s.globalPoolData.erase farmId }
  | withdrawUndistributedRewards {key farmId : ℕ} :
      Writes cfg s (.withdrawUndistributedRewards key farmId) s.toStorage
  | addLiquidityPool {key farmId multiplier : ℕ} {assetPair : AssetPair}
      {loyaltyCurve : Option LoyaltyCurve} {globalPool globalPool' : GlobalPool} {s' : State}
      (farm : s.globalPoolData.lookup farmId = some globalPool)
      (vacant : s.liquidityPoolData.lookup (farmId, cfg.getPairId assetPair) = none)
      (refreshed : refreshGlobalPool cfg s globalPool (s.period globalPool) =
        .ok (s', globalPool')) :
      Writes cfg s (.addLiquidityPool key farmId assetPair multiplier loyaltyCurve)
        (Storage.put
          { s.toStorage with
            poolIdSequencer := s.poolIdSequencer + 1
            liquidityPoolMetadata := s.liquidityPoolMetadata.insert (s.poolIdSequencer + 1)
              ⟨assetPair, 0, farmId⟩ }
          (farmId, cfg.getPairId assetPair)
          { globalPool' with liqPoolsCount := globalPool'.liqPoolsCount + 1 }
          (.new (s.poolIdSequencer + 1) (s.period globalPool) loyaltyCurve multiplier))
  | updateLiquidityPool {key farmId multiplier stake : ℕ} {assetPair : AssetPair}
      {globalPool globalPool' : GlobalPool} {liqPool liqPool' : LiquidityPoolYieldFarm}
      {s' : State}
      (settling : Settling cfg s (farmId, cfg.getPairId assetPair) globalPool liqPool s'
        globalPool' liqPool')
      (active : liqPool.canceled = false)
      (weighed : cfg.math.calculateGlobalPoolShares liqPool'.totalValuedShares multiplier =
        some stake) :
      Writes cfg s (.updateLiquidityPool key farmId assetPair multiplier)
        (s.toStorage.put (farmId, cfg.getPairId assetPair)
          { globalPool' with
            totalSharesZ := globalPool'.totalSharesZ - liqPool'.stakeInGlobalPool + stake }
          { liqPool' with stakeInGlobalPool := stake, multiplier })
  | cancelLiquidityPool {key farmId : ℕ} {assetPair : AssetPair}
      {globalPool globalPool' : GlobalPool} {liqPool liqPool' : LiquidityPoolYieldFarm}
      {s' : State}
      (settling : Settling cfg s (farmId, cfg.getPairId assetPair) globalPool liqPool s'
        globalPool' liqPool')
      (active : liqPool.canceled = false) :
      Writes cfg s (.cancelLiquidityPool key farmId assetPair)
        (s.toStorage.put (farmId, cfg.getPairId assetPair)
          { globalPool' with
            totalSharesZ := globalPool'.totalSharesZ - liqPool'.stakeInGlobalPool }
          { liqPool' with canceled := true, stakeInGlobalPool := 0, multiplier := 0 })
  | resumeLiquidityPool {key farmId multiplier stake : ℕ} {assetPair : AssetPair}
      {globalPool globalPool' : GlobalPool} {liqPool : LiquidityPoolYieldFarm} {s' : State}
      (farm : s.globalPoolData.lookup farmId = some globalPool)
      (pool : s.liquidityPoolData.lookup (farmId, cfg.getPairId assetPair) = some liqPool)
      (idle : liqPool.canceled = true)
      (refreshed : refreshGlobalPool cfg s globalPool (s.period globalPool) =
        .ok (s', globalPool'))
      (weighed : cfg.math.calculateGlobalPoolShares liqPool.totalValuedShares multiplier =
        some stake) :
      Writes cfg s (.resumeLiquidityPool key farmId assetPair multiplier)
        (s.toStorage.put (farmId, cfg.getPairId assetPair)
          { globalPool' with totalSharesZ := globalPool'.totalSharesZ + stake }
          { liqPool with
            accumulatedRpz := globalPool'.accumulatedRpz
            updatedAt := s.period globalPool
            stakeInGlobalPool := stake
            canceled := false
            multiplier })
  | removeLiquidityPool {key farmId : ℕ} {assetPair : AssetPair} {globalPool : GlobalPool}
      {liqPool : LiquidityPoolYieldFarm}
      (farm : s.globalPoolData.lookup farmId = some globalPool)
      (pool : s.liquidityPoolData.lookup (farmId, cfg.getPairId assetPair) = some liqPool)
      (idle : liqPool.canceled = true) :
      Writes cfg s (.removeLiquidityPool key farmId assetPair)
        { s.toStorage with
          globalPoolData := s.globalPoolData.insert farmId
            { globalPool with liqPoolsCount := globalPool.liqPoolsCount - 1 }
          liquidityPoolData := s.liquidityPoolData.erase (farmId, cfg.getPairId assetPair)
          liquidityPoolMetadata := (dropUnusedMetadata s liqPool.id).liquidityPoolMetadata }
  | depositShares {key farmId amount valuedShares stake : ℕ} {assetPair : AssetPair}
      {globalPool globalPool' : GlobalPool} {liqPool liqPool' : LiquidityPoolYieldFarm}
      {s' : State} {metadata : Metadata}
      (settling : Settling cfg s (farmId, cfg.getPairId assetPair) globalPool liqPool s'
        globalPool' liqPool')
      (active : liqPool.canceled = false)
      (weighed : cfg.math.calculateGlobalPoolShares valuedShares liqPool'.multiplier =
        some stake)
      (sequenced : s.nftInstanceSequencer + 1 ≤ maxNftInstanceSequencer)
      (known : s.liquidityPoolMetadata.lookup liqPool'.id = some metadata) :
      Writes cfg s (.depositShares key farmId assetPair amount)
        (Storage.put
          { s.toStorage with
            nftInstanceSequencer := s.nftInstanceSequencer + 1
            depositData := s.depositData.insert
              (encodeNftId liqPool'.id (s.nftInstanceSequencer + 1))
              (Deposit.new amount valuedShares liqPool'.accumulatedRpvs (s.period globalPool))
            liquidityPoolMetadata := s.liquidityPoolMetadata.insert liqPool'.id
              { metadata with nftsCount := metadata.nftsCount + 1 } }
          (farmId, cfg.getPairId assetPair)
          { globalPool' with totalSharesZ := globalPool'.totalSharesZ + stake }
          { liqPool' with
            totalShares := liqPool'.totalShares + amount
            totalValuedShares := liqPool'.totalValuedShares + valuedShares
            stakeInGlobalPool := liqPool'.stakeInGlobalPool + stake })
  | claimRewards {key nftId claimed : ℕ} {metadata : Metadata}
      {globalPool globalPool' : GlobalPool} {liqPool liqPool' : LiquidityPoolYieldFarm}
      {s' : State} {deposit : Deposit}
      (known : s.liquidityPoolMetadata.lookup (poolIdOf nftId) = some metadata)
      (recorded : s.depositData.lookup nftId = some deposit)
      (settling : Settling cfg s (metadata.slot cfg) globalPool liqPool s' globalPool'
        liqPool')
      (active : liqPool.canceled = false) :
      Writes cfg s (.claimRewards key nftId)
        (Storage.put
          { s.toStorage with
            depositData := s.depositData.insert nftId
              { deposit with
                accumulatedClaimedRewards := claimed
                updatedAt := s.period globalPool } }
          (metadata.slot cfg) globalPool' liqPool')
  /-- The deposit is settled against the pool in its slot. -/
  | withdrawShares {key nftId stake : ℕ} {metadata : Metadata}
      {globalPool globalPool' : GlobalPool} {liqPool liqPool' : LiquidityPoolYieldFarm}
      {s' : State} {deposit : Deposit}
      (known : s.liquidityPoolMetadata.lookup (poolIdOf nftId) = some metadata)
      (recorded : s.depositData.lookup nftId = some deposit)
      (settling : Settling cfg s (metadata.slot cfg) globalPool liqPool s' globalPool'
        liqPool')
      (released : (liqPool'.canceled = true ∧ stake = 0) ∨
        (liqPool'.canceled = false ∧
          cfg.math.calculateGlobalPoolShares deposit.valuedShares liqPool'.multiplier =
            some stake))
      (held : stake ≤ liqPool'.stakeInGlobalPool) :
      Writes cfg s (.withdrawShares key nftId)
        (Storage.put
          { s.toStorage with
            depositData := s.depositData.erase nftId
            liquidityPoolMetadata := s.liquidityPoolMetadata.insert (poolIdOf nftId)
              { metadata with nftsCount := metadata.nftsCount - 1 } }
          (metadata.slot cfg)
          { globalPool' with totalSharesZ := globalPool'.totalSharesZ - stake }
          { liqPool' with
            totalShares := liqPool'.totalShares - deposit.shares
            totalValuedShares := liqPool'.totalValuedShares - deposit.valuedShares
            stakeInGlobalPool := liqPool'.stakeInGlobalPool - stake })
  /-- There is no pool in the slot of the deposit. -/
  | withdrawUnsettled {key nftId : ℕ} {metadata : Metadata} {deposit : Deposit}
      (known : s.liquidityPoolMetadata.lookup (poolIdOf nftId) = some metadata)
      (recorded : s.depositData.lookup nftId = some deposit)
      (vacant : s.liquidityPoolData.lookup (metadata.slot cfg) = none)
      (counted : 1 ≤ metadata.nftsCount) :
      Writes cfg s (.withdrawShares key nftId)
        { s.toStorage with
          depositData := s.depositData.erase nftId
          liquidityPoolMetadata :=
            if metadata.nftsCount = 1 then
              s.liquidityPoolMetadata.erase (poolIdOf nftId)
            else
              s.liquidityPoolMetadata.insert (poolIdOf nftId)
                { metadata with nftsCount := metadata.nftsCount - 1 } }

section Settling

variable {cfg : Config} {s s' : State} {slot : Slot} {globalPool globalPool' : GlobalPool}
variable {liqPool liqPool' : LiquidityPoolYieldFarm}

/-- Bringing a pool up to date stores nothing. -/
theorem Settling.storage
    (settling : Settling cfg s slot globalPool liqPool s' globalPool' liqPool') :
    s'.toStorage = s.toStorage := by
  obtain ⟨⟨_, _, -, rfl⟩, -, -, -⟩ := updated_of_maybeUpdatePools settling.updated
  rfl

/-- What a pool is made of and owes does not change while it is brought up to date. -/
theorem Settling.poolKept
    (settling : Settling cfg s slot globalPool liqPool s' globalPool' liqPool') :
    ∃ accumulatedRpz accumulatedRpvs updatedAt,
      liqPool' = { liqPool with accumulatedRpz, accumulatedRpvs, updatedAt } :=
  (updated_of_maybeUpdatePools settling.updated).poolKept

theorem Settling.farmKept
    (settling : Settling cfg s slot globalPool liqPool s' globalPool' liqPool') :
    ∃ accumulatedRpz accumulatedRewards paidAccumulatedRewards updatedAt,
      globalPool' = { globalPool with
        accumulatedRpz, accumulatedRewards, paidAccumulatedRewards, updatedAt } :=
  (updated_of_maybeUpdatePools settling.updated).farmKept

end Settling

section Calls

variable {cfg : Config} {s t : State} {key farmId nftId : ℕ} {assetPair : AssetPair}

theorem withdrawShares_writes (called : withdrawShares cfg s (.signer key) nftId = .ok t) :
    Writes cfg s (.withdrawShares key nftId) t.toStorage := by
  obtain ⟨metadata, deposit, u, v, nft, done, rfl⟩ := withdrawShares_ok called
  obtain ⟨_, _, -, -, rfl⟩ := returnLpShares_ok done.handed
  obtain ⟨vacant, rfl⟩ | ⟨liqPool, pool, settled⟩ := settleWithdrawal_ok done.settled
  · simp only [vacant, Option.isNone_none, and_true]
    exact .withdrawUnsettled done.known done.recorded vacant done.counted
  · obtain ⟨globalPool, s', globalPool', liqPool', s'', deposit', _, _, stake, _, left, rfl⟩ :=
      withdrawFromLiqPool_ok settled
    have settling : Settling cfg s (metadata.slot cfg) globalPool liqPool s' globalPool'
      liqPool' := ⟨left.farm, pool, left.updated⟩
    have same := settling.storage
    obtain ⟨kept, sameShares, sameValued⟩ : s''.toStorage = s'.toStorage ∧
        deposit'.shares = deposit.shares ∧ deposit'.valuedShares = deposit.valuedShares := by
      obtain ⟨-, ⟨-, rfl, rfl, -⟩ | ⟨_, _, -, -, -, -, rfl, rfl⟩⟩ :=
        doClaimRewards_ok left.claimed
      · exact ⟨rfl, rfl, rfl⟩
      · exact ⟨rfl, rfl, rfl⟩
    have released := left.released
    rw [sameValued] at released
    have written : Writes cfg s (.withdrawShares key nftId) _ :=
      .withdrawShares done.known done.recorded settling released left.held
    rw [← same, ← kept, ← sameShares, ← sameValued] at written
    simp only [pool, Option.isNone_some, Bool.false_eq_true, and_false, if_false]
    exact written

/-- Every successful call stores what `Writes` lists. -/
theorem writes_of_dispatch (consistent : Consistent cfg s.blockNumber s.toStorage)
    {call : Call} (called : dispatch cfg s call = .ok t) : Writes cfg s call t.toStorage := by
  cases call with
  | createFarm =>
      obtain ⟨-, -, -, _, -, rfl⟩ := createFarm_ok called
      exact .createFarm _
  | destroyFarm =>
      obtain ⟨globalPool, farm, -, empty, -, rfl⟩ := destroyFarm_ok called
      exact .destroyFarm farm empty
  | withdrawUndistributedRewards =>
      obtain ⟨_, _, -, -, -, -, rfl⟩ := withdrawUndistributedRewards_ok called
      exact .withdrawUndistributedRewards
  | addLiquidityPool =>
      obtain ⟨globalPool, s', globalPool', -, -, farm, -, vacant, refreshed, -, rfl⟩ :=
        addLiquidityPool_ok called
      have same := (consistent.farms _ _ farm).id
      obtain ⟨⟨_, -, rfl⟩, _, _, _, rfl⟩ := refreshGlobalPool_frame refreshed
      subst same
      exact .addLiquidityPool farm vacant refreshed
  | updateLiquidityPool key farmId assetPair multiplier =>
      obtain ⟨_, _, _, _, _, _, settling, -, active, weighed, -, -, rfl⟩ :=
        updateLiquidityPool_ok called
      have written : Writes cfg s (.updateLiquidityPool key farmId assetPair multiplier) _ :=
        .updateLiquidityPool settling active weighed
      rw [← settling.storage] at written
      exact written
  | cancelLiquidityPool key farmId assetPair =>
      obtain ⟨_, _, _, _, _, settling, -, active, -, rfl⟩ := cancelLiquidityPool_ok called
      have written : Writes cfg s (.cancelLiquidityPool key farmId assetPair) _ :=
        .cancelLiquidityPool settling active
      rw [← settling.storage] at written
      exact written
  | resumeLiquidityPool key farmId assetPair multiplier =>
      obtain ⟨_, _, _, _, _, farm, -, pool, idle, refreshed, weighed, -, rfl⟩ :=
        resumeLiquidityPool_ok called
      have written : Writes cfg s (.resumeLiquidityPool key farmId assetPair multiplier) _ :=
        .resumeLiquidityPool farm pool idle refreshed weighed
      obtain ⟨⟨_, -, rfl⟩, -⟩ := refreshGlobalPool_frame refreshed
      exact written
  | removeLiquidityPool key farmId assetPair =>
      obtain ⟨_, _, _, farm, -, pool, idle, -, -, rfl⟩ := removeLiquidityPool_ok called
      exact .removeLiquidityPool farm pool idle
  | depositShares key farmId assetPair amount =>
      obtain ⟨_, _, s', _, _, _, _, _, _, entered, rfl⟩ := depositShares_ok called
      have settling := entered.toSettling
      have sequenced := entered.sequenced
      have known := entered.known
      obtain ⟨⟨_, _, -, rfl⟩, -, -, -⟩ := updated_of_maybeUpdatePools entered.updated
      exact .depositShares settling entered.active entered.weighed sequenced known
  | claimRewards =>
      obtain ⟨_, _, _, _, _, _, _, _, _, _, _, done, rfl⟩ := claimRewards_eq_ok.mp called
      obtain ⟨⟨_, _, -, rfl⟩, -, -, -⟩ := updated_of_maybeUpdatePools done.updated
      obtain ⟨-, ⟨paid, -⟩ | ⟨_, _, -, -, -, -, rfl, rfl⟩⟩ := doClaimRewards_ok done.claimed
      · exact absurd paid done.unpaid
      · exact .claimRewards done.known done.recorded done.toSettling done.active
  | withdrawShares => exact withdrawShares_writes called

end Calls

end Basilisk.LiquidityMining
