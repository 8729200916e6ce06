/-
# What the calls do

A successful call has found what it needed, passed its checks and left a certain
state.  This module says so for each call and each part of a call, so that a proof
about successful calls starts from these lemmas and not from the code of the call.
-/

import Basilisk.LiquidityMining.Moves

namespace Basilisk.LiquidityMining

open Basilisk.Math

variable {cfg : Config} {s s' t : State} {who : AccountId}
variable {farmId nftId multiplier : ℕ} {assetPair : AssetPair}

section Parts

@[simp]
theorem State.transfer_eq_ok {currency : AssetId} {sender receiver : AccountId}
    {amount : ℕ} :
    s.transfer currency sender receiver amount = .ok t ↔
      ∃ ledger, s.ledger.transfer currency sender receiver amount = some ledger ∧
        { s with ledger } = t := by
  simp only [State.transfer, bind_eq_ok, okOr_eq_ok, return_eq_ok]

theorem State.transfer_eq_error {currency : AssetId} {sender receiver : AccountId}
    {amount : ℕ} {e : Error} :
    s.transfer currency sender receiver amount = .error e ↔
      e = .currency ∧ s.ledger.free sender currency < amount := by
  simp only [State.transfer, bind_eq_error, okOr_eq_error, return_ne_error, and_false,
    exists_false, or_false, ← Option.not_isSome_iff_eq_none, Ledger.transfer_isSome_iff, not_le]
  tauto

@[simp]
theorem poolAccountId_eq_ok {poolId : ℕ} {account : AccountId} :
    poolAccountId poolId = .ok account ↔
      poolId ≠ 0 ∧ AccountId.palletSubAccount poolId = account := by
  simp only [poolAccountId, validatePoolId, bind_eq_ok, ensure_eq_ok, return_eq_ok,
    exists_const]

@[simp]
theorem getNowPeriod_eq_ok {blocksPerPeriod now : ℕ} :
    getNowPeriod s blocksPerPeriod = .ok now ↔
      blocksPerPeriod ≠ 0 ∧ s.blockNumber / blocksPerPeriod = now := by
  simp only [getNowPeriod, getPeriodNumber, okOr_eq_ok, checkedDiv_eq_some]

@[simp]
theorem getPoolIdFromNftId_eq_ok {nftId liqPoolId : ℕ} :
    getPoolIdFromNftId nftId = .ok liqPoolId ↔
      4294967296 < nftId ∧ poolIdOf nftId = liqPoolId := by
  simp only [getPoolIdFromNftId, bind_eq_ok, ensure_eq_ok, return_eq_ok, exists_const]

/-- A deposit already paid in this period is left alone; any other is paid. -/
theorem doClaimRewards_ok {deposit deposit' : Deposit} {liqPool : LiquidityPoolYieldFarm}
    {now reward unclaimable : ℕ} {currency : AssetId}
    (called : doClaimRewards cfg s who deposit liqPool now currency =
      .ok (s', deposit', reward, unclaimable)) :
    deposit.enteredAt ≤ now ∧
      ((deposit.updatedAt = now ∧ s' = s ∧ deposit' = deposit ∧ reward = 0 ∧
          unclaimable = 0) ∨
        ∃ loyalty ledger, deposit.updatedAt ≠ now ∧
          getLoyaltyMultiplier cfg (now - deposit.enteredAt) liqPool.loyaltyCurve =
            .ok loyalty ∧
          cfg.math.calculateUserReward deposit.accumulatedRpvs deposit.valuedShares
            deposit.accumulatedClaimedRewards liqPool.accumulatedRpvs loyalty =
              some (reward, unclaimable) ∧
          s.ledger.transfer currency (.palletSubAccount liqPool.id) who reward =
            some ledger ∧
          s' = { s with ledger } ∧
          deposit' = { deposit with
            accumulatedClaimedRewards := deposit.accumulatedClaimedRewards + reward
            updatedAt := now }) := by
  simp only [doClaimRewards, bind_eq_ok, okOr_eq_ok, checkedSub_eq_some, and_assoc] at called
  obtain ⟨_, entered, rfl, called⟩ := called
  refine ⟨entered, ?_⟩
  split_ifs at called with paid
  · simp only [return_eq_ok, Prod.mk.injEq] at called
    obtain ⟨rfl, rfl, rfl, rfl⟩ := called
    exact .inl ⟨paid, rfl, rfl, rfl, rfl⟩
  · simp only [bind_eq_ok, okOr_eq_ok, checkedAdd_eq_some, poolAccountId_eq_ok,
      State.transfer_eq_ok, return_eq_ok, Prod.mk.injEq, and_assoc, exists_and_left,
      exists_eq_left', exists_exists_and_eq_and] at called
    obtain ⟨loyalty, loyal, ⟨_, _⟩, priced, -, -, ledger, moved, rfl, rfl, rfl, rfl⟩ := called
    exact .inr ⟨loyalty, ledger, paid, loyal, priced, moved, rfl, rfl⟩

/-- The shares go back if the AMM pool exists, and no reward is reported. -/
theorem returnLpShares_ok {liqPoolId shares : ℕ}
    (called : returnLpShares s who assetPair farmId liqPoolId shares = .ok t) :
    ∃ ledger reports, Returned s assetPair who shares s.ledger ledger ∧
      claimedIn reports = 0 ∧ t = { s with ledger, events := s.events ++ reports } := by
  unfold returnLpShares at called
  split_ifs at called with present
  · simp only [bind_eq_ok, State.transfer_eq_ok, return_eq_ok] at called
    obtain ⟨_, ⟨ledger, moved, rfl⟩, rfl⟩ := called
    exact ⟨ledger, [_], .listed present moved, rfl, rfl⟩
  · rw [return_eq_ok] at called
    subst called
    exact ⟨s.ledger, [], .unlisted (Bool.eq_false_of_not_eq_true present) rfl, rfl,
      by rw [List.append_nil]⟩

/-- One deposit less is counted; the last one of a removed pool takes the metadata along. -/
theorem releaseMetadata_ok {liqPoolId : ℕ} {metadata : Metadata} {poolRemoved : Bool}
    (called : releaseMetadata s liqPoolId metadata poolRemoved = .ok t) :
    1 ≤ metadata.nftsCount ∧ t = { s with
      liquidityPoolMetadata :=
        if metadata.nftsCount = 1 ∧ poolRemoved = true then
          s.liquidityPoolMetadata.erase liqPoolId
        else
          s.liquidityPoolMetadata.insert liqPoolId
            { metadata with nftsCount := metadata.nftsCount - 1 } } := by
  unfold releaseMetadata at called
  split_ifs at called with last
  · rw [return_eq_ok] at called
    rw [if_pos last]
    exact ⟨last.1.ge, called.symm⟩
  · simp only [bind_eq_ok, okOr_eq_ok, checkedSub_eq_some, return_eq_ok] at called
    obtain ⟨_, ⟨counted, rfl⟩, rfl⟩ := called
    rw [if_neg last]
    exact ⟨counted, rfl⟩

/-- The farm and the pool give up the same stake, which is none if the pool is canceled. -/
theorem releaseStake_ok {globalPool globalPool' : GlobalPool}
    {liqPool liqPool' : LiquidityPoolYieldFarm} {valuedShares : ℕ}
    (called : releaseStake cfg globalPool liqPool valuedShares =
      .ok (globalPool', liqPool')) :
    ∃ stake,
      ((liqPool.canceled = true ∧ stake = 0) ∨
        (liqPool.canceled = false ∧
          cfg.math.calculateGlobalPoolShares valuedShares liqPool.multiplier =
            some stake)) ∧
      stake ≤ liqPool.stakeInGlobalPool ∧ stake ≤ globalPool.totalSharesZ ∧
      globalPool' = { globalPool with totalSharesZ := globalPool.totalSharesZ - stake } ∧
      liqPool' = { liqPool with
        stakeInGlobalPool := liqPool.stakeInGlobalPool - stake } := by
  unfold releaseStake at called
  split_ifs at called with canceled
  · rw [return_eq_ok, Prod.mk.injEq] at called
    obtain ⟨rfl, rfl⟩ := called
    exact ⟨0, .inl ⟨canceled, rfl⟩, Nat.zero_le _, Nat.zero_le _, rfl, rfl⟩
  · simp only [bind_eq_ok, okOr_eq_ok, checkedSub_eq_some, return_eq_ok,
      Prod.mk.injEq] at called
    obtain ⟨stake, weighed, _, ⟨held, rfl⟩, _, ⟨heldFarm, rfl⟩, rfl, rfl⟩ := called
    exact ⟨stake, .inr ⟨Bool.eq_false_of_not_eq_true canceled, weighed⟩, held, heldFarm,
      rfl, rfl⟩

end Parts

/-- A call reads the farm and the pool of a slot and brings them up to date. -/
structure Settling (cfg : Config) (s : State) (slot : Slot) (globalPool : GlobalPool)
    (liqPool : LiquidityPoolYieldFarm) (s' : State) (globalPool' : GlobalPool)
    (liqPool' : LiquidityPoolYieldFarm) : Prop where
  farm : s.globalPoolData.lookup slot.1 = some globalPool
  pool : s.liquidityPoolData.lookup slot = some liqPool
  updated : maybeUpdatePools cfg s globalPool liqPool (s.period globalPool) =
    .ok (s', globalPool', liqPool')

section Farms

theorem createFarm_ok {totalRewards plannedYieldingPeriods blocksPerPeriod : ℕ}
    {incentivizedAsset rewardCurrency : AssetId} {owner : AccountId}
    {yieldPerPeriod : Permill}
    (called : createFarm cfg s totalRewards plannedYieldingPeriods blocksPerPeriod
      incentivizedAsset rewardCurrency owner yieldPerPeriod = .ok t) :
    validateCreateFarmData cfg totalRewards plannedYieldingPeriods blocksPerPeriod
        yieldPerPeriod = .ok () ∧
      blocksPerPeriod ≠ 0 ∧ s.poolIdSequencer + 1 < u32Bound ∧
      ∃ ledger, s.ledger.transfer rewardCurrency owner
          (.palletSubAccount (s.poolIdSequencer + 1)) totalRewards = some ledger ∧
        t = { s with
          ledger
          poolIdSequencer := s.poolIdSequencer + 1
          globalPoolData := s.globalPoolData.insert (s.poolIdSequencer + 1)
            (GlobalPool.new (s.poolIdSequencer + 1) (s.blockNumber / blocksPerPeriod)
              rewardCurrency yieldPerPeriod plannedYieldingPeriods blocksPerPeriod owner
              incentivizedAsset (totalRewards / plannedYieldingPeriods))
          events := s.events ++ [.farmCreated (s.poolIdSequencer + 1) owner rewardCurrency
            yieldPerPeriod plannedYieldingPeriods blocksPerPeriod incentivizedAsset
            (totalRewards / plannedYieldingPeriods)] } := by
  simp only [createFarm, getNextPoolId, bind_eq_ok, ensure_eq_ok, okOr_eq_ok, return_eq_ok,
    exists_const, checkedDiv_eq_some, checkedAdd_eq_some, getNowPeriod_eq_ok,
    poolAccountId_eq_ok, State.transfer_eq_ok, and_assoc, exists_and_left, exists_eq_left',
    exists_exists_and_eq_and] at called
  obtain ⟨_, valid, -, -, proper, numbered, -, ledger, funded, rfl⟩ := called
  exact ⟨valid, proper, numbered, ledger, funded, rfl⟩

theorem destroyFarm_ok (called : destroyFarm s who farmId = .ok t) :
    ∃ globalPool, s.globalPoolData.lookup farmId = some globalPool ∧
      who = globalPool.owner ∧ globalPool.liqPoolsCount = 0 ∧
      s.ledger.free (.palletSubAccount globalPool.id) globalPool.rewardCurrency = 0 ∧
      t = { s with
        globalPoolData := s.globalPoolData.erase farmId
        events := s.events ++ [.farmDestroyed farmId who] } := by
  simp only [destroyFarm, bind_eq_ok, ensure_eq_ok, okOr_eq_ok, return_eq_ok, exists_const,
    poolAccountId_eq_ok, and_assoc, exists_and_left, exists_eq_left'] at called
  obtain ⟨globalPool, farm, owned, empty, -, spent, rfl⟩ := called
  exact ⟨globalPool, farm, owned, empty, spent, rfl⟩

theorem withdrawUndistributedRewards_ok
    (called : withdrawUndistributedRewards s who farmId = .ok t) :
    ∃ globalPool ledger, s.globalPoolData.lookup farmId = some globalPool ∧
      globalPool.owner = who ∧ globalPool.liqPoolsCount = 0 ∧
      s.ledger.transfer globalPool.rewardCurrency (.palletSubAccount globalPool.id) who
        (s.ledger.totalBalance (.palletSubAccount globalPool.id) globalPool.rewardCurrency) =
          some ledger ∧
      t = { s with
        ledger
        events := s.events ++ [.undistributedRewardsWithdrawn globalPool.id who
          globalPool.rewardCurrency (s.ledger.totalBalance
            (.palletSubAccount globalPool.id) globalPool.rewardCurrency)] } := by
  simp only [withdrawUndistributedRewards, bind_eq_ok, ensure_eq_ok, okOr_eq_ok,
    return_eq_ok, exists_const, poolAccountId_eq_ok, State.transfer_eq_ok, and_assoc,
    exists_and_left, exists_eq_left', exists_exists_and_eq_and] at called
  obtain ⟨globalPool, farm, owned, empty, -, ledger, moved, rfl⟩ := called
  exact ⟨globalPool, ledger, farm, owned, empty, moved, rfl⟩

end Farms

section Pools

theorem addLiquidityPool_ok {loyaltyCurve : Option LoyaltyCurve}
    (called : addLiquidityPool cfg s who farmId assetPair multiplier loyaltyCurve = .ok t) :
    ∃ globalPool s' globalPool',
      (∀ curve ∈ loyaltyCurve, curve.initialRewardPercentage < FixedU128.one) ∧
      s.amm.poolExists assetPair = true ∧
      s.globalPoolData.lookup farmId = some globalPool ∧ who = globalPool.owner ∧
      s.liquidityPoolData.lookup (farmId, cfg.getPairId assetPair) = none ∧
      refreshGlobalPool cfg s globalPool (s.period globalPool) = .ok (s', globalPool') ∧
      s'.poolIdSequencer + 1 < u32Bound ∧
      t = { s' with
        poolIdSequencer := s'.poolIdSequencer + 1
        liquidityPoolMetadata := s'.liquidityPoolMetadata.insert (s'.poolIdSequencer + 1)
          ⟨assetPair, 0, globalPool'.id⟩
        liquidityPoolData := s'.liquidityPoolData.insert
          (globalPool'.id, cfg.getPairId assetPair)
          (.new (s'.poolIdSequencer + 1) (s.period globalPool) loyaltyCurve multiplier)
        globalPoolData := s'.globalPoolData.insert farmId
          { globalPool' with liqPoolsCount := globalPool'.liqPoolsCount + 1 }
        events := s'.events ++ [.liquidityPoolAdded globalPool'.id (s'.poolIdSequencer + 1)
          multiplier cfg.nftClass assetPair loyaltyCurve] } := by
  simp only [addLiquidityPool, getNextPoolId, bind_eq_ok, ensure_eq_ok, okOr_eq_ok,
    return_eq_ok, exists_const, checkedAdd_eq_some, getNowPeriod_eq_ok, and_assoc,
    exists_and_left, exists_eq_left'] at called
  obtain ⟨-, curve, present, globalPool, farm, owned, -, vacant, -, ⟨s', globalPool'⟩,
    refreshed, numbered, -, rfl⟩ := called
  exact ⟨globalPool, s', globalPool', curve, present, farm, owned, vacant, refreshed,
    numbered, rfl⟩

theorem updateLiquidityPool_ok
    (called : updateLiquidityPool cfg s who farmId assetPair multiplier = .ok t) :
    ∃ globalPool liqPool s' globalPool' liqPool' stake,
      Settling cfg s (farmId, cfg.getPairId assetPair) globalPool liqPool s' globalPool'
        liqPool' ∧
      who = globalPool.owner ∧ liqPool.canceled = false ∧
      cfg.math.calculateGlobalPoolShares liqPool'.totalValuedShares multiplier =
        some stake ∧
      liqPool'.stakeInGlobalPool ≤ globalPool'.totalSharesZ ∧
      globalPool'.totalSharesZ - liqPool'.stakeInGlobalPool + stake < u128Bound ∧
      t = State.put
        (s'.depositEvent (.liquidityPoolUpdated globalPool'.id liqPool'.id who assetPair
          multiplier))
        (farmId, cfg.getPairId assetPair)
        { globalPool' with
          totalSharesZ := globalPool'.totalSharesZ - liqPool'.stakeInGlobalPool + stake }
        { liqPool' with stakeInGlobalPool := stake, multiplier } := by
  simp only [updateLiquidityPool, bind_eq_ok, ensure_eq_ok, okOr_eq_ok, return_eq_ok,
    exists_const, getNowPeriod_eq_ok, checkedSub_eq_some, checkedAdd_eq_some] at called
  obtain ⟨-, liqPool, pool, active, globalPool, farm, owned, _, ⟨-, rfl⟩,
    ⟨s', globalPool', liqPool'⟩, updated, stake, weighed, _, ⟨held, rfl⟩, _, ⟨fits, rfl⟩,
    rfl⟩ := called
  exact ⟨globalPool, liqPool, s', globalPool', liqPool', stake, ⟨farm, pool, updated⟩,
    owned, active, weighed, held, fits, rfl⟩

theorem cancelLiquidityPool_ok
    (called : cancelLiquidityPool cfg s who farmId assetPair = .ok t) :
    ∃ globalPool liqPool s' globalPool' liqPool',
      Settling cfg s (farmId, cfg.getPairId assetPair) globalPool liqPool s' globalPool'
        liqPool' ∧
      globalPool.owner = who ∧ liqPool.canceled = false ∧
      liqPool'.stakeInGlobalPool ≤ globalPool'.totalSharesZ ∧
      t = State.put
        (s'.depositEvent (.liquidityMiningCanceled farmId liqPool'.id who assetPair))
        (farmId, cfg.getPairId assetPair)
        { globalPool' with
          totalSharesZ := globalPool'.totalSharesZ - liqPool'.stakeInGlobalPool }
        { liqPool' with canceled := true, stakeInGlobalPool := 0, multiplier := 0 } := by
  simp only [cancelLiquidityPool, bind_eq_ok, ensure_eq_ok, okOr_eq_ok, return_eq_ok,
    exists_const, getNowPeriod_eq_ok, checkedSub_eq_some] at called
  obtain ⟨liqPool, pool, active, globalPool, farm, owned, _, ⟨-, rfl⟩,
    ⟨s', globalPool', liqPool'⟩, updated, _, ⟨held, rfl⟩, rfl⟩ := called
  exact ⟨globalPool, liqPool, s', globalPool', liqPool', ⟨farm, pool, updated⟩, owned,
    active, held, rfl⟩

theorem resumeLiquidityPool_ok
    (called : resumeLiquidityPool cfg s who farmId assetPair multiplier = .ok t) :
    ∃ globalPool liqPool s' globalPool' stake,
      s.globalPoolData.lookup farmId = some globalPool ∧ globalPool.owner = who ∧
      s.liquidityPoolData.lookup (farmId, cfg.getPairId assetPair) = some liqPool ∧
      liqPool.canceled = true ∧
      refreshGlobalPool cfg s globalPool (s.period globalPool) = .ok (s', globalPool') ∧
      cfg.math.calculateGlobalPoolShares liqPool.totalValuedShares multiplier =
        some stake ∧
      globalPool'.totalSharesZ + stake < u128Bound ∧
      t = State.put
        (s'.depositEvent (.liquidityMiningResumed farmId liqPool.id who assetPair multiplier))
        (farmId, cfg.getPairId assetPair)
        { globalPool' with totalSharesZ := globalPool'.totalSharesZ + stake }
        { liqPool with
          accumulatedRpz := globalPool'.accumulatedRpz
          updatedAt := s.period globalPool
          stakeInGlobalPool := stake
          canceled := false
          multiplier } := by
  simp only [resumeLiquidityPool, bind_eq_ok, ensure_eq_ok, okOr_eq_ok, return_eq_ok,
    exists_const, getNowPeriod_eq_ok, checkedAdd_eq_some] at called
  obtain ⟨-, liqPool, pool, idle, globalPool, farm, owned, _, ⟨-, rfl⟩, ⟨s', globalPool'⟩,
    refreshed, stake, weighed, _, ⟨fits, rfl⟩, rfl⟩ := called
  exact ⟨globalPool, liqPool, s', globalPool', stake, farm, owned, pool, idle, refreshed,
    weighed, fits, rfl⟩

/-- The metadata goes with the pool, whatever is transferred. -/
theorem dropUnusedMetadata_ledger (s : State) (ledger : Currencies) (liqPoolId : ℕ) :
    dropUnusedMetadata { s with ledger } liqPoolId =
      { s with
        ledger
        liquidityPoolMetadata := (dropUnusedMetadata s liqPoolId).liquidityPoolMetadata } := by
  unfold dropUnusedMetadata
  cases s.liquidityPoolMetadata.lookup liqPoolId with
  | none => rfl
  | some metadata =>
      dsimp only
      split_ifs <;> rfl

theorem removeLiquidityPool_ok
    (called : removeLiquidityPool cfg s who farmId assetPair = .ok t) :
    ∃ globalPool liqPool ledger,
      s.globalPoolData.lookup farmId = some globalPool ∧ globalPool.owner = who ∧
      s.liquidityPoolData.lookup (farmId, cfg.getPairId assetPair) = some liqPool ∧
      liqPool.canceled = true ∧ 1 ≤ globalPool.liqPoolsCount ∧
      s.ledger.transfer globalPool.rewardCurrency (.palletSubAccount liqPool.id)
        (.palletSubAccount globalPool.id)
        (s.ledger.totalBalance (.palletSubAccount liqPool.id) globalPool.rewardCurrency) =
          some ledger ∧
      t = { s with
        ledger
        liquidityPoolMetadata := (dropUnusedMetadata s liqPool.id).liquidityPoolMetadata
        globalPoolData := s.globalPoolData.insert farmId
          { globalPool with liqPoolsCount := globalPool.liqPoolsCount - 1 }
        liquidityPoolData := s.liquidityPoolData.erase (farmId, cfg.getPairId assetPair)
        events := s.events ++ [.liquidityPoolRemoved farmId liqPool.id who assetPair] } := by
  simp only [removeLiquidityPool, bind_eq_ok, ensure_eq_ok, okOr_eq_ok, return_eq_ok,
    exists_const, checkedSub_eq_some, poolAccountId_eq_ok, State.transfer_eq_ok, and_assoc,
    exists_and_left, exists_eq_left', exists_exists_and_eq_and] at called
  obtain ⟨liqPool, pool, idle, globalPool, farm, owned, counted, -, -, ledger, moved, rfl⟩ :=
    called
  refine ⟨globalPool, liqPool, ledger, farm, owned, pool, idle, counted, moved, ?_⟩
  rw [dropUnusedMetadata_ledger]
  rfl

end Pools

section Deposits

/-- What `deposit_shares` has found and checked when it succeeds. -/
structure Entered (cfg : Config) (s : State) (who : AccountId) (farmId : ℕ)
    (assetPair : AssetPair) (amount : ℕ) (globalPool : GlobalPool)
    (liqPool : LiquidityPoolYieldFarm) (s' : State) (globalPool' : GlobalPool)
    (liqPool' : LiquidityPoolYieldFarm) (stake : ℕ) (ledger : Currencies) (nft : Nft.State)
    (metadata : Metadata) : Prop
    extends Settling cfg s (farmId, cfg.getPairId assetPair) globalPool liqPool s'
      globalPool' liqPool' where
  nonzero : amount ≠ 0
  active : liqPool.canceled = false
  weighed : cfg.math.calculateGlobalPoolShares
    (amount * s'.ledger.free (cfg.getPairId assetPair) globalPool'.incentivizedAsset)
    liqPool'.multiplier = some stake
  fits : globalPool'.totalSharesZ + stake < u128Bound
  locked : s'.ledger.transfer (s.amm.getShareToken assetPair) who accountId amount =
    some ledger
  numbered : liqPool'.id ≠ 0
  sequenced : s'.nftInstanceSequencer + 1 ≤ maxNftInstanceSequencer
  minted : Nft.doMint s'.nft who
    (cfg.nftClass, encodeNftId liqPool'.id (s'.nftInstanceSequencer + 1)) [] = .ok nft
  known : s'.liquidityPoolMetadata.lookup liqPool'.id = some metadata

theorem depositShares_ok {amount : ℕ}
    (called : depositShares cfg s who farmId assetPair amount = .ok t) :
    ∃ globalPool liqPool s' globalPool' liqPool' stake ledger nft metadata,
      Entered cfg s who farmId assetPair amount globalPool liqPool s' globalPool' liqPool'
        stake ledger nft metadata ∧
      t = State.put
        { s' with
          ledger
          nft
          nftInstanceSequencer := s'.nftInstanceSequencer + 1
          depositData := s'.depositData.insert
            (encodeNftId liqPool'.id (s'.nftInstanceSequencer + 1))
            (.new amount
              (amount * s'.ledger.free (cfg.getPairId assetPair)
                globalPool'.incentivizedAsset)
              liqPool'.accumulatedRpvs (s.period globalPool))
          liquidityPoolMetadata := s'.liquidityPoolMetadata.insert liqPool'.id
            { metadata with nftsCount := metadata.nftsCount + 1 }
          events := s'.events ++ [.sharesDeposited farmId liqPool'.id who amount
            (s.amm.getShareToken assetPair) cfg.nftClass
            (encodeNftId liqPool'.id (s'.nftInstanceSequencer + 1))] }
        (farmId, cfg.getPairId assetPair)
        { globalPool' with totalSharesZ := globalPool'.totalSharesZ + stake }
        { liqPool' with
          totalShares := liqPool'.totalShares + amount
          totalValuedShares := liqPool'.totalValuedShares +
            amount * s'.ledger.free (cfg.getPairId assetPair) globalPool'.incentivizedAsset
          stakeInGlobalPool := liqPool'.stakeInGlobalPool + stake } := by
  simp only [depositShares, getValuedShares, getNextNftId, validatePoolId, bind_eq_ok,
    ensure_eq_ok, okOr_eq_ok, return_eq_ok, exists_const, getNowPeriod_eq_ok,
    checkedAdd_eq_some, checkedMul_eq_some, State.transfer_eq_ok, mapError_eq_ok,
    and_assoc, exists_and_left, exists_eq_left', exists_exists_and_eq_and] at called
  obtain ⟨nonzero, -, liqPool, pool, active, globalPool, farm, -,
    ⟨s', globalPool', liqPool'⟩, updated, -, stake, weighed, -, -, -, fits, ledger, locked,
    numbered, -, sequenced, nft, minted, metadata, known, -, rfl⟩ := called
  exact ⟨globalPool, liqPool, s', globalPool', liqPool', stake, ledger, nft, metadata,
    ⟨⟨farm, pool, updated⟩, nonzero, active, weighed, fits, locked, numbered, sequenced,
      minted, known⟩, rfl⟩

/-- What `claim_rewards` has found and checked when it succeeds. -/
structure Claimed (cfg : Config) (s : State) (who : AccountId) (nftId : ℕ)
    (metadata : Metadata) (deposit : Deposit) (globalPool : GlobalPool)
    (liqPool : LiquidityPoolYieldFarm) (s' : State) (globalPool' : GlobalPool)
    (liqPool' : LiquidityPoolYieldFarm) (s'' : State) (deposit' : Deposit)
    (reward unclaimable : ℕ) : Prop
    extends Settling cfg s (metadata.slot cfg) globalPool liqPool s' globalPool'
      liqPool' where
  valid : 4294967296 < nftId
  known : s.liquidityPoolMetadata.lookup (poolIdOf nftId) = some metadata
  recorded : s.depositData.lookup nftId = some deposit
  owned : s.nft.owner (cfg.nftClass, nftId) = some who
  active : liqPool.canceled = false
  proper : globalPool.blocksPerPeriod ≠ 0
  unpaid : deposit.updatedAt ≠ s.period globalPool
  claimed : doClaimRewards cfg s' who deposit liqPool' (s.period globalPool)
    globalPool'.rewardCurrency = .ok (s'', deposit', reward, unclaimable)

theorem claimRewards_eq_ok :
    claimRewards cfg s who nftId = .ok t ↔
      ∃ metadata deposit globalPool liqPool s' globalPool' liqPool' s'' deposit' reward
        unclaimable,
        Claimed cfg s who nftId metadata deposit globalPool liqPool s' globalPool' liqPool'
          s'' deposit' reward unclaimable ∧
        t = State.put
          { s'' with
            depositData := s''.depositData.insert nftId deposit'
            events := s''.events ++ [.rewardClaimed metadata.farmId liqPool'.id who reward
              globalPool'.rewardCurrency] }
          (metadata.slot cfg) globalPool' liqPool' := by
  simp only [claimRewards, bind_eq_ok, ensure_eq_ok, okOr_eq_ok, return_eq_ok, exists_const,
    getPoolIdFromNftId_eq_ok, getNowPeriod_eq_ok]
  constructor
  · rintro ⟨_, ⟨valid, rfl⟩, metadata, known, deposit, recorded, _, owned, rfl, liqPool, pool,
      active, globalPool, farm, _, ⟨proper, rfl⟩, unpaid, ⟨s', globalPool', liqPool'⟩, updated,
      ⟨s'', deposit', reward, unclaimable⟩, claimed, rfl⟩
    exact ⟨metadata, deposit, globalPool, liqPool, s', globalPool', liqPool', s'', deposit',
      reward, unclaimable, ⟨⟨farm, pool, updated⟩, valid, known, recorded, owned, active,
        proper, unpaid, claimed⟩, rfl⟩
  · rintro ⟨metadata, deposit, globalPool, liqPool, s', globalPool', liqPool', s'', deposit',
      reward, unclaimable, done, rfl⟩
    exact ⟨_, ⟨done.valid, rfl⟩, metadata, done.known, deposit, done.recorded, who,
      done.owned, rfl, liqPool, done.pool, done.active, globalPool, done.farm, _,
      ⟨done.proper, rfl⟩, done.unpaid, _, done.updated, _, done.claimed, rfl⟩

/-- What `withdraw_shares` has found and checked when it has settled a deposit against
the pool in its slot. -/
structure LeftPool (cfg : Config) (s : State) (who : AccountId) (slot : Slot)
    (liqPool : LiquidityPoolYieldFarm) (deposit : Deposit) (globalPool : GlobalPool)
    (s' : State) (globalPool' : GlobalPool) (liqPool' : LiquidityPoolYieldFarm)
    (s'' : State) (deposit' : Deposit) (reward unclaimable stake : ℕ)
    (ledger : Currencies) : Prop where
  farm : s.globalPoolData.lookup slot.1 = some globalPool
  updated : maybeUpdatePools cfg s globalPool liqPool (s.period globalPool) =
    .ok (s', globalPool', liqPool')
  claimed : doClaimRewards cfg s' who deposit liqPool' (s.period globalPool)
    globalPool'.rewardCurrency = .ok (s'', deposit', reward, unclaimable)
  shares : deposit'.shares ≤ liqPool'.totalShares
  valuedShares : deposit'.valuedShares ≤ liqPool'.totalValuedShares
  released : (liqPool'.canceled = true ∧ stake = 0) ∨
    (liqPool'.canceled = false ∧
      cfg.math.calculateGlobalPoolShares deposit'.valuedShares liqPool'.multiplier =
        some stake)
  held : stake ≤ liqPool'.stakeInGlobalPool
  heldFarm : stake ≤ globalPool'.totalSharesZ
  refund : s''.ledger.transfer globalPool'.rewardCurrency (.palletSubAccount liqPool'.id)
    (.palletSubAccount globalPool'.id) unclaimable = some ledger

/-- A claim is reported only if something was claimed. -/
def claimReports (globalPool : GlobalPool) (liqPool : LiquidityPoolYieldFarm)
    (who : AccountId) (reward : ℕ) : List Event :=
  if reward = 0 then [] else
    [.rewardClaimed globalPool.id liqPool.id who reward globalPool.rewardCurrency]

theorem claimedIn_claimReports {globalPool : GlobalPool} {liqPool : LiquidityPoolYieldFarm}
    {reward : ℕ} : claimedIn (claimReports globalPool liqPool who reward) = reward := by
  unfold claimReports
  split_ifs with nothing
  · exact nothing.symm
  · exact Nat.add_zero _

theorem withdrawFromLiqPool_ok {slot : Slot} {liqPool : LiquidityPoolYieldFarm}
    {deposit : Deposit}
    (called : withdrawFromLiqPool cfg s who slot liqPool deposit = .ok t) :
    ∃ globalPool s' globalPool' liqPool' s'' deposit' reward unclaimable stake ledger,
      LeftPool cfg s who slot liqPool deposit globalPool s' globalPool' liqPool' s'' deposit'
        reward unclaimable stake ledger ∧
      t = State.put
        { s'' with
          ledger
          events := s''.events ++ claimReports globalPool' liqPool' who reward }
        slot
        { globalPool' with totalSharesZ := globalPool'.totalSharesZ - stake }
        { liqPool' with
          totalShares := liqPool'.totalShares - deposit'.shares
          totalValuedShares := liqPool'.totalValuedShares - deposit'.valuedShares
          stakeInGlobalPool := liqPool'.stakeInGlobalPool - stake } := by
  simp only [withdrawFromLiqPool, bind_eq_ok, okOr_eq_ok, return_eq_ok, getNowPeriod_eq_ok,
    poolAccountId_eq_ok, checkedSub_eq_some, State.transfer_eq_ok, and_assoc,
    exists_and_left, exists_eq_left', exists_exists_and_eq_and] at called
  obtain ⟨globalPool, farm, -, ⟨s', globalPool', liqPool'⟩, updated, ⟨s'', deposit',
    reward, unclaimable⟩, claimed, -, -, shares, valuedShares, ⟨globalPool'', liqPool''⟩,
    unstaked, ledger, refund, rfl⟩ := called
  obtain ⟨stake, released, held, heldFarm, rfl, rfl⟩ := releaseStake_ok unstaked
  refine ⟨globalPool, s', globalPool', liqPool', s'', deposit', reward, unclaimable, stake,
    ledger, ⟨farm, updated, claimed, shares, valuedShares, released, held, heldFarm,
      refund⟩, ?_⟩
  unfold claimReports
  split_ifs
  · rw [List.append_nil]
    rfl
  · rfl

/-- A withdrawal settles its deposit if there is a pool in the slot. -/
theorem settleWithdrawal_ok {slot : Slot} {deposit : Deposit}
    (called : settleWithdrawal cfg s who slot deposit = .ok t) :
    (s.liquidityPoolData.lookup slot = none ∧ t = s) ∨
      ∃ liqPool, s.liquidityPoolData.lookup slot = some liqPool ∧
        withdrawFromLiqPool cfg s who slot liqPool deposit = .ok t := by
  unfold settleWithdrawal at called
  split at called
  · exact .inr ⟨_, ‹_›, called⟩
  · exact .inl ⟨‹_›, (Except.ok.inj called).symm⟩

/-- What `withdraw_shares` has found and checked when it succeeds. -/
structure Withdrawn (cfg : Config) (s : State) (who : AccountId) (nftId : ℕ)
    (metadata : Metadata) (deposit : Deposit) (u v : State) (nft : Nft.State) : Prop where
  owned : s.nft.owner (cfg.nftClass, nftId) = some who
  valid : 4294967296 < nftId
  known : s.liquidityPoolMetadata.lookup (poolIdOf nftId) = some metadata
  recorded : s.depositData.lookup nftId = some deposit
  settled : settleWithdrawal cfg s who (metadata.slot cfg) deposit = .ok u
  handed : returnLpShares u who metadata.assetPair metadata.farmId (poolIdOf nftId)
    deposit.shares = .ok v
  burned : Nft.doBurn v.nft who (cfg.nftClass, nftId) = .ok nft
  counted : 1 ≤ metadata.nftsCount

theorem withdrawShares_ok (called : withdrawShares cfg s who nftId = .ok t) :
    ∃ metadata deposit u v nft,
      Withdrawn cfg s who nftId metadata deposit u v nft ∧
      t = { v with
        nft
        depositData := v.depositData.erase nftId
        liquidityPoolMetadata :=
          if metadata.nftsCount = 1 ∧
              (s.liquidityPoolData.lookup (metadata.slot cfg)).isNone = true then
            v.liquidityPoolMetadata.erase (poolIdOf nftId)
          else
            v.liquidityPoolMetadata.insert (poolIdOf nftId)
              { metadata with nftsCount := metadata.nftsCount - 1 } } := by
  simp only [withdrawShares, bind_eq_ok, ensure_eq_ok, okOr_eq_ok, exists_const,
    getPoolIdFromNftId_eq_ok, mapError_eq_ok] at called
  obtain ⟨_, owned, rfl, _, ⟨valid, rfl⟩, metadata, known, deposit, recorded, u, settled, v,
    handed, nft, burned, released⟩ := called
  obtain ⟨counted, rfl⟩ := releaseMetadata_ok released
  exact ⟨metadata, deposit, u, v, nft, ⟨owned, valid, known, recorded, settled, handed,
    burned, counted⟩, rfl⟩

end Deposits

end Basilisk.LiquidityMining
