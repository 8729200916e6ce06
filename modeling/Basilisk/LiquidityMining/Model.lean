/-
# The liquidity-mining pallet

A farm (`GlobalPool`) holds rewards and distributes them over the liquidity
pools added to it, in proportion to each pool's stake; a liquidity pool
distributes what it receives over the deposits made in it, in proportion to
their valued shares.  Both levels are lazy: a running reward per share
(`accumulatedRpz`, `accumulatedRpvs`) is advanced when somebody touches the
pool, and whoever is paid is brought up to date against it.

Farms and liquidity pools take their ids from one sequencer, and the id is also
the number of the account that holds their funds.  A liquidity pool is stored
under its farm and the account of the AMM pool; a deposit is stored under an NFT
id that carries the id of its liquidity pool in its low four bytes, and finds its
way back to the storage slot through the metadata of that id.

The formulas of `hydra_dx_math`, the AMM and the ledger are parameters.  Every
extrinsic is transactional, so a call is a function into `Except`.
-/

import Basilisk.Math.Run
import Basilisk.Math.StorageMap
import Basilisk.Nft.Model
import Basilisk.Primitives

namespace Basilisk.LiquidityMining

open Basilisk.Math

/-- The functions of `hydra_dx_math::liquidity_mining` the pallet calls. -/
structure Math where
  calculateAccumulatedRps (accumulatedRps totalShares reward : ℕ) : Option ℕ
  calculateGlobalPoolShares (valuedShares multiplier : ℕ) : Option ℕ
  calculateGlobalPoolRewardPerPeriod
    (yieldPerPeriod totalSharesZ maxRewardPerPeriod : ℕ) : Option ℕ
  calculateUserReward (accumulatedRpvs valuedShares accumulatedClaimedRewards
    accumulatedRpvsNow loyaltyMultiplier : ℕ) : Option (ℕ × ℕ)
  calculateLoyaltyMultiplier
    (periods initialRewardPercentage scaleCoef : ℕ) : Option ℕ

/-- The pallet's `Config`, with the pure part of its AMM. -/
structure Config where
  minTotalFarmRewards : ℕ
  minPlannedYieldingPeriods : ℕ
  nftClass : ℕ
  /-- `AMM::get_pair_id`. -/
  getPairId : AssetPair → AccountId
  /-- The share token the AMM uses for a pair account whenever the pool exists. -/
  shareTokenOf : AccountId → AssetId
  math : Math

/-- What the AMM answers about its pools at one moment. -/
structure Amm where
  poolExists : AssetPair → Bool
  getShareToken : AssetPair → AssetId

/-- An existing pool is traded under the share token of its account. -/
def Amm.Lawful (cfg : Config) (amm : Amm) : Prop :=
  ∀ pair, amm.poolExists pair = true →
    amm.getShareToken pair = cfg.shareTokenOf (cfg.getPairId pair)

/-- `LoyaltyCurve`. -/
structure LoyaltyCurve where
  initialRewardPercentage : ℕ
  scaleCoef : ℕ
  deriving DecidableEq, Repr

/-- `GlobalPool`: a farm. -/
structure GlobalPool where
  id : ℕ
  owner : AccountId
  updatedAt : ℕ
  totalSharesZ : ℕ
  accumulatedRpz : ℕ
  rewardCurrency : AssetId
  accumulatedRewards : ℕ
  paidAccumulatedRewards : ℕ
  yieldPerPeriod : Permill
  plannedYieldingPeriods : ℕ
  blocksPerPeriod : ℕ
  incentivizedAsset : AssetId
  maxRewardPerPeriod : ℕ
  liqPoolsCount : ℕ
  deriving DecidableEq, Repr

/-- `GlobalPool::new`. -/
def GlobalPool.new (id updatedAt : ℕ) (rewardCurrency : AssetId)
    (yieldPerPeriod : Permill) (plannedYieldingPeriods blocksPerPeriod : ℕ)
    (owner : AccountId) (incentivizedAsset : AssetId) (maxRewardPerPeriod : ℕ) :
    GlobalPool where
  id
  owner
  updatedAt
  totalSharesZ := 0
  accumulatedRpz := 0
  rewardCurrency
  accumulatedRewards := 0
  paidAccumulatedRewards := 0
  yieldPerPeriod
  plannedYieldingPeriods
  blocksPerPeriod
  incentivizedAsset
  maxRewardPerPeriod
  liqPoolsCount := 0

/-- `LiquidityPoolYieldFarm`: a liquidity pool of a farm. -/
structure LiquidityPoolYieldFarm where
  id : ℕ
  updatedAt : ℕ
  totalShares : ℕ
  totalValuedShares : ℕ
  accumulatedRpvs : ℕ
  accumulatedRpz : ℕ
  loyaltyCurve : Option LoyaltyCurve
  stakeInGlobalPool : ℕ
  multiplier : ℕ
  canceled : Bool
  deriving DecidableEq, Repr

/-- `LiquidityPoolYieldFarm::new`. -/
def LiquidityPoolYieldFarm.new (id updatedAt : ℕ) (loyaltyCurve : Option LoyaltyCurve)
    (multiplier : ℕ) : LiquidityPoolYieldFarm where
  id
  updatedAt
  totalShares := 0
  totalValuedShares := 0
  accumulatedRpvs := 0
  accumulatedRpz := 0
  loyaltyCurve
  stakeInGlobalPool := 0
  multiplier
  canceled := false

structure Deposit where
  shares : ℕ
  valuedShares : ℕ
  accumulatedRpvs : ℕ
  accumulatedClaimedRewards : ℕ
  enteredAt : ℕ
  updatedAt : ℕ
  deriving DecidableEq, Repr

/-- `Deposit::new`. -/
def Deposit.new (shares valuedShares accumulatedRpvs enteredAt : ℕ) : Deposit where
  shares
  valuedShares
  accumulatedRpvs
  accumulatedClaimedRewards := 0
  enteredAt
  updatedAt := enteredAt

/-- The tuple stored in `LiquidityPoolMetadata`. -/
structure Metadata where
  assetPair : AssetPair
  nftsCount : ℕ
  farmId : ℕ
  deriving DecidableEq, Repr

/-- Pallet errors; the last two come from the pallets it calls. -/
inductive Error
  | overflow
  | insufficientBalanceInGlobalPool
  | invalidPoolId
  | invalidPlannedYieldingPeriods
  | invalidBlocksPerPeriod
  | invalidYieldPerPeriod
  | invalidTotalRewards
  | insufficientRewardCurrencyBalance
  | forbidden
  | farmNotFound
  | liquidityPoolAlreadyExists
  | invalidMultiplier
  | invalidInitialRewardPercentage
  | insufficientAmmSharesBalance
  | ammPoolDoesNotExist
  | liquidityPoolNotFound
  | farmIsNotEmpty
  | rewardBalanceIsNotZero
  | liquidityPoolMetadataNotFound
  | nftDoesNotExist
  | nftIdOverflow
  | invalidNftId
  | liquidityMiningCanceled
  | liquidityMiningIsNotCanceled
  | invalidDepositAmount
  | notDepositOwner
  | cantFindDepositOwner
  | doubleClaimInThePeriod
  | missingIncentivizedAsset
  | currency
  | nft (reason : Nft.Error)
  deriving DecidableEq, Repr

inductive Event
  | farmCreated (farmId : ℕ) (owner : AccountId) (rewardCurrency : AssetId)
      (yieldPerPeriod : Permill) (plannedYieldingPeriods blocksPerPeriod : ℕ)
      (incentivizedAsset : AssetId) (maxRewardPerPeriod : ℕ)
  | liquidityPoolAdded (farmId liqPoolFarmId multiplier nftClass : ℕ)
      (assetPair : AssetPair) (loyaltyCurve : Option LoyaltyCurve)
  | farmDestroyed (id : ℕ) (who : AccountId)
  | sharesDeposited (farmId liqPoolFarmId : ℕ) (who : AccountId) (amount : ℕ)
      (lpToken : AssetId) (nftClassId nftInstanceId : ℕ)
  | rewardClaimed (farmId liqPoolFarmId : ℕ) (who : AccountId) (claimed : ℕ)
      (rewardCurrency : AssetId)
  | sharesWithdrawn (farmId liqPoolFarmId : ℕ) (who : AccountId) (lpToken : AssetId)
      (amount : ℕ)
  | liquidityMiningCanceled (farmId liqPoolFarmId : ℕ) (who : AccountId)
      (assetPair : AssetPair)
  | liquidityMiningResumed (farmId liqPoolFarmId : ℕ) (who : AccountId)
      (assetPair : AssetPair) (multiplier : ℕ)
  | liquidityPoolRemoved (farmId liqPoolFarmId : ℕ) (who : AccountId)
      (assetPair : AssetPair)
  | undistributedRewardsWithdrawn (farmId : ℕ) (who : AccountId)
      (rewardCurrency : AssetId) (amount : ℕ)
  | liquidityPoolUpdated (farmId liqPoolFarmId : ℕ) (who : AccountId)
      (assetPair : AssetPair) (multiplier : ℕ)
  | farmAccRPZUpdated (farmId accumulatedRpz totalSharesZ : ℕ)
  | liquidityPoolAccRPVSUpdated (farmId liqPoolFarmId accumulatedRpvs
      totalValuedShares : ℕ)
  deriving DecidableEq, Repr

/-- A storage slot of `LiquidityPoolData`: the farm and the AMM pool account. -/
abbrev Slot := ℕ × AccountId

/-- The pallet's own storage. -/
structure Storage where
  poolIdSequencer : ℕ
  nftInstanceSequencer : ℕ
  globalPoolData : AList fun _ : ℕ => GlobalPool
  liquidityPoolData : AList fun _ : Slot => LiquidityPoolYieldFarm
  depositData : AList fun _ : ℕ => Deposit
  liquidityPoolMetadata : AList fun _ : ℕ => Metadata

/-- The pallet's storage and events with the block number, the ledger, the AMM and
the NFT pallet it works on. -/
structure State extends Storage where
  events : List Event
  blockNumber : ℕ
  ledger : Currencies
  amm : Amm
  nft : Nft.State

namespace State

def depositEvent (s : State) (event : Event) : State :=
  { s with events := s.events ++ [event] }

/-- `T::MultiCurrency::transfer`. -/
def transfer (s : State) (currency : AssetId) (sender receiver : AccountId)
    (amount : ℕ) : Except Error State := do
  let ledger ← okOr (s.ledger.transfer currency sender receiver amount) .currency
  return { s with ledger }

/-- Write a farm back under the id it was read from. -/
def setGlobalPool (s : State) (farmId : ℕ) (globalPool : GlobalPool) : State :=
  { s with globalPoolData := s.globalPoolData.insert farmId globalPool }

/-- Write a liquidity pool back to its slot. -/
def setLiqPool (s : State) (slot : Slot) (liqPool : LiquidityPoolYieldFarm) : State :=
  { s with liquidityPoolData := s.liquidityPoolData.insert slot liqPool }

end State

/-- `MAX_NFT_INSTANCE_SEQUENCER`. -/
def maxNftInstanceSequencer : ℕ := 79228162514264337593543950335

/-- The account id of the pot that holds all shares. -/
def accountId : AccountId := .palletAccount

/-- `validate_pool_id`. -/
def validatePoolId (poolId : ℕ) : Except Error Unit :=
  ensure (poolId ≠ 0) .invalidPoolId

/-- `pool_account_id`. -/
def poolAccountId (poolId : ℕ) : Except Error AccountId := do
  validatePoolId poolId
  return .palletSubAccount poolId

/-- `get_next_pool_id`: the next value of the sequencer. -/
def getNextPoolId (s : State) : Except Error ℕ :=
  okOr (checkedAdd u32Bound s.poolIdSequencer 1) .overflow

/-- The number whose bytes are the four of the pool id and the low twelve of the
sequence number. -/
def encodeNftId (liqPoolId sequence : ℕ) : ℕ :=
  liqPoolId + sequence % 2 ^ 96 * 2 ^ 32

/-- `get_next_nft_id`: the next value of the sequencer and the id made of it. -/
def getNextNftId (s : State) (liqPoolId : ℕ) : Except Error (ℕ × ℕ) := do
  validatePoolId liqPoolId
  let currentId ← okOr (checkedAdd u128Bound s.nftInstanceSequencer 1) .overflow
  ensure (currentId ≤ maxNftInstanceSequencer) .nftIdOverflow
  return (currentId, encodeNftId liqPoolId currentId)

/-- The low four bytes of an NFT id. -/
def poolIdOf (nftId : ℕ) : ℕ :=
  nftId % 2 ^ 32

/-- `get_pool_id_from_nft_id`. -/
def getPoolIdFromNftId (nftId : ℕ) : Except Error ℕ := do
  ensure (4294967296 < nftId) .invalidNftId
  return poolIdOf nftId

/-- `get_period_number`. -/
def getPeriodNumber (block blocksPerPeriod : ℕ) : Except Error ℕ :=
  okOr (checkedDiv block blocksPerPeriod) .overflow

/-- `get_now_period`. -/
def getNowPeriod (s : State) (blocksPerPeriod : ℕ) : Except Error ℕ :=
  getPeriodNumber s.blockNumber blocksPerPeriod

/-- `get_loyalty_multiplier`. -/
def getLoyaltyMultiplier (cfg : Config) (periods : ℕ)
    (curve : Option LoyaltyCurve) : Except Error ℕ :=
  match curve with
  | none => .ok FixedU128.one
  | some curve =>
      if curve.initialRewardPercentage = FixedU128.one then .ok FixedU128.one
      else
        okOr (cfg.math.calculateLoyaltyMultiplier periods
          curve.initialRewardPercentage curve.scaleCoef) .overflow

/-- The part of `update_global_pool` that books a nonzero reward. -/
def accrueReward (cfg : Config) (globalPool : GlobalPool) (reward : ℕ) :
    Except Error GlobalPool := do
  if reward = 0 then
    return globalPool
  else
    let accumulatedRpz ←
      okOr (cfg.math.calculateAccumulatedRps globalPool.accumulatedRpz
        globalPool.totalSharesZ reward) .overflow
    let accumulatedRewards ←
      okOr (checkedAdd u128Bound globalPool.accumulatedRewards reward) .overflow
    return { globalPool with accumulatedRpz, accumulatedRewards }

/-- `update_global_pool`. -/
def updateGlobalPool (cfg : Config) (s : State) (globalPool : GlobalPool)
    (nowPeriod rewardPerPeriod : ℕ) : Except Error (State × GlobalPool) := do
  if globalPool.updatedAt = nowPeriod then
    return (s, globalPool)
  else if globalPool.totalSharesZ = 0 then
    return (s, globalPool)
  else
    let periodsSinceLastUpdate ←
      okOr (checkedSub nowPeriod globalPool.updatedAt) .overflow
    let globalPoolAccount ← poolAccountId globalPool.id
    let leftToDistribute := s.ledger.free globalPoolAccount globalPool.rewardCurrency
    let reward ←
      okOr (checkedMul u128Bound periodsSinceLastUpdate rewardPerPeriod) .overflow
    let globalPool ← accrueReward cfg globalPool (min reward leftToDistribute)
    let globalPool := { globalPool with updatedAt := nowPeriod }
    return (s.depositEvent (.farmAccRPZUpdated globalPool.id globalPool.accumulatedRpz
      globalPool.totalSharesZ), globalPool)

/-- The guarded update of the farm that `add_liquidity_pool`,
`resume_liquidity_pool` and `maybe_update_pools` spell out alike. -/
def refreshGlobalPool (cfg : Config) (s : State) (globalPool : GlobalPool)
    (nowPeriod : ℕ) : Except Error (State × GlobalPool) := do
  if globalPool.totalSharesZ ≠ 0 ∧ globalPool.updatedAt ≠ nowPeriod then
    let rewardPerPeriod ←
      okOr (cfg.math.calculateGlobalPoolRewardPerPeriod
        globalPool.yieldPerPeriod.toFixed globalPool.totalSharesZ
        globalPool.maxRewardPerPeriod) .overflow
    updateGlobalPool cfg s globalPool nowPeriod rewardPerPeriod
  else
    return (s, globalPool)

/-- `claim_from_global_pool`. -/
def claimFromGlobalPool (globalPool : GlobalPool) (liqPool : LiquidityPoolYieldFarm)
    (stakeInGlobalPool : ℕ) :
    Except Error (GlobalPool × LiquidityPoolYieldFarm × ℕ) := do
  let earned ←
    okOr (checkedSub globalPool.accumulatedRpz liqPool.accumulatedRpz) .overflow
  let reward ← okOr (checkedMul u128Bound earned stakeInGlobalPool) .overflow
  let paidAccumulatedRewards ←
    okOr (checkedAdd u128Bound globalPool.paidAccumulatedRewards reward) .overflow
  let accumulatedRewards ←
    okOr (checkedSub globalPool.accumulatedRewards reward) .overflow
  return ({ globalPool with paidAccumulatedRewards, accumulatedRewards },
    { liqPool with accumulatedRpz := globalPool.accumulatedRpz }, reward)

/-- `update_liq_pool`. -/
def updateLiqPool (cfg : Config) (s : State) (pool : LiquidityPoolYieldFarm)
    (poolRewards periodNow globalPoolId : ℕ) (rewardCurrency : AssetId) :
    Except Error (State × LiquidityPoolYieldFarm) := do
  if pool.updatedAt = periodNow then
    return (s, pool)
  else if pool.totalValuedShares = 0 then
    return (s, pool)
  else
    let accumulatedRpvs ←
      okOr (cfg.math.calculateAccumulatedRps pool.accumulatedRpvs
        pool.totalValuedShares poolRewards) .overflow
    let pool := { pool with accumulatedRpvs, updatedAt := periodNow }
    let globalPoolAccount ← poolAccountId globalPoolId
    ensure (poolRewards ≤ s.ledger.free globalPoolAccount rewardCurrency)
      .insufficientBalanceInGlobalPool
    let poolAccount ← poolAccountId pool.id
    let s := s.depositEvent (.liquidityPoolAccRPVSUpdated globalPoolId pool.id
      pool.accumulatedRpvs pool.totalValuedShares)
    let s ← s.transfer rewardCurrency globalPoolAccount poolAccount poolRewards
    return (s, pool)

/-- `maybe_update_pools`. -/
def maybeUpdatePools (cfg : Config) (s : State) (globalPool : GlobalPool)
    (liqPool : LiquidityPoolYieldFarm) (nowPeriod : ℕ) :
    Except Error (State × GlobalPool × LiquidityPoolYieldFarm) := do
  if liqPool.canceled = true then
    return (s, globalPool, liqPool)
  else if liqPool.totalShares ≠ 0 ∧ liqPool.updatedAt ≠ nowPeriod then
    let (s, globalPool) ← refreshGlobalPool cfg s globalPool nowPeriod
    let (globalPool, liqPool, rewards) ←
      claimFromGlobalPool globalPool liqPool liqPool.stakeInGlobalPool
    let (s, liqPool) ← updateLiqPool cfg s liqPool rewards nowPeriod globalPool.id
      globalPool.rewardCurrency
    return (s, globalPool, liqPool)
  else
    return (s, globalPool, liqPool)

/-- `get_valued_shares`. -/
def getValuedShares (s : State) (shares : ℕ) (amm : AccountId)
    (incentivizedAsset : AssetId) : Except Error ℕ :=
  okOr (checkedMul u128Bound shares (s.ledger.free amm incentivizedAsset)) .overflow

/-- `do_claim_rewards`: the paid deposit, the claimed and the unclaimable
rewards. -/
def doClaimRewards (cfg : Config) (s : State) (who : AccountId) (deposit : Deposit)
    (liqPool : LiquidityPoolYieldFarm) (nowPeriod : ℕ) (rewardCurrency : AssetId) :
    Except Error (State × Deposit × ℕ × ℕ) := do
  let periods ← okOr (checkedSub nowPeriod deposit.enteredAt) .overflow
  if deposit.updatedAt = nowPeriod then
    return (s, deposit, 0, 0)
  else
    let loyaltyMultiplier ← getLoyaltyMultiplier cfg periods liqPool.loyaltyCurve
    let (rewards, unclaimableRewards) ←
      okOr (cfg.math.calculateUserReward deposit.accumulatedRpvs
        deposit.valuedShares deposit.accumulatedClaimedRewards
        liqPool.accumulatedRpvs loyaltyMultiplier) .overflow
    let accumulatedClaimedRewards ←
      okOr (checkedAdd u128Bound deposit.accumulatedClaimedRewards rewards) .overflow
    let deposit := { deposit with accumulatedClaimedRewards, updatedAt := nowPeriod }
    let liqPoolAccount ← poolAccountId liqPool.id
    let s ← s.transfer rewardCurrency liqPoolAccount who rewards
    return (s, deposit, rewards, unclaimableRewards)

/-- `validate_create_farm_data`. -/
def validateCreateFarmData (cfg : Config) (totalRewards plannedYieldingPeriods
    blocksPerPeriod : ℕ) (yieldPerPeriod : Permill) : Except Error Unit := do
  ensure (cfg.minTotalFarmRewards ≤ totalRewards) .invalidTotalRewards
  ensure (cfg.minPlannedYieldingPeriods ≤ plannedYieldingPeriods)
    .invalidPlannedYieldingPeriods
  ensure (blocksPerPeriod ≠ 0) .invalidBlocksPerPeriod
  ensure (yieldPerPeriod.parts ≠ 0) .invalidYieldPerPeriod

/-- `create_farm`, called by `CreateOrigin` on behalf of any `owner`. -/
def createFarm (cfg : Config) (s : State) (totalRewards plannedYieldingPeriods
    blocksPerPeriod : ℕ) (incentivizedAsset rewardCurrency : AssetId)
    (owner : AccountId) (yieldPerPeriod : Permill) : Except Error State := do
  validateCreateFarmData cfg totalRewards plannedYieldingPeriods blocksPerPeriod
    yieldPerPeriod
  ensure (totalRewards ≤ s.ledger.free owner rewardCurrency)
    .insufficientRewardCurrencyBalance
  let maxRewardPerPeriod ←
    okOr (checkedDiv totalRewards plannedYieldingPeriods) .overflow
  let nowPeriod ← getNowPeriod s blocksPerPeriod
  let poolId ← getNextPoolId s
  let globalPool := GlobalPool.new poolId nowPeriod rewardCurrency yieldPerPeriod
    plannedYieldingPeriods blocksPerPeriod owner incentivizedAsset maxRewardPerPeriod
  let s := { s with poolIdSequencer := poolId }
  let s := s.setGlobalPool globalPool.id globalPool
  let globalPoolAccount ← poolAccountId globalPool.id
  let s ← s.transfer rewardCurrency globalPool.owner globalPoolAccount totalRewards
  return s.depositEvent (.farmCreated globalPool.id owner rewardCurrency
    yieldPerPeriod plannedYieldingPeriods blocksPerPeriod incentivizedAsset
    maxRewardPerPeriod)

/-- `destroy_farm`. -/
def destroyFarm (s : State) (who : AccountId) (farmId : ℕ) : Except Error State := do
  let globalPool ← okOr (s.globalPoolData.lookup farmId) .farmNotFound
  ensure (who = globalPool.owner) .forbidden
  ensure (globalPool.liqPoolsCount = 0) .farmIsNotEmpty
  let globalPoolAccount ← poolAccountId globalPool.id
  ensure (s.ledger.free globalPoolAccount globalPool.rewardCurrency = 0)
    .rewardBalanceIsNotZero
  let s := { s with globalPoolData := s.globalPoolData.erase farmId }
  return s.depositEvent (.farmDestroyed farmId who)

/-- `withdraw_undistributed_rewards`. -/
def withdrawUndistributedRewards (s : State) (who : AccountId) (farmId : ℕ) :
    Except Error State := do
  let globalPool ← okOr (s.globalPoolData.lookup farmId) .farmNotFound
  ensure (globalPool.owner = who) .forbidden
  ensure (globalPool.liqPoolsCount = 0) .farmIsNotEmpty
  let globalPoolAccount ← poolAccountId globalPool.id
  let undistributedReward :=
    s.ledger.totalBalance globalPoolAccount globalPool.rewardCurrency
  let s ← s.transfer globalPool.rewardCurrency globalPoolAccount who
    undistributedReward
  return s.depositEvent (.undistributedRewardsWithdrawn globalPool.id who
    globalPool.rewardCurrency undistributedReward)

/-- `add_liquidity_pool`. -/
def addLiquidityPool (cfg : Config) (s : State) (who : AccountId) (farmId : ℕ)
    (assetPair : AssetPair) (multiplier : ℕ) (loyaltyCurve : Option LoyaltyCurve) :
    Except Error State := do
  ensure (multiplier ≠ 0) .invalidMultiplier
  ensure (∀ curve ∈ loyaltyCurve, curve.initialRewardPercentage < FixedU128.one)
    .invalidInitialRewardPercentage
  ensure (s.amm.poolExists assetPair = true) .ammPoolDoesNotExist
  let globalPool ← okOr (s.globalPoolData.lookup farmId) .farmNotFound
  ensure (who = globalPool.owner) .forbidden
  ensure (assetPair.assetIn = globalPool.incentivizedAsset ∨
    assetPair.assetOut = globalPool.incentivizedAsset) .missingIncentivizedAsset
  let ammPoolId := cfg.getPairId assetPair
  ensure (s.liquidityPoolData.lookup (farmId, ammPoolId) = none)
    .liquidityPoolAlreadyExists
  let nowPeriod ← getNowPeriod s globalPool.blocksPerPeriod
  let (s, globalPool) ← refreshGlobalPool cfg s globalPool nowPeriod
  let liqPoolId ← getNextPoolId s
  let s := { s with
    poolIdSequencer := liqPoolId
    liquidityPoolMetadata := s.liquidityPoolMetadata.insert liqPoolId
      ⟨assetPair, 0, globalPool.id⟩ }
  let pool := LiquidityPoolYieldFarm.new liqPoolId nowPeriod loyaltyCurve multiplier
  let s := s.setLiqPool (globalPool.id, ammPoolId) pool
  let liqPoolsCount ← okOr (checkedAdd u32Bound globalPool.liqPoolsCount 1) .overflow
  let s := s.setGlobalPool farmId { globalPool with liqPoolsCount }
  return s.depositEvent (.liquidityPoolAdded globalPool.id pool.id multiplier
    cfg.nftClass assetPair loyaltyCurve)

/-- `update_liquidity_pool`. -/
def updateLiquidityPool (cfg : Config) (s : State) (who : AccountId) (farmId : ℕ)
    (assetPair : AssetPair) (multiplier : ℕ) : Except Error State := do
  ensure (multiplier ≠ 0) .invalidMultiplier
  let slot := (farmId, cfg.getPairId assetPair)
  let liqPool ← okOr (s.liquidityPoolData.lookup slot) .liquidityPoolNotFound
  ensure (liqPool.canceled = false) .liquidityMiningCanceled
  let globalPool ← okOr (s.globalPoolData.lookup farmId) .farmNotFound
  ensure (who = globalPool.owner) .forbidden
  let nowPeriod ← getNowPeriod s globalPool.blocksPerPeriod
  let (s, globalPool, liqPool) ← maybeUpdatePools cfg s globalPool liqPool nowPeriod
  let newStakeInGlobalPool ←
    okOr (cfg.math.calculateGlobalPoolShares liqPool.totalValuedShares multiplier)
      .overflow
  let totalSharesZ ←
    okOr (checkedSub globalPool.totalSharesZ liqPool.stakeInGlobalPool) .overflow
  let totalSharesZ ←
    okOr (checkedAdd u128Bound totalSharesZ newStakeInGlobalPool) .overflow
  let s := s.depositEvent (.liquidityPoolUpdated globalPool.id liqPool.id who
    assetPair multiplier)
  let s := s.setGlobalPool farmId { globalPool with totalSharesZ }
  return s.setLiqPool slot
    { liqPool with stakeInGlobalPool := newStakeInGlobalPool, multiplier }

/-- `cancel_liquidity_pool`. -/
def cancelLiquidityPool (cfg : Config) (s : State) (who : AccountId) (farmId : ℕ)
    (assetPair : AssetPair) : Except Error State := do
  let slot := (farmId, cfg.getPairId assetPair)
  let liqPool ← okOr (s.liquidityPoolData.lookup slot) .liquidityPoolNotFound
  ensure (liqPool.canceled = false) .liquidityMiningCanceled
  let globalPool ← okOr (s.globalPoolData.lookup farmId) .farmNotFound
  ensure (globalPool.owner = who) .forbidden
  let nowPeriod ← getNowPeriod s globalPool.blocksPerPeriod
  let (s, globalPool, liqPool) ← maybeUpdatePools cfg s globalPool liqPool nowPeriod
  let totalSharesZ ←
    okOr (checkedSub globalPool.totalSharesZ liqPool.stakeInGlobalPool) .overflow
  let s := s.depositEvent (.liquidityMiningCanceled farmId liqPool.id who assetPair)
  let s := s.setGlobalPool farmId { globalPool with totalSharesZ }
  return s.setLiqPool slot
    { liqPool with canceled := true, stakeInGlobalPool := 0, multiplier := 0 }

/-- `resume_liquidity_pool`. -/
def resumeLiquidityPool (cfg : Config) (s : State) (who : AccountId) (farmId : ℕ)
    (assetPair : AssetPair) (multiplier : ℕ) : Except Error State := do
  ensure (multiplier ≠ 0) .invalidMultiplier
  let slot := (farmId, cfg.getPairId assetPair)
  let liqPool ← okOr (s.liquidityPoolData.lookup slot) .liquidityPoolNotFound
  ensure (liqPool.canceled = true) .liquidityMiningIsNotCanceled
  let globalPool ← okOr (s.globalPoolData.lookup farmId) .farmNotFound
  ensure (globalPool.owner = who) .forbidden
  let nowPeriod ← getNowPeriod s globalPool.blocksPerPeriod
  let (s, globalPool) ← refreshGlobalPool cfg s globalPool nowPeriod
  let newStakeInGlobalPool ←
    okOr (cfg.math.calculateGlobalPoolShares liqPool.totalValuedShares multiplier)
      .overflow
  let totalSharesZ ←
    okOr (checkedAdd u128Bound globalPool.totalSharesZ newStakeInGlobalPool) .overflow
  let s := s.depositEvent (.liquidityMiningResumed farmId liqPool.id who assetPair
    multiplier)
  let s := s.setGlobalPool farmId { globalPool with totalSharesZ }
  return s.setLiqPool slot
    { liqPool with
      accumulatedRpz := globalPool.accumulatedRpz
      updatedAt := nowPeriod
      stakeInGlobalPool := newStakeInGlobalPool
      canceled := false
      multiplier }

/-- The metadata left by `remove_liquidity_pool`: it goes with the pool unless
some deposit still needs it. -/
def dropUnusedMetadata (s : State) (liqPoolId : ℕ) : State :=
  match s.liquidityPoolMetadata.lookup liqPoolId with
  | some metadata =>
      if metadata.nftsCount = 0 then
        { s with liquidityPoolMetadata := s.liquidityPoolMetadata.erase liqPoolId }
      else s
  | none => s

/-- `remove_liquidity_pool`. -/
def removeLiquidityPool (cfg : Config) (s : State) (who : AccountId) (farmId : ℕ)
    (assetPair : AssetPair) : Except Error State := do
  let slot := (farmId, cfg.getPairId assetPair)
  let liqPool ← okOr (s.liquidityPoolData.lookup slot) .liquidityPoolNotFound
  ensure (liqPool.canceled = true) .liquidityMiningIsNotCanceled
  let globalPool ← okOr (s.globalPoolData.lookup farmId) .farmNotFound
  ensure (globalPool.owner = who) .forbidden
  let liqPoolsCount ← okOr (checkedSub globalPool.liqPoolsCount 1) .overflow
  let globalPoolAccount ← poolAccountId globalPool.id
  let liqPoolAccount ← poolAccountId liqPool.id
  let unpaidReward := s.ledger.totalBalance liqPoolAccount globalPool.rewardCurrency
  let s ← s.transfer globalPool.rewardCurrency liqPoolAccount globalPoolAccount
    unpaidReward
  let s := dropUnusedMetadata s liqPool.id
  let s := s.setGlobalPool farmId { globalPool with liqPoolsCount }
  let s := s.depositEvent (.liquidityPoolRemoved farmId liqPool.id who assetPair)
  return { s with liquidityPoolData := s.liquidityPoolData.erase slot }

/-- `deposit_shares`. -/
def depositShares (cfg : Config) (s : State) (who : AccountId) (farmId : ℕ)
    (assetPair : AssetPair) (sharesAmount : ℕ) : Except Error State := do
  ensure (sharesAmount ≠ 0) .invalidDepositAmount
  let ammShareToken := s.amm.getShareToken assetPair
  ensure (sharesAmount ≤ s.ledger.free who ammShareToken)
    .insufficientAmmSharesBalance
  let ammAccount := cfg.getPairId assetPair
  let slot := (farmId, ammAccount)
  let liqPool ← okOr (s.liquidityPoolData.lookup slot) .liquidityPoolNotFound
  ensure (liqPool.canceled = false) .liquidityMiningCanceled
  let globalPool ← okOr (s.globalPoolData.lookup farmId) .farmNotFound
  let nowPeriod ← getNowPeriod s globalPool.blocksPerPeriod
  let (s, globalPool, liqPool) ← maybeUpdatePools cfg s globalPool liqPool nowPeriod
  let valuedShares ←
    getValuedShares s sharesAmount ammAccount globalPool.incentivizedAsset
  let sharesInGlobalPoolForDeposit ←
    okOr (cfg.math.calculateGlobalPoolShares valuedShares liqPool.multiplier) .overflow
  let totalShares ←
    okOr (checkedAdd u128Bound liqPool.totalShares sharesAmount) .overflow
  let totalValuedShares ←
    okOr (checkedAdd u128Bound liqPool.totalValuedShares valuedShares) .overflow
  let stakeInGlobalPool ←
    okOr (checkedAdd u128Bound liqPool.stakeInGlobalPool sharesInGlobalPoolForDeposit)
      .overflow
  let totalSharesZ ←
    okOr (checkedAdd u128Bound globalPool.totalSharesZ sharesInGlobalPoolForDeposit)
      .overflow
  let s ← s.transfer ammShareToken who accountId sharesAmount
  let (sequence, nftId) ← getNextNftId s liqPool.id
  let nft ← (Nft.doMint s.nft who (cfg.nftClass, nftId) []).mapError .nft
  let deposit :=
    Deposit.new sharesAmount valuedShares liqPool.accumulatedRpvs nowPeriod
  let metadata ←
    okOr (s.liquidityPoolMetadata.lookup liqPool.id) .liquidityPoolMetadataNotFound
  let nftsCount ← okOr (checkedAdd u64Bound metadata.nftsCount 1) .overflow
  let s := { s with
    nftInstanceSequencer := sequence
    nft
    depositData := s.depositData.insert nftId deposit
    liquidityPoolMetadata := s.liquidityPoolMetadata.insert liqPool.id
      { metadata with nftsCount } }
  let s := s.depositEvent (.sharesDeposited farmId liqPool.id who sharesAmount
    ammShareToken cfg.nftClass nftId)
  let s := s.setGlobalPool farmId { globalPool with totalSharesZ }
  return s.setLiqPool slot
    { liqPool with totalShares, totalValuedShares, stakeInGlobalPool }

/-- `claim_rewards`. -/
def claimRewards (cfg : Config) (s : State) (who : AccountId) (nftId : ℕ) :
    Except Error State := do
  let liqPoolId ← getPoolIdFromNftId nftId
  let metadata ←
    okOr (s.liquidityPoolMetadata.lookup liqPoolId) .liquidityPoolNotFound
  let farmId := metadata.farmId
  let deposit ← okOr (s.depositData.lookup nftId) .nftDoesNotExist
  let nftOwner ← okOr (s.nft.owner (cfg.nftClass, nftId)) .cantFindDepositOwner
  ensure (nftOwner = who) .notDepositOwner
  let slot := (farmId, cfg.getPairId metadata.assetPair)
  let liqPool ← okOr (s.liquidityPoolData.lookup slot) .liquidityPoolNotFound
  ensure (liqPool.canceled = false) .liquidityMiningCanceled
  let globalPool ← okOr (s.globalPoolData.lookup farmId) .farmNotFound
  let nowPeriod ← getNowPeriod s globalPool.blocksPerPeriod
  ensure (deposit.updatedAt ≠ nowPeriod) .doubleClaimInThePeriod
  let (s, globalPool, liqPool) ← maybeUpdatePools cfg s globalPool liqPool nowPeriod
  let (s, deposit, reward, _) ← doClaimRewards cfg s who deposit liqPool nowPeriod
    globalPool.rewardCurrency
  let s := s.depositEvent (.rewardClaimed farmId liqPool.id who reward
    globalPool.rewardCurrency)
  let s := s.setGlobalPool farmId globalPool
  let s := s.setLiqPool slot liqPool
  return { s with depositData := s.depositData.insert nftId deposit }

/-- The stakes left when `withdraw_shares` takes a deposit out of its pool: a
canceled pool has no stake to give back. -/
def releaseStake (cfg : Config) (globalPool : GlobalPool)
    (liqPool : LiquidityPoolYieldFarm) (valuedShares : ℕ) :
    Except Error (GlobalPool × LiquidityPoolYieldFarm) := do
  if liqPool.canceled = true then
    return (globalPool, liqPool)
  else
    let sharesInGlobalPoolForDeposit ←
      okOr (cfg.math.calculateGlobalPoolShares valuedShares liqPool.multiplier)
        .overflow
    let stakeInGlobalPool ←
      okOr (checkedSub liqPool.stakeInGlobalPool sharesInGlobalPoolForDeposit) .overflow
    let totalSharesZ ←
      okOr (checkedSub globalPool.totalSharesZ sharesInGlobalPoolForDeposit) .overflow
    return ({ globalPool with totalSharesZ }, { liqPool with stakeInGlobalPool })

/-- The part of `withdraw_shares` that settles a deposit against the pool found
in its slot.  The update is skipped for a canceled pool inside
`maybe_update_pools` too. -/
def withdrawFromLiqPool (cfg : Config) (s : State) (who : AccountId) (slot : Slot)
    (liqPool : LiquidityPoolYieldFarm) (deposit : Deposit) : Except Error State := do
  let globalPool ← okOr (s.globalPoolData.lookup slot.1) .farmNotFound
  let nowPeriod ← getNowPeriod s globalPool.blocksPerPeriod
  let (s, globalPool, liqPool) ← maybeUpdatePools cfg s globalPool liqPool nowPeriod
  let (s, deposit, reward, unclaimableRewards) ← doClaimRewards cfg s who deposit
    liqPool nowPeriod globalPool.rewardCurrency
  let globalPoolAccount ← poolAccountId globalPool.id
  let liqPoolAccount ← poolAccountId liqPool.id
  let totalShares ← okOr (checkedSub liqPool.totalShares deposit.shares) .overflow
  let totalValuedShares ←
    okOr (checkedSub liqPool.totalValuedShares deposit.valuedShares) .overflow
  let liqPool := { liqPool with totalShares, totalValuedShares }
  let (globalPool, liqPool) ← releaseStake cfg globalPool liqPool deposit.valuedShares
  let s ← s.transfer globalPool.rewardCurrency liqPoolAccount globalPoolAccount
    unclaimableRewards
  let s := if reward = 0 then s else
    s.depositEvent (.rewardClaimed globalPool.id liqPool.id who reward
      globalPool.rewardCurrency)
  let s := s.setGlobalPool slot.1 globalPool
  return s.setLiqPool slot liqPool

/-- The part of `withdraw_shares` that returns the LP shares; without an AMM pool
nothing is transferred. -/
def returnLpShares (s : State) (who : AccountId) (assetPair : AssetPair)
    (farmId liqPoolId shares : ℕ) : Except Error State := do
  if s.amm.poolExists assetPair = true then
    let ammToken := s.amm.getShareToken assetPair
    let s ← s.transfer ammToken accountId who shares
    return s.depositEvent (.sharesWithdrawn farmId liqPoolId who ammToken shares)
  else
    return s

/-- The metadata after one deposit less; the last deposit of a removed pool takes
it along. -/
def releaseMetadata (s : State) (liqPoolId : ℕ) (metadata : Metadata)
    (poolRemoved : Bool) : Except Error State := do
  if metadata.nftsCount = 1 ∧ poolRemoved = true then
    return { s with
      liquidityPoolMetadata := s.liquidityPoolMetadata.erase liqPoolId }
  else
    let nftsCount ← okOr (checkedSub metadata.nftsCount 1) .overflow
    return { s with
      liquidityPoolMetadata := s.liquidityPoolMetadata.insert liqPoolId
        { metadata with nftsCount } }

/-- The settlement of `withdraw_shares`, if the slot still holds a pool. -/
def settleWithdrawal (cfg : Config) (s : State) (who : AccountId) (slot : Slot)
    (deposit : Deposit) : Except Error State :=
  match s.liquidityPoolData.lookup slot with
  | some liqPool => withdrawFromLiqPool cfg s who slot liqPool deposit
  | none => .ok s

/-- `withdraw_shares`. -/
def withdrawShares (cfg : Config) (s : State) (who : AccountId) (nftId : ℕ) :
    Except Error State := do
  let nftOwner ← okOr (s.nft.owner (cfg.nftClass, nftId)) .cantFindDepositOwner
  ensure (nftOwner = who) .notDepositOwner
  let liqPoolId ← getPoolIdFromNftId nftId
  let metadata ←
    okOr (s.liquidityPoolMetadata.lookup liqPoolId) .liquidityPoolNotFound
  let deposit ← okOr (s.depositData.lookup nftId) .nftDoesNotExist
  let slot := (metadata.farmId, cfg.getPairId metadata.assetPair)
  let poolRemoved := (s.liquidityPoolData.lookup slot).isNone
  let s ← settleWithdrawal cfg s who slot deposit
  let s ← returnLpShares s who metadata.assetPair metadata.farmId liqPoolId
    deposit.shares
  let nft ← (Nft.doBurn s.nft who (cfg.nftClass, nftId)).mapError .nft
  let s := { s with nft, depositData := s.depositData.erase nftId }
  releaseMetadata s liqPoolId metadata poolRemoved

/-- The pallet's extrinsics; `who` is the key that signed. -/
inductive Call
  | createFarm (totalRewards plannedYieldingPeriods blocksPerPeriod : ℕ)
      (incentivizedAsset rewardCurrency : AssetId) (owner : AccountId)
      (yieldPerPeriod : Permill)
  | destroyFarm (who farmId : ℕ)
  | withdrawUndistributedRewards (who farmId : ℕ)
  | addLiquidityPool (who farmId : ℕ) (assetPair : AssetPair) (multiplier : ℕ)
      (loyaltyCurve : Option LoyaltyCurve)
  | updateLiquidityPool (who farmId : ℕ) (assetPair : AssetPair) (multiplier : ℕ)
  | cancelLiquidityPool (who farmId : ℕ) (assetPair : AssetPair)
  | resumeLiquidityPool (who farmId : ℕ) (assetPair : AssetPair) (multiplier : ℕ)
  | removeLiquidityPool (who farmId : ℕ) (assetPair : AssetPair)
  | depositShares (who farmId : ℕ) (assetPair : AssetPair) (sharesAmount : ℕ)
  | claimRewards (who nftId : ℕ)
  | withdrawShares (who nftId : ℕ)
  deriving DecidableEq, Repr

def dispatch (cfg : Config) (s : State) : Call → Except Error State
  | .createFarm totalRewards plannedYieldingPeriods blocksPerPeriod incentivizedAsset
      rewardCurrency owner yieldPerPeriod =>
      createFarm cfg s totalRewards plannedYieldingPeriods blocksPerPeriod
        incentivizedAsset rewardCurrency owner yieldPerPeriod
  | .destroyFarm who farmId => destroyFarm s (.signer who) farmId
  | .withdrawUndistributedRewards who farmId =>
      withdrawUndistributedRewards s (.signer who) farmId
  | .addLiquidityPool who farmId assetPair multiplier loyaltyCurve =>
      addLiquidityPool cfg s (.signer who) farmId assetPair multiplier loyaltyCurve
  | .updateLiquidityPool who farmId assetPair multiplier =>
      updateLiquidityPool cfg s (.signer who) farmId assetPair multiplier
  | .cancelLiquidityPool who farmId assetPair =>
      cancelLiquidityPool cfg s (.signer who) farmId assetPair
  | .resumeLiquidityPool who farmId assetPair multiplier =>
      resumeLiquidityPool cfg s (.signer who) farmId assetPair multiplier
  | .removeLiquidityPool who farmId assetPair =>
      removeLiquidityPool cfg s (.signer who) farmId assetPair
  | .depositShares who farmId assetPair sharesAmount =>
      depositShares cfg s (.signer who) farmId assetPair sharesAmount
  | .claimRewards who nftId => claimRewards cfg s (.signer who) nftId
  | .withdrawShares who nftId => withdrawShares cfg s (.signer who) nftId

/-- What the rest of the chain looks like to the pallet. -/
structure Environment where
  blockNumber : ℕ
  ledger : Currencies
  amm : Amm
  nft : Nft.State

/-- The pallet's storage under a new environment. -/
def State.within (s : State) (env : Environment) : State :=
  { s with
    blockNumber := env.blockNumber
    ledger := env.ledger
    amm := env.amm
    nft := env.nft }

/-- The rest of the chain moves on: blocks do not go back, nobody but the pallet
spends from its accounts, and the AMM keeps to its share tokens. -/
structure Environment.Follows (cfg : Config) (env : Environment) (s : State) : Prop where
  block : s.blockNumber ≤ env.blockNumber
  funds : ∀ account currency, account.IsPallet →
    s.ledger.free account currency ≤ env.ledger.free account currency
  amm : env.amm.Lawful cfg

/-- A step of the pallet in its chain. -/
inductive Label
  | call (call : Call)
  | external (env : Environment)

/-- A successful call, or a move of the rest of the chain. -/
def Step (cfg : Config) (s : State) (label : Label) (t : State) : Prop :=
  match label with
  | .call call => dispatch cfg s call = .ok t
  | .external env => env.Follows cfg s ∧ t = s.within env

/-- Empty storage. -/
structure Initial (cfg : Config) (s : State) : Prop where
  poolIdSequencer : s.poolIdSequencer = 0
  nftInstanceSequencer : s.nftInstanceSequencer = 0
  globalPoolData : s.globalPoolData = ∅
  liquidityPoolData : s.liquidityPoolData = ∅
  depositData : s.depositData = ∅
  liquidityPoolMetadata : s.liquidityPoolMetadata = ∅
  amm : s.amm.Lawful cfg

end Basilisk.LiquidityMining
