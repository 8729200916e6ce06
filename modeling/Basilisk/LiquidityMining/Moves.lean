/-
# Elementary moves

Every call of the pallet is a short sequence of elementary moves: a farm accrues,
a liquidity pool collects from it, a stake changes, a deposit enters, is paid and
leaves.  The moves form a transition system of their own over the same states.
What the pallet guarantees is proved move by move, and carried to its calls by
the refinement of the next module.

A `Rule` is a condition on how the pallet is used.  It is stated on a call, in
the state before the call, and again on the single move it is about.
-/

import Basilisk.LiquidityMining.Model

namespace Basilisk.LiquidityMining

open Basilisk.Math

/-- `after` is the reward per share once `reward` is booked over `shares`; a zero
reward may be skipped. -/
def Math.Books (math : Math) (before shares reward after : ℕ) : Prop :=
  math.calculateAccumulatedRps before shares reward = some after ∨
    reward = 0 ∧ after = before

/-- The current period of a farm. -/
def State.period (s : State) (globalPool : GlobalPool) : ℕ :=
  s.blockNumber / globalPool.blocksPerPeriod

/-- Write a slot's liquidity pool and its farm. -/
def State.put (s : State) (slot : Slot) (globalPool : GlobalPool)
    (liqPool : LiquidityPoolYieldFarm) : State :=
  (s.setGlobalPool slot.1 globalPool).setLiqPool slot liqPool

/-- The slot the metadata of a deposit leads to. -/
def Metadata.slot (cfg : Config) (metadata : Metadata) : Slot :=
  (metadata.farmId, cfg.getPairId metadata.assetPair)

/-- The rewards a list of events reports as claimed. -/
def claimedIn : List Event → ℕ
  | [] => 0
  | .rewardClaimed _ _ _ claimed _ :: events => claimed + claimedIn events
  | _ :: events => claimedIn events

theorem claimedIn_append (first second : List Event) :
    claimedIn (first ++ second) = claimedIn first + claimedIn second := by
  induction first with
  | nil => simp [claimedIn]
  | cons event events ih =>
      cases event <;> simp only [List.cons_append, claimedIn, ih, Nat.add_assoc]

/-- The LP shares of a deposit go back to its owner if the AMM pool exists. -/
inductive Returned (s : State) (assetPair : AssetPair) (who : AccountId) (shares : ℕ)
    (before after : Currencies) : Prop
  | listed (present : s.amm.poolExists assetPair = true)
      (moved : before.transfer (s.amm.getShareToken assetPair) accountId who shares =
        some after)
  | unlisted (absent : s.amm.poolExists assetPair = false) (same : after = before)

/-- Names of the moves, with what the rules look at. -/
inductive MoveKind
  | accrue (farmId : ℕ)
  | collect (slot : Slot)
  | forfeit (slot : Slot)
  | update (slot : Slot)
  | cancel (slot : Slot)
  | resume (slot : Slot)
  | enter (slot : Slot) (assetPair : AssetPair)
  | pay (nftId : ℕ)
  | leave (nftId : ℕ)
  | depart (nftId : ℕ)
  | createFarm (owner : AccountId)
  | destroyFarm (farmId : ℕ)
  | drain (farmId : ℕ)
  | addPool (farmId : ℕ) (assetPair : AssetPair)
  | removePool (slot : Slot)
  | external (env : Environment)

/-- The elementary moves. -/
inductive Move (cfg : Config) (s : State) : MoveKind → State → Prop
  /-- A farm books the rewards of the periods since its last update, as far as its
  balance goes. -/
  | accrue {farmId : ℕ} {globalPool : GlobalPool}
      {rewardPerPeriod reward accumulatedRpz : ℕ}
      (farm : s.globalPoolData.lookup farmId = some globalPool)
      (numbered : globalPool.id ≠ 0)
      (staked : globalPool.totalSharesZ ≠ 0)
      (later : globalPool.updatedAt < s.period globalPool)
      (rate : cfg.math.calculateGlobalPoolRewardPerPeriod
        globalPool.yieldPerPeriod.toFixed globalPool.totalSharesZ
        globalPool.maxRewardPerPeriod = some rewardPerPeriod)
      (capped : reward =
        min ((s.period globalPool - globalPool.updatedAt) * rewardPerPeriod)
          (s.ledger.free (.palletSubAccount globalPool.id) globalPool.rewardCurrency))
      (booked : cfg.math.Books globalPool.accumulatedRpz globalPool.totalSharesZ reward
        accumulatedRpz) :
      Move cfg s (.accrue farmId)
        ((s.depositEvent (.farmAccRPZUpdated globalPool.id accumulatedRpz
          globalPool.totalSharesZ)).setGlobalPool farmId
          { globalPool with
            accumulatedRpz
            accumulatedRewards := globalPool.accumulatedRewards + reward
            updatedAt := s.period globalPool })
  /-- A liquidity pool is paid what its stake earned since it was last paid. -/
  | collect {slot : Slot} {globalPool : GlobalPool} {liqPool : LiquidityPoolYieldFarm}
      {reward accumulatedRpvs : ℕ} {ledger : Currencies}
      (farm : s.globalPoolData.lookup slot.1 = some globalPool)
      (pool : s.liquidityPoolData.lookup slot = some liqPool)
      (active : liqPool.canceled = false)
      (stale : liqPool.updatedAt ≠ s.period globalPool)
      (valued : liqPool.totalValuedShares ≠ 0)
      (behind : liqPool.accumulatedRpz ≤ globalPool.accumulatedRpz)
      (earned : reward =
        (globalPool.accumulatedRpz - liqPool.accumulatedRpz) * liqPool.stakeInGlobalPool)
      (covered : reward ≤ globalPool.accumulatedRewards)
      (booked : cfg.math.Books liqPool.accumulatedRpvs liqPool.totalValuedShares reward
        accumulatedRpvs)
      (moved : s.ledger.transfer globalPool.rewardCurrency
        (.palletSubAccount globalPool.id) (.palletSubAccount liqPool.id) reward =
          some ledger) :
      Move cfg s (.collect slot)
        (State.put
          { s with
            ledger
            events := s.events ++ [.liquidityPoolAccRPVSUpdated globalPool.id liqPool.id
              accumulatedRpvs liqPool.totalValuedShares] }
          slot
          { globalPool with
            paidAccumulatedRewards := globalPool.paidAccumulatedRewards + reward
            accumulatedRewards := globalPool.accumulatedRewards - reward }
          { liqPool with
            accumulatedRpz := globalPool.accumulatedRpz
            accumulatedRpvs
            updatedAt := s.period globalPool })
  /-- A liquidity pool without valued shares gives up what its stake earned. -/
  | forfeit {slot : Slot} {globalPool : GlobalPool} {liqPool : LiquidityPoolYieldFarm}
      {reward : ℕ}
      (farm : s.globalPoolData.lookup slot.1 = some globalPool)
      (pool : s.liquidityPoolData.lookup slot = some liqPool)
      (active : liqPool.canceled = false)
      (unvalued : liqPool.totalValuedShares = 0)
      (behind : liqPool.accumulatedRpz ≤ globalPool.accumulatedRpz)
      (earned : reward =
        (globalPool.accumulatedRpz - liqPool.accumulatedRpz) * liqPool.stakeInGlobalPool)
      (covered : reward ≤ globalPool.accumulatedRewards) :
      Move cfg s (.forfeit slot)
        (s.put slot
          { globalPool with
            paidAccumulatedRewards := globalPool.paidAccumulatedRewards + reward
            accumulatedRewards := globalPool.accumulatedRewards - reward }
          { liqPool with accumulatedRpz := globalPool.accumulatedRpz })
  /-- The multiplier of an active pool changes, and with it its stake. -/
  | update {slot : Slot} {globalPool : GlobalPool} {liqPool : LiquidityPoolYieldFarm}
      {multiplier stake : ℕ} {who : AccountId} {assetPair : AssetPair}
      (farm : s.globalPoolData.lookup slot.1 = some globalPool)
      (pool : s.liquidityPoolData.lookup slot = some liqPool)
      (active : liqPool.canceled = false)
      (weighed : cfg.math.calculateGlobalPoolShares liqPool.totalValuedShares multiplier =
        some stake)
      (held : liqPool.stakeInGlobalPool ≤ globalPool.totalSharesZ)
      (fits : globalPool.totalSharesZ - liqPool.stakeInGlobalPool + stake < u128Bound) :
      Move cfg s (.update slot)
        (State.put
          (s.depositEvent (.liquidityPoolUpdated globalPool.id liqPool.id who assetPair
            multiplier))
          slot
          { globalPool with
            totalSharesZ :=
              globalPool.totalSharesZ - liqPool.stakeInGlobalPool + stake }
          { liqPool with stakeInGlobalPool := stake, multiplier })
  /-- An active pool is canceled and loses its stake. -/
  | cancel {slot : Slot} {globalPool : GlobalPool} {liqPool : LiquidityPoolYieldFarm}
      {who : AccountId} {assetPair : AssetPair}
      (farm : s.globalPoolData.lookup slot.1 = some globalPool)
      (pool : s.liquidityPoolData.lookup slot = some liqPool)
      (active : liqPool.canceled = false)
      (held : liqPool.stakeInGlobalPool ≤ globalPool.totalSharesZ) :
      Move cfg s (.cancel slot)
        (State.put
          (s.depositEvent (.liquidityMiningCanceled slot.1 liqPool.id who assetPair))
          slot
          { globalPool with
            totalSharesZ := globalPool.totalSharesZ - liqPool.stakeInGlobalPool }
          { liqPool with canceled := true, stakeInGlobalPool := 0, multiplier := 0 })
  /-- A canceled pool starts anew from the farm's present reward per share. -/
  | resume {slot : Slot} {globalPool : GlobalPool} {liqPool : LiquidityPoolYieldFarm}
      {multiplier stake : ℕ} {who : AccountId} {assetPair : AssetPair}
      (farm : s.globalPoolData.lookup slot.1 = some globalPool)
      (pool : s.liquidityPoolData.lookup slot = some liqPool)
      (idle : liqPool.canceled = true)
      (weighed : cfg.math.calculateGlobalPoolShares liqPool.totalValuedShares multiplier =
        some stake)
      (fits : globalPool.totalSharesZ + stake < u128Bound) :
      Move cfg s (.resume slot)
        (State.put
          (s.depositEvent (.liquidityMiningResumed slot.1 liqPool.id who assetPair
            multiplier))
          slot
          { globalPool with totalSharesZ := globalPool.totalSharesZ + stake }
          { liqPool with
            accumulatedRpz := globalPool.accumulatedRpz
            updatedAt := s.period globalPool
            stakeInGlobalPool := stake
            canceled := false
            multiplier })
  /-- LP shares are locked and a new deposit joins an active pool. -/
  | enter {slot : Slot} {globalPool : GlobalPool} {liqPool : LiquidityPoolYieldFarm}
      {key amount valuedShares stake : ℕ} {assetPair : AssetPair} {metadata : Metadata}
      {ledger : Currencies} {nft : Nft.State}
      (farm : s.globalPoolData.lookup slot.1 = some globalPool)
      (pool : s.liquidityPoolData.lookup slot = some liqPool)
      (active : liqPool.canceled = false)
      (account : slot.2 = cfg.getPairId assetPair)
      (nonzero : amount ≠ 0)
      (valued : valuedShares =
        amount * s.ledger.free slot.2 globalPool.incentivizedAsset)
      (weighed : cfg.math.calculateGlobalPoolShares valuedShares liqPool.multiplier =
        some stake)
      (locked : s.ledger.transfer (s.amm.getShareToken assetPair) (.signer key) accountId
        amount = some ledger)
      (numbered : liqPool.id ≠ 0)
      (sequenced : s.nftInstanceSequencer + 1 ≤ maxNftInstanceSequencer)
      (minted : Nft.doMint s.nft (.signer key)
        (cfg.nftClass, encodeNftId liqPool.id (s.nftInstanceSequencer + 1)) [] = .ok nft)
      (known : s.liquidityPoolMetadata.lookup liqPool.id = some metadata)
      (fits : globalPool.totalSharesZ + stake < u128Bound) :
      Move cfg s (.enter slot assetPair)
        (State.put
          { s with
            ledger
            nft
            nftInstanceSequencer := s.nftInstanceSequencer + 1
            depositData := s.depositData.insert
              (encodeNftId liqPool.id (s.nftInstanceSequencer + 1))
              (Deposit.new amount valuedShares liqPool.accumulatedRpvs
                (s.period globalPool))
            liquidityPoolMetadata := s.liquidityPoolMetadata.insert liqPool.id
              { metadata with nftsCount := metadata.nftsCount + 1 }
            events := s.events ++ [.sharesDeposited slot.1 liqPool.id (.signer key) amount
              (s.amm.getShareToken assetPair) cfg.nftClass
              (encodeNftId liqPool.id (s.nftInstanceSequencer + 1))] }
          slot
          { globalPool with totalSharesZ := globalPool.totalSharesZ + stake }
          { liqPool with
            totalShares := liqPool.totalShares + amount
            totalValuedShares := liqPool.totalValuedShares + valuedShares
            stakeInGlobalPool := liqPool.stakeInGlobalPool + stake })
  /-- A deposit is paid from the pool in its slot. -/
  | pay {nftId key loyalty reward unclaimable : ℕ} {metadata : Metadata}
      {globalPool : GlobalPool} {liqPool : LiquidityPoolYieldFarm} {deposit : Deposit}
      {ledger : Currencies} (reports : List Event)
      (known : s.liquidityPoolMetadata.lookup (poolIdOf nftId) = some metadata)
      (recorded : s.depositData.lookup nftId = some deposit)
      (farm : s.globalPoolData.lookup metadata.farmId = some globalPool)
      (pool : s.liquidityPoolData.lookup (metadata.slot cfg) = some liqPool)
      (entered : deposit.enteredAt ≤ s.period globalPool)
      (unpaid : deposit.updatedAt ≠ s.period globalPool)
      (loyal : getLoyaltyMultiplier cfg (s.period globalPool - deposit.enteredAt)
        liqPool.loyaltyCurve = .ok loyalty)
      (priced : cfg.math.calculateUserReward deposit.accumulatedRpvs deposit.valuedShares
        deposit.accumulatedClaimedRewards liqPool.accumulatedRpvs loyalty =
          some (reward, unclaimable))
      (moved : s.ledger.transfer globalPool.rewardCurrency (.palletSubAccount liqPool.id)
        (.signer key) reward = some ledger)
      (reported : claimedIn reports = reward) :
      Move cfg s (.pay nftId)
        (State.put
          { s with
            ledger
            events := s.events ++ reports
            depositData := s.depositData.insert nftId
              { deposit with
                accumulatedClaimedRewards := deposit.accumulatedClaimedRewards + reward
                updatedAt := s.period globalPool } }
          (metadata.slot cfg) globalPool liqPool)
  /-- A deposit leaves the pool in its slot, which refunds the farm. -/
  | leave {nftId key unclaimable stake : ℕ} {metadata : Metadata}
      {globalPool : GlobalPool} {liqPool : LiquidityPoolYieldFarm} {deposit : Deposit}
      {refunded ledger : Currencies} {nft : Nft.State} (reports : List Event)
      (known : s.liquidityPoolMetadata.lookup (poolIdOf nftId) = some metadata)
      (recorded : s.depositData.lookup nftId = some deposit)
      (farm : s.globalPoolData.lookup metadata.farmId = some globalPool)
      (pool : s.liquidityPoolData.lookup (metadata.slot cfg) = some liqPool)
      (shares : deposit.shares ≤ liqPool.totalShares)
      (valuedShares : deposit.valuedShares ≤ liqPool.totalValuedShares)
      (released : (liqPool.canceled = true ∧ stake = 0) ∨
        (liqPool.canceled = false ∧
          cfg.math.calculateGlobalPoolShares deposit.valuedShares liqPool.multiplier =
            some stake))
      (held : stake ≤ liqPool.stakeInGlobalPool)
      (heldFarm : stake ≤ globalPool.totalSharesZ)
      (leftover : unclaimable = 0 ∨ ∃ claimed reward loyalty,
        cfg.math.calculateUserReward deposit.accumulatedRpvs deposit.valuedShares claimed
            liqPool.accumulatedRpvs loyalty = some (reward, unclaimable) ∧
          deposit.accumulatedClaimedRewards = claimed + reward)
      (refund : s.ledger.transfer globalPool.rewardCurrency
        (.palletSubAccount liqPool.id) (.palletSubAccount globalPool.id) unclaimable =
          some refunded)
      (returned : Returned s metadata.assetPair (.signer key) deposit.shares refunded
        ledger)
      (burned : Nft.doBurn s.nft (.signer key) (cfg.nftClass, nftId) = .ok nft)
      (counted : 1 ≤ metadata.nftsCount)
      (reported : claimedIn reports = 0) :
      Move cfg s (.leave nftId)
        (State.put
          { s with
            ledger
            nft
            events := s.events ++ reports
            depositData := s.depositData.erase nftId
            liquidityPoolMetadata := s.liquidityPoolMetadata.insert (poolIdOf nftId)
              { metadata with nftsCount := metadata.nftsCount - 1 } }
          (metadata.slot cfg)
          { globalPool with totalSharesZ := globalPool.totalSharesZ - stake }
          { liqPool with
            totalShares := liqPool.totalShares - deposit.shares
            totalValuedShares := liqPool.totalValuedShares - deposit.valuedShares
            stakeInGlobalPool := liqPool.stakeInGlobalPool - stake })
  /-- A deposit whose slot is empty is handed back. -/
  | depart {nftId key : ℕ} {metadata : Metadata} {deposit : Deposit}
      {ledger : Currencies} {nft : Nft.State} (reports : List Event)
      (known : s.liquidityPoolMetadata.lookup (poolIdOf nftId) = some metadata)
      (recorded : s.depositData.lookup nftId = some deposit)
      (vacant : s.liquidityPoolData.lookup (metadata.slot cfg) = none)
      (returned : Returned s metadata.assetPair (.signer key) deposit.shares s.ledger
        ledger)
      (burned : Nft.doBurn s.nft (.signer key) (cfg.nftClass, nftId) = .ok nft)
      (counted : 1 ≤ metadata.nftsCount)
      (reported : claimedIn reports = 0) :
      Move cfg s (.depart nftId)
        { s with
          ledger
          nft
          events := s.events ++ reports
          depositData := s.depositData.erase nftId
          liquidityPoolMetadata :=
            if metadata.nftsCount = 1 then
              s.liquidityPoolMetadata.erase (poolIdOf nftId)
            else
              s.liquidityPoolMetadata.insert (poolIdOf nftId)
                { metadata with nftsCount := metadata.nftsCount - 1 } }
  /-- A new farm is paid for. -/
  | createFarm {totalRewards plannedYieldingPeriods blocksPerPeriod : ℕ}
      {incentivizedAsset rewardCurrency : AssetId} {owner : AccountId}
      {yieldPerPeriod : Permill} {maxRewardPerPeriod : ℕ} {ledger : Currencies}
      (event : Event)
      (proper : blocksPerPeriod ≠ 0)
      (numbered : s.poolIdSequencer + 1 < u32Bound)
      (funded : s.ledger.transfer rewardCurrency owner
        (.palletSubAccount (s.poolIdSequencer + 1)) totalRewards = some ledger)
      (reported : claimedIn [event] = 0) :
      Move cfg s (.createFarm owner)
        (State.setGlobalPool
          { s with
            ledger
            poolIdSequencer := s.poolIdSequencer + 1
            events := s.events ++ [event] }
          (s.poolIdSequencer + 1)
          (GlobalPool.new (s.poolIdSequencer + 1) (s.blockNumber / blocksPerPeriod)
            rewardCurrency yieldPerPeriod plannedYieldingPeriods blocksPerPeriod owner
            incentivizedAsset maxRewardPerPeriod))
  /-- An empty farm without funds is destroyed. -/
  | destroyFarm {farmId : ℕ} {globalPool : GlobalPool} {who : AccountId}
      (farm : s.globalPoolData.lookup farmId = some globalPool)
      (empty : globalPool.liqPoolsCount = 0) :
      Move cfg s (.destroyFarm farmId)
        { s with
          globalPoolData := s.globalPoolData.erase farmId
          events := s.events ++ [.farmDestroyed farmId who] }
  /-- The owner of an empty farm takes its balance. -/
  | drain {farmId key amount : ℕ} {globalPool : GlobalPool} {ledger : Currencies}
      (farm : s.globalPoolData.lookup farmId = some globalPool)
      (empty : globalPool.liqPoolsCount = 0)
      (moved : s.ledger.transfer globalPool.rewardCurrency
        (.palletSubAccount globalPool.id) (.signer key) amount = some ledger) :
      Move cfg s (.drain farmId)
        { s with
          ledger
          events := s.events ++ [.undistributedRewardsWithdrawn globalPool.id
            (.signer key) globalPool.rewardCurrency amount] }
  /-- A liquidity pool is added in a free slot. -/
  | addPool {farmId : ℕ} {globalPool : GlobalPool} {assetPair : AssetPair}
      {loyaltyCurve : Option LoyaltyCurve} (multiplier : ℕ)
      (farm : s.globalPoolData.lookup farmId = some globalPool)
      (same : globalPool.id = farmId)
      (curve : ∀ curve ∈ loyaltyCurve, curve.initialRewardPercentage < FixedU128.one)
      (vacant : s.liquidityPoolData.lookup (farmId, cfg.getPairId assetPair) = none)
      (numbered : s.poolIdSequencer + 1 < u32Bound) :
      Move cfg s (.addPool farmId assetPair)
        (State.put
          { s with
            poolIdSequencer := s.poolIdSequencer + 1
            liquidityPoolMetadata := s.liquidityPoolMetadata.insert
              (s.poolIdSequencer + 1) ⟨assetPair, 0, farmId⟩
            events := s.events ++ [.liquidityPoolAdded farmId (s.poolIdSequencer + 1)
              multiplier cfg.nftClass assetPair loyaltyCurve] }
          (farmId, cfg.getPairId assetPair)
          { globalPool with liqPoolsCount := globalPool.liqPoolsCount + 1 }
          (.new (s.poolIdSequencer + 1) (s.period globalPool) loyaltyCurve multiplier))
  /-- A canceled pool is removed and its balance goes back to the farm. -/
  | removePool {slot : Slot} {globalPool : GlobalPool}
      {liqPool : LiquidityPoolYieldFarm} {amount : ℕ} {ledger : Currencies}
      (who : AccountId) (assetPair : AssetPair)
      (farm : s.globalPoolData.lookup slot.1 = some globalPool)
      (pool : s.liquidityPoolData.lookup slot = some liqPool)
      (idle : liqPool.canceled = true)
      (counted : 1 ≤ globalPool.liqPoolsCount)
      (moved : s.ledger.transfer globalPool.rewardCurrency
        (.palletSubAccount liqPool.id) (.palletSubAccount globalPool.id) amount =
          some ledger) :
      Move cfg s (.removePool slot)
        { s with
          ledger
          liquidityPoolMetadata := (dropUnusedMetadata s liqPool.id).liquidityPoolMetadata
          globalPoolData := s.globalPoolData.insert slot.1
            { globalPool with liqPoolsCount := globalPool.liqPoolsCount - 1 }
          liquidityPoolData := s.liquidityPoolData.erase slot
          events := s.events ++ [.liquidityPoolRemoved slot.1 liqPool.id who assetPair] }
  /-- The rest of the chain moves on. -/
  | external {env : Environment} (follows : env.Follows cfg s) :
      Move cfg s (.external env) (s.within env)

/-- The slot a call brings up to date before it acts. -/
def Call.slot (cfg : Config) (s : State) : Call → Option Slot
  | .updateLiquidityPool _ farmId assetPair _ => some (farmId, cfg.getPairId assetPair)
  | .cancelLiquidityPool _ farmId assetPair => some (farmId, cfg.getPairId assetPair)
  | .depositShares _ farmId assetPair _ => some (farmId, cfg.getPairId assetPair)
  | .claimRewards _ nftId =>
      (s.liquidityPoolMetadata.lookup (poolIdOf nftId)).map (Metadata.slot cfg)
  | .withdrawShares _ nftId =>
      (s.liquidityPoolMetadata.lookup (poolIdOf nftId)).map (Metadata.slot cfg)
  | _ => none

/-- `maybe_update_pools` has something to do: the pool is active, has shares and
was not updated in this period. -/
def Due (s : State) (slot : Slot) : Prop :=
  ∃ globalPool liqPool, s.globalPoolData.lookup slot.1 = some globalPool ∧
    s.liquidityPoolData.lookup slot = some liqPool ∧ liqPool.canceled = false ∧
    liqPool.totalShares ≠ 0 ∧ liqPool.updatedAt ≠ s.period globalPool

/-- The farm a call may accrue rewards in. -/
def Call.Accrues (cfg : Config) (s : State) (farmId : ℕ) : Call → Prop
  | .addLiquidityPool _ farm _ _ _ => farm = farmId
  | .resumeLiquidityPool _ farm _ _ => farm = farmId
  | call => ∃ slot ∈ call.slot cfg s, slot.1 = farmId ∧ Due s slot

/-- The farm owes nothing, or its balance covers what it owes and the rewards of
all periods since its last update. -/
def Funded (cfg : Config) (s : State) (farmId : ℕ) : Prop :=
  ∀ globalPool rewardPerPeriod, s.globalPoolData.lookup farmId = some globalPool →
    globalPool.totalSharesZ ≠ 0 → globalPool.updatedAt ≠ s.period globalPool →
    cfg.math.calculateGlobalPoolRewardPerPeriod globalPool.yieldPerPeriod.toFixed
      globalPool.totalSharesZ globalPool.maxRewardPerPeriod = some rewardPerPeriod →
    globalPool.accumulatedRewards = 0 ∨
      globalPool.accumulatedRewards +
          (s.period globalPool - globalPool.updatedAt) * rewardPerPeriod ≤
        s.ledger.free (.palletSubAccount globalPool.id) globalPool.rewardCurrency

/-- The pool's checkpoint is the farm's present reward per share. -/
def CheckpointCurrent (s : State) (slot : Slot) : Prop :=
  ∀ globalPool liqPool, s.globalPoolData.lookup slot.1 = some globalPool →
    s.liquidityPoolData.lookup slot = some liqPool →
    liqPool.accumulatedRpz = globalPool.accumulatedRpz

/-- The farm was updated in this period. -/
def FarmCurrent (s : State) (farmId : ℕ) : Prop :=
  ∀ globalPool, s.globalPoolData.lookup farmId = some globalPool →
    globalPool.updatedAt = s.period globalPool

/-- The farm has stake to accrue rewards for. -/
def FarmStaked (s : State) (farmId : ℕ) : Prop :=
  ∀ globalPool, s.globalPoolData.lookup farmId = some globalPool →
    globalPool.totalSharesZ ≠ 0

/-- No deposit of an earlier pool leads to the slot. -/
def SlotUnused (cfg : Config) (s : State) (slot : Slot) : Prop :=
  ∀ liqPoolId metadata, s.liquidityPoolMetadata.lookup liqPoolId = some metadata →
    metadata.slot cfg ≠ slot

/-- Conditions on how the pallet is used. -/
inductive Rule
  /-- Farms accrue only rewards they can pay on top of those they owe. -/
  | fundedAccrual
  /-- The balance of a farm is withdrawn only when no rewards are owed. -/
  | settledDrain
  /-- Farms are paid for by accounts outside of the pallet. -/
  | outsideOwner
  /-- Stake is added only to pools that are, or are being, brought up to date. -/
  | currentStake
  /-- Deposits are made only in farms that are, or are being, brought up to date. -/
  | currentFarm
  /-- Deposits are made only while the AMM pool exists. -/
  | listedDeposit
  /-- A pool is added only where no deposit of an earlier pool is left. -/
  | unusedSlot
  deriving DecidableEq

/-- The rule on a call, in the state before it. -/
def Rule.Allows (cfg : Config) (s : State) : Rule → Label → Prop
  | .fundedAccrual, .call call => ∀ farmId, call.Accrues cfg s farmId → Funded cfg s farmId
  | .settledDrain, .call (.withdrawUndistributedRewards _ farmId) =>
      ∀ globalPool, s.globalPoolData.lookup farmId = some globalPool →
        globalPool.accumulatedRewards = 0
  | .outsideOwner, .call (.createFarm _ _ _ _ _ owner _) => ¬ owner.IsPallet
  | .currentStake, .call (.depositShares _ farmId assetPair _) =>
      Due s (farmId, cfg.getPairId assetPair) ∨
        CheckpointCurrent s (farmId, cfg.getPairId assetPair)
  | .currentStake, .call (.updateLiquidityPool _ farmId assetPair _) =>
      Due s (farmId, cfg.getPairId assetPair) ∨
        CheckpointCurrent s (farmId, cfg.getPairId assetPair)
  | .currentFarm, .call (.depositShares _ farmId assetPair _) =>
      (Due s (farmId, cfg.getPairId assetPair) ∧ FarmStaked s farmId) ∨
        FarmCurrent s farmId
  | .listedDeposit, .call (.depositShares _ _ assetPair _) =>
      s.amm.poolExists assetPair = true
  | .unusedSlot, .call (.addLiquidityPool _ farmId assetPair _ _) =>
      SlotUnused cfg s (farmId, cfg.getPairId assetPair)
  | _, _ => True

/-- The rule on the move it is about. -/
def Rule.AllowsMove (cfg : Config) (s : State) : Rule → MoveKind → Prop
  | .fundedAccrual, .accrue farmId => Funded cfg s farmId
  | .settledDrain, .drain farmId =>
      ∀ globalPool, s.globalPoolData.lookup farmId = some globalPool →
        globalPool.accumulatedRewards = 0
  | .outsideOwner, .createFarm owner => ¬ owner.IsPallet
  | .currentStake, .enter slot _ => CheckpointCurrent s slot
  | .currentStake, .update slot => CheckpointCurrent s slot
  | .currentFarm, .enter slot _ => FarmCurrent s slot.1
  | .listedDeposit, .enter _ assetPair => s.amm.poolExists assetPair = true
  | .unusedSlot, .addPool farmId assetPair =>
      SlotUnused cfg s (farmId, cfg.getPairId assetPair)
  | _, _ => True

/-- Every one of the rules allows the call. -/
def Obeys (cfg : Config) (rules : List Rule) (s : State) (label : Label) : Prop :=
  ∀ rule ∈ rules, rule.Allows cfg s label

/-- Every one of the rules allows the move. -/
def MoveObeys (cfg : Config) (rules : List Rule) (s : State) (kind : MoveKind) : Prop :=
  ∀ rule ∈ rules, rule.AllowsMove cfg s kind

end Basilisk.LiquidityMining
