/-
# What a move does to one pool

The moves once more, now from the point of view of one liquidity pool and the
deposits made in it.  Most moves do not concern the pool at all; each of the
others changes the pool's record, its farm's record and its deposits together.
`PoolChange` lists these changes once, so that what holds between a pool and its
deposits is proved change by change.

The deposits of a pool are those whose NFT carries its id.  They find the pool
through their metadata, so this module assumes that the slot of the pool is not
reused while a deposit leads to it (`OwnSlot`).
-/

import Basilisk.LiquidityMining.Backing
import Basilisk.LiquidityMining.Custody

namespace Basilisk.LiquidityMining

open Basilisk.Math

/-- The sum of a weight over the deposits made in a pool. -/
def tally (liqPoolId : ℕ) (weight : Deposit → ℕ)
    (deposits : AList fun _ : ℕ => Deposit) : ℕ :=
  deposits.total fun nftId deposit =>
    if poolIdOf nftId = liqPoolId then weight deposit else 0

section Tally

variable {liqPoolId nftId : ℕ} {weight weight' : Deposit → ℕ}
variable {deposits : AList fun _ : ℕ => Deposit} {deposit : Deposit}

theorem tally_insert_of_none (absent : deposits.lookup nftId = none)
    (own : poolIdOf nftId = liqPoolId) (weight : Deposit → ℕ) (deposit : Deposit) :
    tally liqPoolId weight (deposits.insert nftId deposit) =
      tally liqPoolId weight deposits + weight deposit := by
  have added := AList.total_insert_of_none (fun nftId deposit =>
    if poolIdOf nftId = liqPoolId then weight deposit else 0) absent deposit
  rw [if_pos own] at added
  exact added

theorem tally_insert (stored : deposits.lookup nftId = some deposit)
    (own : poolIdOf nftId = liqPoolId) (weight : Deposit → ℕ) (deposit' : Deposit) :
    tally liqPoolId weight (deposits.insert nftId deposit') + weight deposit =
      tally liqPoolId weight deposits + weight deposit' := by
  have written := AList.total_insert_add (fun nftId deposit =>
    if poolIdOf nftId = liqPoolId then weight deposit else 0) stored deposit'
  rw [if_pos own, if_pos own] at written
  exact written

/-- Rewriting a deposit without changing its weight. -/
theorem tally_rewrite {deposit' : Deposit} (stored : deposits.lookup nftId = some deposit)
    (own : poolIdOf nftId = liqPoolId) (weight : Deposit → ℕ)
    (same : weight deposit' = weight deposit) :
    tally liqPoolId weight (deposits.insert nftId deposit') =
      tally liqPoolId weight deposits := by
  have written := tally_insert stored own weight deposit'
  omega

theorem tally_erase (stored : deposits.lookup nftId = some deposit)
    (own : poolIdOf nftId = liqPoolId) (weight : Deposit → ℕ) :
    tally liqPoolId weight (deposits.erase nftId) + weight deposit =
      tally liqPoolId weight deposits := by
  have erased := AList.total_erase_add (fun nftId deposit =>
    if poolIdOf nftId = liqPoolId then weight deposit else 0) stored
  rw [if_pos own] at erased
  exact erased

/-- One deposit weighs no more than all. -/
theorem weight_le_tally (stored : deposits.lookup nftId = some deposit)
    (own : poolIdOf nftId = liqPoolId) (weight : Deposit → ℕ) :
    weight deposit ≤ tally liqPoolId weight deposits :=
  (Nat.le_add_left _ _).trans (tally_erase stored own weight).le

theorem tally_le_tally
    (pointwise : ∀ nftId deposit, deposits.lookup nftId = some deposit →
      poolIdOf nftId = liqPoolId → weight deposit ≤ weight' deposit) :
    tally liqPoolId weight deposits ≤ tally liqPoolId weight' deposits := by
  apply AList.total_le_total
  intro nftId deposit stored
  split_ifs with own
  · exact pointwise nftId deposit stored own
  · exact le_rfl

/-- A pool without deposits has nothing to sum. -/
theorem tally_eq_zero
    (empty : ∀ nftId deposit, deposits.lookup nftId = some deposit →
      poolIdOf nftId ≠ liqPoolId) : tally liqPoolId weight deposits = 0 := by
  apply AList.total_eq_zero
  intro nftId deposit stored
  exact if_neg (empty nftId deposit stored)

end Tally

/-- The deposits of a pool are the same in two tables. -/
structure SameMembers (liqPoolId : ℕ) (before after : AList fun _ : ℕ => Deposit) :
    Prop where
  lookup : ∀ nftId, poolIdOf nftId = liqPoolId → after.lookup nftId = before.lookup nftId
  tally : ∀ weight, tally liqPoolId weight after = tally liqPoolId weight before

section Members

variable {liqPoolId nftId : ℕ} {deposits : AList fun _ : ℕ => Deposit}
variable {deposit : Deposit}

theorem SameMembers.refl (liqPoolId : ℕ) (deposits : AList fun _ : ℕ => Deposit) :
    SameMembers liqPoolId deposits deposits :=
  ⟨fun _ _ => rfl, fun _ => rfl⟩

theorem sameMembers_of_tally {after : AList fun _ : ℕ => Deposit}
    (foreign : poolIdOf nftId ≠ liqPoolId)
    (others : ∀ other, other ≠ nftId → after.lookup other = deposits.lookup other)
    (sums : ∀ weight, tally liqPoolId weight after = tally liqPoolId weight deposits) :
    SameMembers liqPoolId deposits after := by
  refine ⟨?_, sums⟩
  rintro other own
  refine others other ?_
  rintro rfl
  exact foreign own

/-- Writing a deposit of another pool. -/
theorem sameMembers_insert (foreign : poolIdOf nftId ≠ liqPoolId) (deposit' : Deposit) :
    SameMembers liqPoolId deposits (deposits.insert nftId deposit') := by
  refine sameMembers_of_tally foreign (fun other distinct => AList.lookup_insert_ne distinct) ?_
  intro weight
  cases stored : deposits.lookup nftId with
  | none =>
      have added := AList.total_insert_of_none (fun nftId deposit =>
        if poolIdOf nftId = liqPoolId then weight deposit else 0) stored deposit'
      rw [if_neg foreign] at added
      exact added
  | some deposit =>
      have written := AList.total_insert_add (fun nftId deposit =>
        if poolIdOf nftId = liqPoolId then weight deposit else 0) stored deposit'
      rw [if_neg foreign, if_neg foreign] at written
      exact written

/-- Forgetting a deposit of another pool. -/
theorem sameMembers_erase (foreign : poolIdOf nftId ≠ liqPoolId)
    (stored : deposits.lookup nftId = some deposit) :
    SameMembers liqPoolId deposits (deposits.erase nftId) := by
  refine sameMembers_of_tally foreign (fun other distinct => AList.lookup_erase_ne distinct) ?_
  intro weight
  have erased := AList.total_erase_add (fun nftId deposit =>
    if poolIdOf nftId = liqPoolId then weight deposit else 0) stored
  rw [if_neg foreign] at erased
  exact erased

end Members

/-- The slot whose pool a move rewrites. -/
def MoveKind.slot (cfg : Config) (s : State) : MoveKind → Option Slot
  | .collect slot => some slot
  | .forfeit slot => some slot
  | .update slot => some slot
  | .cancel slot => some slot
  | .resume slot => some slot
  | .enter slot _ => some slot
  | .pay nftId => (s.liquidityPoolMetadata.lookup (poolIdOf nftId)).map (Metadata.slot cfg)
  | .leave nftId => (s.liquidityPoolMetadata.lookup (poolIdOf nftId)).map (Metadata.slot cfg)
  | .addPool farmId assetPair => some (farmId, cfg.getPairId assetPair)
  | .removePool slot => some slot
  | _ => none

/-- What a farm was set up with does not change. -/
structure SameTerms (before after : GlobalPool) : Prop where
  id : after.id = before.id
  rewardCurrency : after.rewardCurrency = before.rewardCurrency
  blocksPerPeriod : after.blocksPerPeriod = before.blocksPerPeriod
  maxRewardPerPeriod : after.maxRewardPerPeriod = before.maxRewardPerPeriod

/-- A farm that does not accrue, and pays `reward` to its pools. -/
structure Steady (before after : GlobalPool) (reward : ℕ) : Prop where
  accumulatedRpz : after.accumulatedRpz = before.accumulatedRpz
  updatedAt : after.updatedAt = before.updatedAt
  paid : after.paidAccumulatedRewards = before.paidAccumulatedRewards + reward

/-- What a move changes of a pool that stays in its slot. -/
inductive PoolChange (cfg : Config) (s t : State) (slot : Slot)
    (globalPool globalPool' : GlobalPool) (liqPool : LiquidityPoolYieldFarm) :
    MoveKind → LiquidityPoolYieldFarm → Prop
  /-- The move is about other pools. -/
  | idle {kind : MoveKind} {reward : ℕ} (untouched : kind.slot cfg s ≠ some slot)
      (steady : Steady globalPool globalPool' reward)
      (members : SameMembers liqPool.id s.depositData t.depositData) :
      PoolChange cfg s t slot globalPool globalPool' liqPool kind liqPool
  | accrue {rewardPerPeriod reward accumulatedRpz : ℕ}
      (later : globalPool.updatedAt < s.period globalPool)
      (rate : cfg.math.calculateGlobalPoolRewardPerPeriod
        globalPool.yieldPerPeriod.toFixed globalPool.totalSharesZ
        globalPool.maxRewardPerPeriod = some rewardPerPeriod)
      (capped : reward ≤ (s.period globalPool - globalPool.updatedAt) * rewardPerPeriod)
      (booked : cfg.math.Books globalPool.accumulatedRpz globalPool.totalSharesZ reward
        accumulatedRpz)
      (farm' : globalPool' = { globalPool with
        accumulatedRpz
        accumulatedRewards := globalPool.accumulatedRewards + reward
        updatedAt := s.period globalPool })
      (deposits : t.depositData = s.depositData) :
      PoolChange cfg s t slot globalPool globalPool' liqPool (.accrue slot.1) liqPool
  | collect {reward accumulatedRpvs updatedAt : ℕ}
      (earned : reward =
        (globalPool.accumulatedRpz - liqPool.accumulatedRpz) * liqPool.stakeInGlobalPool)
      (booked : cfg.math.Books liqPool.accumulatedRpvs liqPool.totalValuedShares reward
        accumulatedRpvs)
      (moved : s.ledger.transfer globalPool.rewardCurrency
        (.palletSubAccount globalPool.id) (.palletSubAccount liqPool.id) reward =
          some t.ledger)
      (steady : Steady globalPool globalPool' reward)
      (deposits : t.depositData = s.depositData) :
      PoolChange cfg s t slot globalPool globalPool' liqPool (.collect slot)
        { liqPool with
          accumulatedRpz := globalPool.accumulatedRpz
          accumulatedRpvs
          updatedAt }
  | forfeit {reward : ℕ} (steady : Steady globalPool globalPool' reward)
      (deposits : t.depositData = s.depositData) :
      PoolChange cfg s t slot globalPool globalPool' liqPool (.forfeit slot)
        { liqPool with accumulatedRpz := globalPool.accumulatedRpz }
  | update {multiplier stake : ℕ}
      (weighed : cfg.math.calculateGlobalPoolShares liqPool.totalValuedShares multiplier =
        some stake)
      (steady : Steady globalPool globalPool' 0)
      (deposits : t.depositData = s.depositData) :
      PoolChange cfg s t slot globalPool globalPool' liqPool (.update slot)
        { liqPool with stakeInGlobalPool := stake, multiplier }
  | cancel (steady : Steady globalPool globalPool' 0)
      (deposits : t.depositData = s.depositData) :
      PoolChange cfg s t slot globalPool globalPool' liqPool (.cancel slot)
        { liqPool with canceled := true, stakeInGlobalPool := 0, multiplier := 0 }
  | resume {multiplier stake updatedAt : ℕ}
      (weighed : cfg.math.calculateGlobalPoolShares liqPool.totalValuedShares multiplier =
        some stake)
      (steady : Steady globalPool globalPool' 0)
      (deposits : t.depositData = s.depositData) :
      PoolChange cfg s t slot globalPool globalPool' liqPool (.resume slot)
        { liqPool with
          accumulatedRpz := globalPool.accumulatedRpz
          updatedAt
          stakeInGlobalPool := stake
          canceled := false
          multiplier }
  | enter {nftId amount valuedShares stake : ℕ} {assetPair : AssetPair}
      (own : poolIdOf nftId = liqPool.id)
      (fresh : s.depositData.lookup nftId = none)
      (weighed : cfg.math.calculateGlobalPoolShares valuedShares liqPool.multiplier =
        some stake)
      (active : liqPool.canceled = false)
      (steady : Steady globalPool globalPool' 0)
      (deposits : t.depositData = s.depositData.insert nftId
        (Deposit.new amount valuedShares liqPool.accumulatedRpvs (s.period globalPool))) :
      PoolChange cfg s t slot globalPool globalPool' liqPool (.enter slot assetPair)
        { liqPool with
          totalShares := liqPool.totalShares + amount
          totalValuedShares := liqPool.totalValuedShares + valuedShares
          stakeInGlobalPool := liqPool.stakeInGlobalPool + stake }
  | pay {nftId key loyalty reward unclaimable : ℕ} {deposit : Deposit}
      (own : poolIdOf nftId = liqPool.id)
      (recorded : s.depositData.lookup nftId = some deposit)
      (loyal : getLoyaltyMultiplier cfg (s.period globalPool - deposit.enteredAt)
        liqPool.loyaltyCurve = .ok loyalty)
      (priced : cfg.math.calculateUserReward deposit.accumulatedRpvs deposit.valuedShares
        deposit.accumulatedClaimedRewards liqPool.accumulatedRpvs loyalty =
          some (reward, unclaimable))
      (moved : s.ledger.transfer globalPool.rewardCurrency (.palletSubAccount liqPool.id)
        (.signer key) reward = some t.ledger)
      (steady : Steady globalPool globalPool' 0)
      (deposits : t.depositData = s.depositData.insert nftId
        { deposit with
          accumulatedClaimedRewards := deposit.accumulatedClaimedRewards + reward
          updatedAt := s.period globalPool }) :
      PoolChange cfg s t slot globalPool globalPool' liqPool (.pay nftId) liqPool
  | leave {nftId unclaimable stake : ℕ} {deposit : Deposit} {refunded : Currencies}
      (own : poolIdOf nftId = liqPool.id)
      (recorded : s.depositData.lookup nftId = some deposit)
      (released : (liqPool.canceled = true ∧ stake = 0) ∨
        (liqPool.canceled = false ∧
          cfg.math.calculateGlobalPoolShares deposit.valuedShares liqPool.multiplier =
            some stake))
      (leftover : unclaimable = 0 ∨ ∃ claimed reward loyalty,
        cfg.math.calculateUserReward deposit.accumulatedRpvs deposit.valuedShares claimed
            liqPool.accumulatedRpvs loyalty = some (reward, unclaimable) ∧
          deposit.accumulatedClaimedRewards = claimed + reward)
      (refund : s.ledger.transfer globalPool.rewardCurrency
        (.palletSubAccount liqPool.id) (.palletSubAccount globalPool.id) unclaimable =
          some refunded)
      (kept : ∀ currency, refunded.free (.palletSubAccount liqPool.id) currency ≤
        t.ledger.free (.palletSubAccount liqPool.id) currency)
      (steady : Steady globalPool globalPool' 0)
      (deposits : t.depositData = s.depositData.erase nftId) :
      PoolChange cfg s t slot globalPool globalPool' liqPool (.leave nftId)
        { liqPool with
          totalShares := liqPool.totalShares - deposit.shares
          totalValuedShares := liqPool.totalValuedShares - deposit.valuedShares
          stakeInGlobalPool := liqPool.stakeInGlobalPool - stake }

section Changes

variable {cfg : Config} {s t : State} {kind : MoveKind} {slot : Slot}
variable {globalPool globalPool' : GlobalPool} {liqPool liqPool' : LiquidityPoolYieldFarm}

/-- A pool that stays keeps its id. -/
theorem PoolChange.id
    (change : PoolChange cfg s t slot globalPool globalPool' liqPool kind liqPool') :
    liqPool'.id = liqPool.id := by
  cases change <;> rfl

theorem SameTerms.refl (globalPool : GlobalPool) : SameTerms globalPool globalPool :=
  ⟨rfl, rfl, rfl, rfl⟩

theorem Steady.refl (globalPool : GlobalPool) : Steady globalPool globalPool 0 :=
  ⟨rfl, rfl, rfl⟩

/-- A pool of `t` was there in `s` and went through a change. -/
def Changed (cfg : Config) (s t : State) (kind : MoveKind) (slot : Slot)
    (globalPool' : GlobalPool) (liqPool' : LiquidityPoolYieldFarm) : Prop :=
  ∃ globalPool liqPool, s.globalPoolData.lookup slot.1 = some globalPool ∧
    s.liquidityPoolData.lookup slot = some liqPool ∧ SameTerms globalPool globalPool' ∧
    PoolChange cfg s t slot globalPool globalPool' liqPool kind liqPool'

/-- A farm that is rewritten without accruing. -/
theorem farm_aside {farmId reward other : ℕ} {before after : GlobalPool}
    (farm : t.globalPoolData.lookup other = some globalPool')
    (farms : t.globalPoolData = s.globalPoolData.insert farmId after)
    (stored : s.globalPoolData.lookup farmId = some before)
    (terms : SameTerms before after) (steady : Steady before after reward) :
    ∃ globalPool reward, s.globalPoolData.lookup other = some globalPool ∧
      SameTerms globalPool globalPool' ∧ Steady globalPool globalPool' reward := by
  rw [farms, AList.lookup_insert_eq_ite] at farm
  split_ifs at farm with same
  · obtain rfl := Option.some.inj farm
    exact ⟨before, reward, same ▸ stored, terms, steady⟩
  · exact ⟨globalPool', 0, farm, .refl _, .refl _⟩

/-- The move is about other pools. -/
theorem changed_aside (untouched : kind.slot cfg s ≠ some slot)
    (aside : ∃ globalPool reward, s.globalPoolData.lookup slot.1 = some globalPool ∧
      SameTerms globalPool globalPool' ∧ Steady globalPool globalPool' reward)
    (pool : s.liquidityPoolData.lookup slot = some liqPool)
    (members : SameMembers liqPool.id s.depositData t.depositData) :
    Changed cfg s t kind slot globalPool' liqPool := by
  obtain ⟨globalPool, reward, farm, terms, steady⟩ := aside
  exact ⟨globalPool, liqPool, farm, pool, terms, .idle untouched steady members⟩

/-- A move that rewrites one pool and its farm. -/
theorem changed_put {touched : Slot} {before after : GlobalPool}
    {old new : LiquidityPoolYieldFarm} {reward : ℕ}
    (farms : t.globalPoolData = s.globalPoolData.insert touched.1 after)
    (pools : t.liquidityPoolData = s.liquidityPoolData.insert touched new)
    (stored : s.globalPoolData.lookup touched.1 = some before)
    (held : s.liquidityPoolData.lookup touched = some old)
    (place : kind.slot cfg s = some touched)
    (terms : SameTerms before after) (steady : Steady before after reward)
    (members : ∀ slot liqPool, slot ≠ touched →
      s.liquidityPoolData.lookup slot = some liqPool →
      SameMembers liqPool.id s.depositData t.depositData)
    (change : touched = slot → PoolChange cfg s t touched before after old kind new)
    (farm : t.globalPoolData.lookup slot.1 = some globalPool')
    (pool : t.liquidityPoolData.lookup slot = some liqPool') :
    Changed cfg s t kind slot globalPool' liqPool' := by
  have pool := pool
  rw [pools, AList.lookup_insert_eq_ite] at pool
  split_ifs at pool with same
  · subst same
    obtain rfl := Option.some.inj pool
    rw [farms, AList.lookup_insert] at farm
    obtain rfl := Option.some.inj farm
    exact ⟨before, old, stored, held, terms, change rfl⟩
  · refine changed_aside ?_ (farm_aside farm farms stored terms steady) pool
      (members slot liqPool' same pool)
    rw [place, Ne, Option.some.injEq]
    exact fun found => same found.symm

/-- A new pool without deposits. -/
structure JustAdded (s t : State) (kind : MoveKind) (liqPool' : LiquidityPoolYieldFarm) :
    Prop where
  added : ∃ farmId assetPair, kind = .addPool farmId assetPair
  record : ∃ updatedAt loyaltyCurve multiplier,
    liqPool' = .new (s.poolIdSequencer + 1) updatedAt loyaltyCurve multiplier
  deposits : t.depositData = s.depositData

/-- A deposit whose metadata lead elsewhere was not made in the pool. -/
theorem Consistent.foreign (consistent : Consistent cfg s.blockNumber s.toStorage)
    {nftId : ℕ} {metadata : Metadata}
    (known : s.liquidityPoolMetadata.lookup (poolIdOf nftId) = some metadata)
    (elsewhere : metadata.slot cfg ≠ slot)
    (pool : s.liquidityPoolData.lookup slot = some liqPool) :
    poolIdOf nftId ≠ liqPool.id := by
  intro same
  obtain ⟨found, lookup, place⟩ := (consistent.pools _ _ pool).known
  rw [← same, known, Option.some.injEq] at lookup
  subst lookup
  exact elsewhere place

/-- Every pool was just added, or it went through a change. -/
theorem changed_of_move (consistent : Consistent cfg s.blockNumber s.toStorage)
    (own : OwnSlot cfg s slot) (move : Move cfg s kind t)
    (farm : t.globalPoolData.lookup slot.1 = some globalPool')
    (pool : t.liquidityPoolData.lookup slot = some liqPool') :
    JustAdded s t kind liqPool' ∨ Changed cfg s t kind slot globalPool' liqPool' := by
  have unmoved : ∀ {t : State}, t.depositData = s.depositData →
      ∀ liqPoolId, SameMembers liqPoolId s.depositData t.depositData := by
    intro t deposits liqPoolId
    rw [deposits]
    exact .refl _ _
  have apart : ∀ {touched slot : Slot} {old liqPool : LiquidityPoolYieldFarm},
      s.liquidityPoolData.lookup touched = some old → slot ≠ touched →
      s.liquidityPoolData.lookup slot = some liqPool → old.id ≠ liqPool.id := by
    intro touched slot old liqPool stored distinct found same
    exact distinct (consistent.slot_unique found stored same.symm)
  have steadily : ∀ {before after : GlobalPool},
      after.accumulatedRpz = before.accumulatedRpz → after.updatedAt = before.updatedAt →
      after.paidAccumulatedRewards = before.paidAccumulatedRewards → Steady before after 0 :=
    fun rpz updatedAt paid => ⟨rpz, updatedAt, paid⟩
  cases move with
  | @accrue farmId before rewardPerPeriod reward accumulatedRpz stored numbered staked later
      rate capped booked =>
      right
      by_cases same : slot.1 = farmId
      · subst same
        have written : globalPool' = _ :=
          (Option.some.inj ((AList.lookup_insert _).symm.trans farm)).symm
        subst written
        exact ⟨before, liqPool', stored, pool, ⟨rfl, rfl, rfl, rfl⟩,
          .accrue later rate (capped.le.trans (min_le_left _ _)) booked rfl rfl⟩
      · have farm : s.globalPoolData.lookup slot.1 = some globalPool' :=
          (AList.lookup_insert_ne same).symm.trans farm
        exact changed_aside nofun ⟨_, 0, farm, .refl _, .refl _⟩ pool (unmoved rfl _)
  | collect stored held active stale valued behind earned covered booked moved =>
      exact .inr (changed_put rfl rfl stored held rfl ⟨rfl, rfl, rfl, rfl⟩ ⟨rfl, rfl, rfl⟩
        (fun _ _ _ _ => unmoved rfl _)
        (fun _ => .collect earned booked moved ⟨rfl, rfl, rfl⟩ rfl) farm pool)
  | forfeit stored held =>
      exact .inr (changed_put rfl rfl stored held rfl ⟨rfl, rfl, rfl, rfl⟩ ⟨rfl, rfl, rfl⟩
        (fun _ _ _ _ => unmoved rfl _) (fun _ => .forfeit ⟨rfl, rfl, rfl⟩ rfl) farm pool)
  | update stored held active weighed =>
      exact .inr (changed_put rfl rfl stored held rfl ⟨rfl, rfl, rfl, rfl⟩
        (steadily rfl rfl rfl)
        (fun _ _ _ _ => unmoved rfl _) (fun _ => .update weighed ⟨rfl, rfl, rfl⟩ rfl) farm pool)
  | cancel stored held =>
      exact .inr (changed_put rfl rfl stored held rfl ⟨rfl, rfl, rfl, rfl⟩
        (steadily rfl rfl rfl)
        (fun _ _ _ _ => unmoved rfl _) (fun _ => .cancel ⟨rfl, rfl, rfl⟩ rfl) farm pool)
  | resume stored held idle weighed =>
      exact .inr (changed_put rfl rfl stored held rfl ⟨rfl, rfl, rfl, rfl⟩
        (steadily rfl rfl rfl)
        (fun _ _ _ _ => unmoved rfl _) (fun _ => .resume weighed ⟨rfl, rfl, rfl⟩ rfl) farm pool)
  | @enter touched before old key amount valuedShares stake assetPair metadata ledger nft
      stored held active account nonzero valued weighed locked numbered sequenced minted
      known =>
      have word := consistent.liqPoolId_lt known
      have fresh := consistent.nftId_fresh word sequenced
      have mine := poolIdOf_encodeNftId word (s.nftInstanceSequencer + 1)
      refine .inr (changed_put rfl rfl stored held rfl ⟨rfl, rfl, rfl, rfl⟩
        (steadily rfl rfl rfl)
        ?_ (fun _ => .enter mine fresh weighed active ⟨rfl, rfl, rfl⟩ rfl) farm pool)
      intro other liqPool distinct found
      refine sameMembers_insert ?_ _
      rw [mine]
      exact apart held distinct found
  | pay reports known recorded stored held entered unpaid loyal priced moved =>
      refine .inr (changed_put rfl rfl stored held ?_ ⟨rfl, rfl, rfl, rfl⟩
        (steadily rfl rfl rfl) ?_ ?_ farm pool)
      · simp only [MoveKind.slot, known, Option.map_some]
      · intro other liqPool distinct found
        exact sameMembers_insert (consistent.foreign known distinct.symm found) _
      · intro place
        have mine := own _ _ _ known place (place ▸ held)
        exact .pay mine.symm recorded loyal priced moved ⟨rfl, rfl, rfl⟩ rfl
  | @leave nftId _ _ _ metadata before old deposit refunded ledger nft reports known recorded
      stored held shares valuedShares released heldStake heldFarm leftover refund returned =>
      have untouched : ∀ currency, refunded.free (.palletSubAccount old.id) currency ≤
          ledger.free (.palletSubAccount old.id) currency :=
        fun currency => free_le_returned returned (AccountId.noConfusion ·) currency
      refine .inr (changed_put rfl rfl stored held ?_ ⟨rfl, rfl, rfl, rfl⟩
        (steadily rfl rfl rfl) ?_ ?_ farm pool)
      · simp only [MoveKind.slot, known, Option.map_some]
      · intro other liqPool distinct found
        exact sameMembers_erase (consistent.foreign known distinct.symm found) recorded
      · intro place
        have mine := own _ _ _ known place (place ▸ held)
        exact .leave mine.symm recorded released leftover refund untouched ⟨rfl, rfl, rfl⟩ rfl
  | @depart nftId _ metadata _ _ _ reports known recorded vacant =>
      refine .inr (changed_aside nofun ⟨_, 0, farm, .refl _, .refl _⟩ pool ?_)
      refine sameMembers_erase (consistent.foreign known ?_ pool) recorded
      intro place
      rw [place] at vacant
      exact absurd (vacant.symm.trans pool) nofun
  | createFarm =>
      have old : slot.1 ≠ s.poolIdSequencer + 1 :=
        consistent.no_pools consistent.id_fresh.1 pool
      have farm : s.globalPoolData.lookup slot.1 = some globalPool' :=
        (AList.lookup_insert_ne old).symm.trans farm
      exact .inr (changed_aside nofun ⟨_, 0, farm, .refl _, .refl _⟩ pool (unmoved rfl _))
  | destroyFarm =>
      change (s.globalPoolData.erase _).lookup _ = _ at farm
      rw [AList.lookup_erase_eq_ite] at farm
      split_ifs at farm
      exact .inr (changed_aside nofun ⟨_, 0, farm, .refl _, .refl _⟩ pool (unmoved rfl _))
  | drain =>
      exact .inr (changed_aside nofun ⟨_, 0, farm, .refl _, .refl _⟩ pool (unmoved rfl _))
  | @addPool farmId before assetPair loyaltyCurve multiplier stored same curve vacant =>
      change (s.liquidityPoolData.insert _ _).lookup _ = _ at pool
      rw [AList.lookup_insert_eq_ite] at pool
      split_ifs at pool with new
      · obtain rfl := Option.some.inj pool
        exact .inl ⟨⟨farmId, assetPair, rfl⟩, ⟨_, _, _, rfl⟩, rfl⟩
      · refine .inr (changed_aside ?_ (farm_aside farm rfl stored ⟨rfl, rfl, rfl, rfl⟩
          (steadily rfl rfl rfl)) pool (unmoved rfl _))
        rw [MoveKind.slot, Ne, Option.some.injEq]
        exact fun found => new found.symm
  | removePool who assetPair stored held =>
      change (s.liquidityPoolData.erase _).lookup _ = _ at pool
      rw [AList.lookup_erase_eq_ite] at pool
      split_ifs at pool with gone
      refine .inr (changed_aside ?_ (farm_aside farm rfl stored ⟨rfl, rfl, rfl, rfl⟩
        (steadily rfl rfl rfl)) pool (unmoved rfl _))
      rw [MoveKind.slot, Ne, Option.some.injEq]
      exact fun found => gone found.symm
  | external =>
      exact .inr (changed_aside nofun ⟨_, 0, farm, .refl _, .refl _⟩ pool (unmoved rfl _))

end Changes

/-- What a pool's record sums up about its deposits. -/
structure PoolTallied (liqPool : LiquidityPoolYieldFarm)
    (deposits : AList fun _ : ℕ => Deposit) : Prop where
  shares : tally liqPool.id Deposit.shares deposits = liqPool.totalShares
  valuedShares : tally liqPool.id Deposit.valuedShares deposits = liqPool.totalValuedShares
  behind : ∀ nftId deposit, deposits.lookup nftId = some deposit →
    poolIdOf nftId = liqPool.id → deposit.accumulatedRpvs ≤ liqPool.accumulatedRpvs
  staked : liqPool.canceled = false →
    tally liqPool.id (fun deposit => FixedU128.mulInt liqPool.multiplier deposit.valuedShares)
      deposits ≤ liqPool.stakeInGlobalPool

section Tallied

variable {liqPool : LiquidityPoolYieldFarm} {deposits : AList fun _ : ℕ => Deposit} {nftId : ℕ}
variable {deposit : Deposit}

theorem PoolTallied.shares_le (tallied : PoolTallied liqPool deposits)
    (recorded : deposits.lookup nftId = some deposit) (own : poolIdOf nftId = liqPool.id) :
    deposit.shares ≤ liqPool.totalShares := by
  rw [← tallied.shares]
  exact weight_le_tally recorded own Deposit.shares

theorem PoolTallied.valuedShares_le (tallied : PoolTallied liqPool deposits)
    (recorded : deposits.lookup nftId = some deposit) (own : poolIdOf nftId = liqPool.id) :
    deposit.valuedShares ≤ liqPool.totalValuedShares := by
  rw [← tallied.valuedShares]
  exact weight_le_tally recorded own Deposit.valuedShares

theorem PoolTallied.weight_le (tallied : PoolTallied liqPool deposits)
    (recorded : deposits.lookup nftId = some deposit) (own : poolIdOf nftId = liqPool.id)
    (active : liqPool.canceled = false) :
    FixedU128.mulInt liqPool.multiplier deposit.valuedShares ≤ liqPool.stakeInGlobalPool :=
  (weight_le_tally recorded own fun deposit =>
    FixedU128.mulInt liqPool.multiplier deposit.valuedShares).trans (tallied.staked active)

end Tallied

/-- Every pool's record agrees with its deposits. -/
def Tallied (s : State) : Prop :=
  ∀ slot liqPool, s.liquidityPoolData.lookup slot = some liqPool →
    PoolTallied liqPool s.depositData

/-- What a deposit earned since it entered, before its loyalty is taken into
account. -/
def earned (liqPool : LiquidityPoolYieldFarm) (deposit : Deposit) : ℕ :=
  Share.entitlement liqPool.accumulatedRpvs ⟨deposit.valuedShares, deposit.accumulatedRpvs⟩

section Tallies

variable {cfg : Config} {s t : State} {kind : MoveKind} {slot : Slot}
variable {globalPool globalPool' : GlobalPool} {liqPool liqPool' : LiquidityPoolYieldFarm}
variable {deposits : AList fun _ : ℕ => Deposit}

/-- Deposits earn only when rewards per valued share are booked. -/
theorem earned_congr (rpvs : liqPool'.accumulatedRpvs = liqPool.accumulatedRpvs) :
    earned liqPool' = earned liqPool := by
  funext deposit
  unfold earned
  rw [rpvs]

/-- Weighing deposits one by one loses no less than weighing them together. -/
theorem tally_mulInt_le (multiplier liqPoolId : ℕ) (deposits : AList fun _ : ℕ => Deposit) :
    tally liqPoolId (fun deposit => FixedU128.mulInt multiplier deposit.valuedShares) deposits ≤
      FixedU128.mulInt multiplier (tally liqPoolId Deposit.valuedShares deposits) := by
  unfold tally AList.total
  induction deposits.entries with
  | nil => exact Nat.zero_le _
  | cons entry entries ih =>
      rw [List.map_cons, List.sum_cons, List.map_cons, List.sum_cons]
      refine le_trans ?_ (FixedU128.mulInt_add_le _ _ _)
      refine Nat.add_le_add ?_ ih
      dsimp only
      split_ifs
      · exact le_rfl
      · exact Nat.zero_le _

/-- No deposit was made in a pool that was just added. -/
theorem JustAdded.no_deposits (added : JustAdded s t kind liqPool')
    (consistent : Consistent cfg s.blockNumber s.toStorage) {nftId : ℕ} {deposit : Deposit}
    (recorded : t.depositData.lookup nftId = some deposit) : poolIdOf nftId ≠ liqPool'.id := by
  rw [added.deposits] at recorded
  have numbered := consistent.poolIdOf_le recorded
  obtain ⟨_, _, _, rfl⟩ := added.record
  exact (Nat.lt_succ_of_le numbered).ne

theorem JustAdded.tallied (added : JustAdded s t kind liqPool')
    (consistent : Consistent cfg s.blockNumber s.toStorage) :
    PoolTallied liqPool' t.depositData := by
  have empty : ∀ weight, tally liqPool'.id weight t.depositData = 0 :=
    fun weight => tally_eq_zero fun _ _ recorded => added.no_deposits consistent recorded
  refine ⟨?_, ?_, ?_, ?_⟩
  · rw [empty]
    obtain ⟨_, _, _, rfl⟩ := added.record
    rfl
  · rw [empty]
    obtain ⟨_, _, _, rfl⟩ := added.record
    rfl
  · intro nftId deposit recorded own
    exact absurd own (added.no_deposits consistent recorded)
  · intro _
    rw [empty]
    exact Nat.zero_le _

/-- Every change of a pool keeps its record in agreement with its deposits. -/
theorem PoolTallied.change (lawful : cfg.math.Lawful)
    (tallied : PoolTallied liqPool s.depositData)
    (change : PoolChange cfg s t slot globalPool globalPool' liqPool kind liqPool') :
    PoolTallied liqPool' t.depositData := by
  obtain ⟨shares, valuedShares, behind, staked⟩ := tallied
  cases change with
  | idle untouched steady members =>
      refine ⟨?_, ?_, ?_, ?_⟩
      · rw [members.tally, shares]
      · rw [members.tally, valuedShares]
      · intro nftId deposit recorded own
        rw [members.lookup nftId own] at recorded
        exact behind nftId deposit recorded own
      · intro active
        rw [members.tally]
        exact staked active
  | accrue later rate capped booked farm' deposits =>
      rw [deposits]
      exact ⟨shares, valuedShares, behind, staked⟩
  | collect earned booked moved steady deposits =>
      rw [deposits]
      refine ⟨shares, valuedShares, ?_, staked⟩
      intro nftId deposit recorded own
      have grown := booked.le_div lawful.accumulatedRps
      exact (behind nftId deposit recorded own).trans
        ((Nat.le_add_right _ _).trans grown.ge)
  | forfeit steady deposits =>
      rw [deposits]
      exact ⟨shares, valuedShares, behind, staked⟩
  | update weighed steady deposits =>
      rw [deposits]
      refine ⟨shares, valuedShares, behind, fun _ => ?_⟩
      rw [lawful.globalPoolShares weighed, ← valuedShares]
      exact tally_mulInt_le _ _ _
  | cancel steady deposits =>
      rw [deposits]
      exact ⟨shares, valuedShares, behind, nofun⟩
  | resume weighed steady deposits =>
      rw [deposits]
      refine ⟨shares, valuedShares, behind, fun _ => ?_⟩
      rw [lawful.globalPoolShares weighed, ← valuedShares]
      exact tally_mulInt_le _ _ _
  | enter own fresh weighed active steady deposits =>
      rw [deposits]
      refine ⟨?_, ?_, ?_, fun _ => ?_⟩
      · rw [tally_insert_of_none fresh own, shares]
        rfl
      · rw [tally_insert_of_none fresh own, valuedShares]
        rfl
      · refine AList.forall_lookup_insert (fun _ => le_rfl) ?_
        intro nftId deposit _ recorded
        exact behind nftId deposit recorded
      · rw [tally_insert_of_none fresh own, lawful.globalPoolShares weighed]
        exact Nat.add_le_add_right (staked active) _
  | @pay nftId _ _ _ _ deposit own recorded loyal priced moved steady deposits =>
      rw [deposits]
      refine ⟨?_, ?_, ?_, fun active => ?_⟩
      · exact (tally_rewrite recorded own _ (by rfl)).trans shares
      · exact (tally_rewrite recorded own _ (by rfl)).trans valuedShares
      · refine AList.forall_lookup_insert (fun _ => behind nftId deposit recorded own) ?_
        intro other otherDeposit _ stored
        exact behind other otherDeposit stored
      · exact (tally_rewrite recorded own _ (by rfl)).trans_le (staked active)
  | leave own recorded released leftover refund kept steady deposits =>
      rw [deposits]
      refine ⟨?_, ?_, ?_, fun active => ?_⟩
      · have erased := tally_erase recorded own Deposit.shares
        dsimp only
        omega
      · have erased := tally_erase recorded own Deposit.valuedShares
        dsimp only
        omega
      · refine AList.forall_lookup_erase ?_
        intro other otherDeposit _ stored
        exact behind other otherDeposit stored
      · have active : liqPool.canceled = false := active
        have erased := tally_erase recorded own fun deposit =>
          FixedU128.mulInt liqPool.multiplier deposit.valuedShares
        obtain ⟨canceled, -⟩ | ⟨-, weighed⟩ := released
        · exact absurd (active.symm.trans canceled) nofun
        · have held := staked active
          have weight := lawful.globalPoolShares weighed
          dsimp only at erased ⊢
          omega

theorem Tallied.move (lawful : cfg.math.Lawful) (tallied : Tallied s)
    (consistent : Consistent cfg s.blockNumber s.toStorage) (own : OwnSlots cfg s)
    (move : Move cfg s kind t) : Tallied t := by
  intro slot liqPool' pool
  obtain ⟨globalPool', farm⟩ := ((consistent.move move).pools _ _ pool).farm
  obtain added | ⟨globalPool, liqPool, -, before, -, change⟩ :=
    changed_of_move consistent (own.at slot) move farm pool
  · exact added.tallied consistent
  · exact (tallied _ _ before).change lawful change

/-- The invariants of a run in which slots are not reused. -/
structure Kept (cfg : Config) (s : State) : Prop where
  consistent : Consistent cfg s.blockNumber s.toStorage
  own : OwnSlots cfg s
  tallied : Tallied s

theorem Initial.kept (initial : Initial cfg s) : Kept cfg s := by
  refine ⟨initial.consistent, ?_, ?_⟩
  · intro liqPoolId metadata liqPool known
    rw [initial.liquidityPoolMetadata] at known
    exact absurd known nofun
  · intro slot liqPool pool
    rw [initial.liquidityPoolData] at pool
    exact absurd pool nofun

theorem Kept.move (lawful : cfg.math.Lawful) (kept : Kept cfg s) (move : Move cfg s kind t)
    (unused : Rule.unusedSlot.AllowsMove cfg s kind) : Kept cfg t :=
  ⟨kept.consistent.move move, kept.own.move move unused,
    kept.tallied.move lawful kept.consistent kept.own move⟩

theorem kept_of_moves (lawful : cfg.math.Lawful)
    (reachable : ReachableUnder (Initial cfg) (Move cfg) (MoveObeys cfg [.unusedSlot]) s) :
    Kept cfg s := by
  apply ReachableUnder.invariant (Kept cfg) _ _ reachable
  · intro s initial
    exact initial.kept
  · intro s kind t kept obeyed move
    exact kept.move lawful move (obeyed _ (by decide))

end Tallies

end Basilisk.LiquidityMining
