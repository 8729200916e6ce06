/-
# Consistent storage

The relations between the pallet's storage maps that hold after every move,
whatever the rest of the chain does: ids come from one sequencer, a pool has its
farm and its metadata, a deposit has its metadata, and the counters of farms and
metadata are the counts they stand for.
-/

import Basilisk.LiquidityMining.Moves

namespace Basilisk.LiquidityMining

open Basilisk.Math

/-- The stakes of all liquidity pools of a farm. -/
def stakesOf (farmId : ℕ) (pools : AList fun _ : Slot => LiquidityPoolYieldFarm) : ℕ :=
  pools.total fun slot liqPool =>
    if slot.1 = farmId then liqPool.stakeInGlobalPool else 0

/-- The number of liquidity pools of a farm. -/
def poolsOf (farmId : ℕ) (pools : AList fun _ : Slot => LiquidityPoolYieldFarm) : ℕ :=
  pools.total fun slot _ => if slot.1 = farmId then 1 else 0

/-- The number of deposits made in a liquidity pool. -/
def depositsOf (liqPoolId : ℕ) (deposits : AList fun _ : ℕ => Deposit) : ℕ :=
  deposits.total fun nftId _ => if poolIdOf nftId = liqPoolId then 1 else 0

structure FarmConsistent (block : ℕ) (σ : Storage) (farmId : ℕ)
    (globalPool : GlobalPool) : Prop where
  id : globalPool.id = farmId
  positive : 0 < farmId
  numbered : farmId ≤ σ.poolIdSequencer
  proper : globalPool.blocksPerPeriod ≠ 0
  updated : globalPool.updatedAt ≤ block / globalPool.blocksPerPeriod
  counted : globalPool.liqPoolsCount = poolsOf farmId σ.liquidityPoolData
  staked : globalPool.totalSharesZ = stakesOf farmId σ.liquidityPoolData

structure PoolConsistent (cfg : Config) (σ : Storage) (slot : Slot)
    (liqPool : LiquidityPoolYieldFarm) : Prop where
  farm : ∃ globalPool, σ.globalPoolData.lookup slot.1 = some globalPool
  known : ∃ metadata, σ.liquidityPoolMetadata.lookup liqPool.id = some metadata ∧
    metadata.slot cfg = slot
  idle : liqPool.canceled = true → liqPool.stakeInGlobalPool = 0
  curve : ∀ curve ∈ liqPool.loyaltyCurve, curve.initialRewardPercentage < FixedU128.one

structure MetadataConsistent (σ : Storage) (liqPoolId : ℕ) (metadata : Metadata) :
    Prop where
  positive : 0 < liqPoolId
  numbered : liqPoolId ≤ σ.poolIdSequencer
  farmNumbered : metadata.farmId ≤ σ.poolIdSequencer
  notFarm : σ.globalPoolData.lookup liqPoolId = none
  counted : metadata.nftsCount = depositsOf liqPoolId σ.depositData

structure DepositConsistent (block : ℕ) (σ : Storage) (nftId : ℕ) (deposit : Deposit) :
    Prop where
  sequenced : nftId / 2 ^ 32 ≤ σ.nftInstanceSequencer
  valid : 4294967296 < nftId
  nonzero : deposit.shares ≠ 0
  ordered : deposit.enteredAt ≤ deposit.updatedAt
  known : ∃ metadata, σ.liquidityPoolMetadata.lookup (poolIdOf nftId) = some metadata ∧
    ∀ globalPool, σ.globalPoolData.lookup metadata.farmId = some globalPool →
      deposit.updatedAt ≤ block / globalPool.blocksPerPeriod

/-- The storage maps fit together. -/
structure Consistent (cfg : Config) (block : ℕ) (σ : Storage) : Prop where
  sequencer : σ.poolIdSequencer < u32Bound
  farms : ∀ farmId globalPool, σ.globalPoolData.lookup farmId = some globalPool →
    FarmConsistent block σ farmId globalPool
  pools : ∀ slot liqPool, σ.liquidityPoolData.lookup slot = some liqPool →
    PoolConsistent cfg σ slot liqPool
  metadata : ∀ liqPoolId metadata,
    σ.liquidityPoolMetadata.lookup liqPoolId = some metadata →
    MetadataConsistent σ liqPoolId metadata
  deposits : ∀ nftId deposit, σ.depositData.lookup nftId = some deposit →
    DepositConsistent block σ nftId deposit

section Totals

variable {pools : AList fun _ : Slot => LiquidityPoolYieldFarm} {slot : Slot}
variable {liqPool : LiquidityPoolYieldFarm}

/-- Rewriting a pool moves the stake of its farm by the change of its own. -/
theorem stakesOf_insert (pool : pools.lookup slot = some liqPool)
    (liqPool' : LiquidityPoolYieldFarm) (farmId : ℕ) :
    stakesOf farmId (pools.insert slot liqPool') +
        (if slot.1 = farmId then liqPool.stakeInGlobalPool else 0) =
      stakesOf farmId pools +
        (if slot.1 = farmId then liqPool'.stakeInGlobalPool else 0) :=
  AList.total_insert_add (fun (slot : Slot) (liqPool : LiquidityPoolYieldFarm) =>
    if slot.1 = farmId then liqPool.stakeInGlobalPool else 0) pool liqPool'

/-- Rewriting a pool adds and removes none. -/
theorem poolsOf_insert (pool : pools.lookup slot = some liqPool)
    (liqPool' : LiquidityPoolYieldFarm) (farmId : ℕ) :
    poolsOf farmId (pools.insert slot liqPool') = poolsOf farmId pools :=
  Nat.add_right_cancel (AList.total_insert_add
    (fun (slot : Slot) (_ : LiquidityPoolYieldFarm) => if slot.1 = farmId then 1 else 0)
    pool liqPool')

end Totals

section Writes

variable {cfg : Config} {block : ℕ} {σ τ : Storage}

/-- A farm depends on the count and the stakes of its pools only. -/
theorem FarmConsistent.mono {farmId : ℕ} {globalPool : GlobalPool}
    (kept : FarmConsistent block σ farmId globalPool)
    (given : σ.poolIdSequencer ≤ τ.poolIdSequencer)
    (counted : poolsOf farmId τ.liquidityPoolData = poolsOf farmId σ.liquidityPoolData)
    (staked : stakesOf farmId τ.liquidityPoolData = stakesOf farmId σ.liquidityPoolData) :
    FarmConsistent block τ farmId globalPool where
  id := kept.id
  positive := kept.positive
  numbered := kept.numbered.trans given
  proper := kept.proper
  updated := kept.updated
  counted := kept.counted.trans counted.symm
  staked := kept.staked.trans staked.symm

/-- Metadata depends on the deposits of its pool only, as long as no farm takes its id. -/
theorem MetadataConsistent.mono {liqPoolId : ℕ} {metadata : Metadata}
    (kept : MetadataConsistent σ liqPoolId metadata)
    (given : σ.poolIdSequencer ≤ τ.poolIdSequencer)
    (notFarm : τ.globalPoolData.lookup liqPoolId = none)
    (counted : depositsOf liqPoolId τ.depositData = depositsOf liqPoolId σ.depositData) :
    MetadataConsistent τ liqPoolId metadata where
  positive := kept.positive
  numbered := kept.numbered.trans given
  farmNumbered := kept.farmNumbered.trans given
  notFarm := notFarm
  counted := kept.counted.trans counted.symm

/-- A pool depends on its farm being there and on its own metadata only. -/
theorem PoolConsistent.mono {slot : Slot} {liqPool : LiquidityPoolYieldFarm}
    (kept : PoolConsistent cfg σ slot liqPool)
    (farm : ∃ globalPool, τ.globalPoolData.lookup slot.1 = some globalPool)
    (known : ∃ metadata, τ.liquidityPoolMetadata.lookup liqPool.id = some metadata ∧
      metadata.slot cfg = slot) :
    PoolConsistent cfg τ slot liqPool where
  farm := farm
  known := known
  idle := kept.idle
  curve := kept.curve

/-- A deposit depends on the metadata of its pool and the periods of its farm only. -/
theorem DepositConsistent.mono {block' nftId : ℕ} {deposit : Deposit}
    (kept : DepositConsistent block σ nftId deposit)
    (given : σ.nftInstanceSequencer ≤ τ.nftInstanceSequencer)
    (known : ∃ metadata, τ.liquidityPoolMetadata.lookup (poolIdOf nftId) = some metadata ∧
      ∀ globalPool, τ.globalPoolData.lookup metadata.farmId = some globalPool →
        deposit.updatedAt ≤ block' / globalPool.blocksPerPeriod) :
    DepositConsistent block' τ nftId deposit where
  sequenced := kept.sequenced.trans given
  valid := kept.valid
  nonzero := kept.nonzero
  ordered := kept.ordered
  known := known

/-- Rewriting a farm removes none. -/
theorem farm_insert {farms : AList fun _ : ℕ => GlobalPool} (farmId : ℕ)
    (globalPool : GlobalPool) {other : ℕ}
    (present : ∃ found, farms.lookup other = some found) :
    ∃ found, (farms.insert farmId globalPool).lookup other = some found := by
  rw [AList.lookup_insert_eq_ite]
  split_ifs
  · exact ⟨_, rfl⟩
  · exact present

/-- Rewriting a farm without changing its periods leaves its deposits in the
past. -/
theorem DepositConsistent.setGlobalPool {farmId nftId : ℕ} {deposit : Deposit}
    {globalPool : GlobalPool} (kept : DepositConsistent block σ nftId deposit)
    (globalPool' : GlobalPool)
    (farm : σ.globalPoolData.lookup farmId = some globalPool)
    (periods : globalPool'.blocksPerPeriod = globalPool.blocksPerPeriod) :
    ∃ metadata, σ.liquidityPoolMetadata.lookup (poolIdOf nftId) = some metadata ∧
      ∀ found, (σ.globalPoolData.insert farmId globalPool').lookup metadata.farmId =
        some found → deposit.updatedAt ≤ block / found.blocksPerPeriod := by
  obtain ⟨metadata, known, bounded⟩ := kept.known
  refine ⟨metadata, known, ?_⟩
  intro found stored
  rw [AList.lookup_insert_eq_ite] at stored
  split_ifs at stored with same
  · obtain rfl := Option.some.inj stored
    rw [periods]
    exact bounded globalPool (same ▸ farm)
  · exact bounded found stored

/-- A farm may be rewritten if it keeps its identity, its periods and its
counters. -/
theorem Consistent.setGlobalPool (consistent : Consistent cfg block σ) {farmId : ℕ}
    {globalPool globalPool' : GlobalPool}
    (farm : σ.globalPoolData.lookup farmId = some globalPool)
    (id : globalPool'.id = globalPool.id)
    (periods : globalPool'.blocksPerPeriod = globalPool.blocksPerPeriod)
    (updated : globalPool'.updatedAt ≤ block / globalPool.blocksPerPeriod)
    (counted : globalPool'.liqPoolsCount = globalPool.liqPoolsCount)
    (staked : globalPool'.totalSharesZ = globalPool.totalSharesZ) :
    Consistent cfg block
      { σ with globalPoolData := σ.globalPoolData.insert farmId globalPool' } := by
  have before := consistent.farms _ _ farm
  refine ⟨consistent.sequencer, ?_, ?_, ?_, ?_⟩
  · refine AList.forall_lookup_insert ?_ ?_
    · exact ⟨id.trans before.id, before.positive, before.numbered,
        periods ▸ before.proper, periods ▸ updated, counted.trans before.counted,
        staked.trans before.staked⟩
    · intro other otherPool _ stored
      exact (consistent.farms _ _ stored).mono le_rfl rfl rfl
  · intro slot liqPool stored
    have kept := consistent.pools _ _ stored
    exact kept.mono (farm_insert _ _ kept.farm) kept.known
  · intro liqPoolId metadata stored
    have kept := consistent.metadata _ _ stored
    exact kept.mono le_rfl (AList.lookup_insert_of_absent farm kept.notFarm) rfl
  · intro nftId deposit stored
    have kept := consistent.deposits _ _ stored
    exact kept.mono le_rfl (kept.setGlobalPool _ farm periods)

/-- A pool and its farm may be rewritten together if the stake of the farm follows
the stake of the pool. -/
theorem Consistent.put (consistent : Consistent cfg block σ) {slot : Slot}
    {globalPool globalPool' : GlobalPool} {liqPool liqPool' : LiquidityPoolYieldFarm}
    (farm : σ.globalPoolData.lookup slot.1 = some globalPool)
    (pool : σ.liquidityPoolData.lookup slot = some liqPool)
    (id : globalPool'.id = globalPool.id)
    (periods : globalPool'.blocksPerPeriod = globalPool.blocksPerPeriod)
    (updated : globalPool'.updatedAt = globalPool.updatedAt)
    (counted : globalPool'.liqPoolsCount = globalPool.liqPoolsCount)
    (staked : globalPool'.totalSharesZ + liqPool.stakeInGlobalPool =
      globalPool.totalSharesZ + liqPool'.stakeInGlobalPool)
    (poolId : liqPool'.id = liqPool.id)
    (idle : liqPool'.canceled = true → liqPool'.stakeInGlobalPool = 0)
    (curve : liqPool'.loyaltyCurve = liqPool.loyaltyCurve) :
    Consistent cfg block
      { σ with
        globalPoolData := σ.globalPoolData.insert slot.1 globalPool'
        liquidityPoolData := σ.liquidityPoolData.insert slot liqPool' } := by
  have before := consistent.farms _ _ farm
  have old := consistent.pools _ _ pool
  have stakes := stakesOf_insert pool liqPool'
  have pools := poolsOf_insert pool liqPool'
  refine ⟨consistent.sequencer, ?_, ?_, ?_, ?_⟩
  · refine AList.forall_lookup_insert ?_ ?_
    · refine ⟨id.trans before.id, before.positive, before.numbered,
        periods ▸ before.proper, ?_, ?_, ?_⟩
      · rw [updated, periods]
        exact before.updated
      · rw [counted, before.counted, pools]
      · have moved := stakes slot.1
        have held := before.staked
        simp only [if_true] at moved
        dsimp only
        omega
    · intro other otherPool distinct stored
      have moved := stakes other
      rw [if_neg distinct.symm, if_neg distinct.symm] at moved
      exact (consistent.farms _ _ stored).mono le_rfl (pools other) moved
  · refine AList.forall_lookup_insert ?_ ?_
    · exact ⟨farm_insert _ _ old.farm, poolId ▸ old.known, idle, curve ▸ old.curve⟩
    · intro other otherPool _ stored
      have kept := consistent.pools _ _ stored
      exact kept.mono (farm_insert _ _ kept.farm) kept.known
  · intro liqPoolId metadata stored
    have kept := consistent.metadata _ _ stored
    exact kept.mono le_rfl (AList.lookup_insert_of_absent farm kept.notFarm) rfl
  · intro nftId deposit stored
    have kept := consistent.deposits _ _ stored
    exact kept.mono le_rfl (kept.setGlobalPool _ farm periods)

/-- Metadata may be rewritten for the same slot. -/
theorem known_insert {table : AList fun _ : ℕ => Metadata} {liqPoolId other : ℕ}
    {metadata metadata' : Metadata} {slot : Slot}
    (stored : table.lookup liqPoolId = some metadata)
    (sameSlot : metadata'.slot cfg = metadata.slot cfg)
    (known : ∃ found, table.lookup other = some found ∧ found.slot cfg = slot) :
    ∃ found, (table.insert liqPoolId metadata').lookup other = some found ∧
      found.slot cfg = slot := by
  rw [AList.lookup_insert_eq_ite]
  obtain ⟨found, lookup, leads⟩ := known
  split_ifs with same
  · subst same
    rw [lookup, Option.some.injEq] at stored
    exact ⟨metadata', rfl, sameSlot.trans (stored ▸ leads)⟩
  · exact ⟨found, lookup, leads⟩

/-- Metadata may be rewritten for the same farm. -/
theorem DepositConsistent.setMetadata {liqPoolId nftId : ℕ} {deposit : Deposit}
    {metadata metadata' : Metadata}
    (kept : DepositConsistent block σ nftId deposit)
    (stored : σ.liquidityPoolMetadata.lookup liqPoolId = some metadata)
    (sameFarm : metadata'.farmId = metadata.farmId) :
    ∃ found, (σ.liquidityPoolMetadata.insert liqPoolId metadata').lookup
        (poolIdOf nftId) = some found ∧
      ∀ globalPool, σ.globalPoolData.lookup found.farmId = some globalPool →
        deposit.updatedAt ≤ block / globalPool.blocksPerPeriod := by
  obtain ⟨found, known, bounded⟩ := kept.known
  rw [AList.lookup_insert_eq_ite]
  split_ifs with same
  · rw [same, stored, Option.some.injEq] at known
    refine ⟨metadata', rfl, ?_⟩
    rw [sameFarm, known]
    exact bounded
  · exact ⟨found, known, bounded⟩

/-- Exactly the deposits of one pool are counted for it. -/
theorem depositsOf_insert_of_none {deposits : AList fun _ : ℕ => Deposit}
    {nftId : ℕ} (absent : deposits.lookup nftId = none) (deposit : Deposit)
    (liqPoolId : ℕ) :
    depositsOf liqPoolId (deposits.insert nftId deposit) =
      depositsOf liqPoolId deposits + (if poolIdOf nftId = liqPoolId then 1 else 0) :=
  AList.total_insert_of_none
    (fun nftId (_ : Deposit) => if poolIdOf nftId = liqPoolId then 1 else 0)
    absent deposit

theorem depositsOf_insert {deposits : AList fun _ : ℕ => Deposit} {nftId : ℕ}
    {deposit : Deposit} (stored : deposits.lookup nftId = some deposit)
    (deposit' : Deposit) (liqPoolId : ℕ) :
    depositsOf liqPoolId (deposits.insert nftId deposit') =
      depositsOf liqPoolId deposits :=
  Nat.add_right_cancel (AList.total_insert_add
    (fun nftId (_ : Deposit) => if poolIdOf nftId = liqPoolId then 1 else 0)
    stored deposit')

theorem depositsOf_erase {deposits : AList fun _ : ℕ => Deposit} {nftId : ℕ}
    {deposit : Deposit} (stored : deposits.lookup nftId = some deposit)
    (liqPoolId : ℕ) :
    depositsOf liqPoolId (deposits.erase nftId) +
        (if poolIdOf nftId = liqPoolId then 1 else 0) =
      depositsOf liqPoolId deposits :=
  AList.total_erase_add
    (fun nftId (_ : Deposit) => if poolIdOf nftId = liqPoolId then 1 else 0) stored

/-- A recorded deposit is counted. -/
theorem depositsOf_pos {deposits : AList fun _ : ℕ => Deposit} {nftId : ℕ}
    {deposit : Deposit} (stored : deposits.lookup nftId = some deposit) :
    0 < depositsOf (poolIdOf nftId) deposits := by
  have counted := depositsOf_erase stored (poolIdOf nftId)
  rw [if_pos rfl] at counted
  omega

section NftIds

variable {liqPoolId sequence : ℕ}

theorem poolIdOf_encodeNftId (word : liqPoolId < u32Bound) (sequence : ℕ) :
    poolIdOf (encodeNftId liqPoolId sequence) = liqPoolId := by
  unfold poolIdOf encodeNftId
  rw [Nat.add_mul_mod_self_right]
  exact Nat.mod_eq_of_lt word

theorem encodeNftId_div (word : liqPoolId < u32Bound)
    (bounded : sequence ≤ maxNftInstanceSequencer) :
    encodeNftId liqPoolId sequence / 2 ^ 32 = sequence := by
  have small : liqPoolId / 2 ^ 32 = 0 := Nat.div_eq_of_lt word
  unfold encodeNftId
  rw [Nat.add_mul_div_right _ _ (Nat.two_pow_pos 32), small, Nat.zero_add]
  apply Nat.mod_eq_of_lt
  unfold maxNftInstanceSequencer at bounded
  omega

theorem lt_encodeNftId (word : liqPoolId < u32Bound) (positive : 0 < liqPoolId)
    (bounded : sequence ≤ maxNftInstanceSequencer) (sequenced : 0 < sequence) :
    4294967296 < encodeNftId liqPoolId sequence := by
  have hdiv := encodeNftId_div word bounded
  have hmod := poolIdOf_encodeNftId word sequence
  unfold poolIdOf at hmod
  omega

end NftIds

/-- A numbered pool id fits the low bytes of an NFT id. -/
theorem Consistent.liqPoolId_lt (consistent : Consistent cfg block σ) {liqPoolId : ℕ}
    {metadata : Metadata}
    (known : σ.liquidityPoolMetadata.lookup liqPoolId = some metadata) :
    liqPoolId < u32Bound :=
  lt_of_le_of_lt (consistent.metadata _ _ known).numbered consistent.sequencer

/-- The next NFT id is not in use. -/
theorem Consistent.nftId_fresh (consistent : Consistent cfg block σ) {liqPoolId : ℕ}
    (word : liqPoolId < u32Bound)
    (bounded : σ.nftInstanceSequencer + 1 ≤ maxNftInstanceSequencer) :
    σ.depositData.lookup (encodeNftId liqPoolId (σ.nftInstanceSequencer + 1)) = none := by
  by_contra used
  obtain ⟨deposit, stored⟩ := Option.ne_none_iff_exists'.mp used
  have sequenced := (consistent.deposits _ _ stored).sequenced
  rw [encodeNftId_div word bounded] at sequenced
  omega

/-- A new deposit is recorded and counted. -/
theorem Consistent.addDeposit (consistent : Consistent cfg block σ) (deposit : Deposit)
    {liqPoolId : ℕ} {metadata : Metadata}
    (known : σ.liquidityPoolMetadata.lookup liqPoolId = some metadata)
    (bounded : σ.nftInstanceSequencer + 1 ≤ maxNftInstanceSequencer)
    (nonzero : deposit.shares ≠ 0) (ordered : deposit.enteredAt ≤ deposit.updatedAt)
    (past : ∀ globalPool, σ.globalPoolData.lookup metadata.farmId = some globalPool →
      deposit.updatedAt ≤ block / globalPool.blocksPerPeriod) :
    Consistent cfg block
      { σ with
        nftInstanceSequencer := σ.nftInstanceSequencer + 1
        depositData := σ.depositData.insert
          (encodeNftId liqPoolId (σ.nftInstanceSequencer + 1)) deposit
        liquidityPoolMetadata := σ.liquidityPoolMetadata.insert liqPoolId
          { metadata with nftsCount := metadata.nftsCount + 1 } } := by
  have word := consistent.liqPoolId_lt known
  have own := consistent.metadata _ _ known
  have fresh := consistent.nftId_fresh word bounded
  have counted := depositsOf_insert_of_none fresh deposit
  rw [poolIdOf_encodeNftId word] at counted
  refine ⟨consistent.sequencer, ?_, ?_, ?_, ?_⟩
  · intro farmId globalPool stored
    exact (consistent.farms _ _ stored).mono le_rfl rfl rfl
  · intro slot liqPool stored
    have kept := consistent.pools _ _ stored
    exact kept.mono kept.farm (known_insert known rfl kept.known)
  · refine AList.forall_lookup_insert ?_ ?_
    · refine ⟨own.positive, own.numbered, own.farmNumbered, own.notFarm, ?_⟩
      rw [counted, if_pos rfl, own.counted]
    · intro other otherMetadata distinct stored
      have kept := consistent.metadata _ _ stored
      refine kept.mono le_rfl kept.notFarm ?_
      rw [counted, if_neg distinct.symm, Nat.add_zero]
  · refine AList.forall_lookup_insert ?_ ?_
    · refine ⟨?_, ?_, nonzero, ordered,
        { metadata with nftsCount := metadata.nftsCount + 1 }, ?_, past⟩
      · rw [encodeNftId_div word bounded]
      · exact lt_encodeNftId word own.positive bounded (Nat.succ_pos _)
      · rw [poolIdOf_encodeNftId word, AList.lookup_insert]
    · intro other otherDeposit _ stored
      have kept := consistent.deposits _ _ stored
      exact kept.mono (Nat.le_succ _) (kept.setMetadata known rfl)

/-- A paid deposit is rewritten in the present period. -/
theorem Consistent.setDeposit (consistent : Consistent cfg block σ) {nftId : ℕ}
    (deposit' : Deposit) {deposit : Deposit} {metadata : Metadata}
    {globalPool : GlobalPool}
    (stored : σ.depositData.lookup nftId = some deposit)
    (known : σ.liquidityPoolMetadata.lookup (poolIdOf nftId) = some metadata)
    (farm : σ.globalPoolData.lookup metadata.farmId = some globalPool)
    (shares : deposit'.shares = deposit.shares)
    (ordered : deposit'.enteredAt ≤ deposit'.updatedAt)
    (updated : deposit'.updatedAt = block / globalPool.blocksPerPeriod) :
    Consistent cfg block
      { σ with depositData := σ.depositData.insert nftId deposit' } := by
  have before := consistent.deposits _ _ stored
  have counted := depositsOf_insert stored deposit'
  refine ⟨consistent.sequencer, ?_, ?_, ?_, ?_⟩
  · intro farmId otherPool found
    exact (consistent.farms _ _ found).mono le_rfl rfl rfl
  · intro slot liqPool found
    have kept := consistent.pools _ _ found
    exact kept.mono kept.farm kept.known
  · intro liqPoolId otherMetadata found
    have kept := consistent.metadata _ _ found
    exact kept.mono le_rfl kept.notFarm (counted liqPoolId)
  · refine AList.forall_lookup_insert ?_ ?_
    · refine ⟨before.sequenced, before.valid, shares ▸ before.nonzero, ordered,
        metadata, known, ?_⟩
      intro found lookup
      rw [farm, Option.some.injEq] at lookup
      rw [updated, lookup]
    · intro other otherDeposit _ found
      have kept := consistent.deposits _ _ found
      exact kept.mono le_rfl kept.known

/-- A deposit is taken out of the count of its pool. -/
theorem Consistent.removeDeposit (consistent : Consistent cfg block σ) {nftId : ℕ}
    {deposit : Deposit} {metadata : Metadata}
    (stored : σ.depositData.lookup nftId = some deposit)
    (known : σ.liquidityPoolMetadata.lookup (poolIdOf nftId) = some metadata) :
    Consistent cfg block
      { σ with
        depositData := σ.depositData.erase nftId
        liquidityPoolMetadata := σ.liquidityPoolMetadata.insert (poolIdOf nftId)
          { metadata with nftsCount := metadata.nftsCount - 1 } } := by
  have own := consistent.metadata _ _ known
  have counted := depositsOf_erase stored
  refine ⟨consistent.sequencer, ?_, ?_, ?_, ?_⟩
  · intro farmId globalPool found
    exact (consistent.farms _ _ found).mono le_rfl rfl rfl
  · intro slot liqPool found
    have kept := consistent.pools _ _ found
    exact kept.mono kept.farm (known_insert known rfl kept.known)
  · refine AList.forall_lookup_insert ?_ ?_
    · refine ⟨own.positive, own.numbered, own.farmNumbered, own.notFarm, ?_⟩
      have now := counted (poolIdOf nftId)
      have then_ := own.counted
      rw [if_pos rfl] at now
      dsimp only
      omega
    · intro other otherMetadata distinct found
      have kept := consistent.metadata _ _ found
      have now := counted other
      rw [if_neg distinct.symm, Nat.add_zero] at now
      exact kept.mono le_rfl kept.notFarm now
  · refine AList.forall_lookup_erase ?_
    intro other otherDeposit _ found
    have kept := consistent.deposits _ _ found
    exact kept.mono le_rfl (kept.setMetadata known rfl)

/-- The last deposit of a removed pool goes with the metadata. -/
theorem Consistent.removeLastDeposit (consistent : Consistent cfg block σ) {nftId : ℕ}
    {deposit : Deposit} {metadata : Metadata}
    (stored : σ.depositData.lookup nftId = some deposit)
    (known : σ.liquidityPoolMetadata.lookup (poolIdOf nftId) = some metadata)
    (last : metadata.nftsCount = 1)
    (vacant : σ.liquidityPoolData.lookup (metadata.slot cfg) = none) :
    Consistent cfg block
      { σ with
        depositData := σ.depositData.erase nftId
        liquidityPoolMetadata := σ.liquidityPoolMetadata.erase (poolIdOf nftId) } := by
  have own := consistent.metadata _ _ known
  have counted := depositsOf_erase stored
  refine ⟨consistent.sequencer, ?_, ?_, ?_, ?_⟩
  · intro farmId globalPool found
    exact (consistent.farms _ _ found).mono le_rfl rfl rfl
  · intro slot liqPool found
    have kept := consistent.pools _ _ found
    obtain ⟨other, lookup, leads⟩ := kept.known
    -- a live pool with this id would sit in the vacant slot
    have distinct : liqPool.id ≠ poolIdOf nftId := by
      intro same
      rw [same, known, Option.some.injEq] at lookup
      rw [← leads, ← lookup, vacant] at found
      exact absurd found nofun
    exact kept.mono kept.farm
      ⟨other, (AList.lookup_erase_ne distinct).trans lookup, leads⟩
  · refine AList.forall_lookup_erase ?_
    intro other otherMetadata distinct found
    have kept := consistent.metadata _ _ found
    have now := counted other
    rw [if_neg distinct.symm, Nat.add_zero] at now
    exact kept.mono le_rfl kept.notFarm now
  · intro other otherDeposit found
    have recorded : (σ.depositData.erase nftId).lookup other = some otherDeposit := found
    rw [AList.lookup_erase_eq_ite] at found
    split_ifs at found with same
    have kept := consistent.deposits _ _ found
    obtain ⟨otherMetadata, lookup, past⟩ := kept.known
    -- a second deposit of the pool would have been counted
    have distinct : poolIdOf other ≠ poolIdOf nftId := by
      intro shared
      have still := depositsOf_pos recorded
      have now := counted (poolIdOf nftId)
      have then_ := own.counted
      rw [if_pos rfl] at now
      rw [shared] at still
      omega
    exact kept.mono le_rfl
      ⟨otherMetadata, (AList.lookup_erase_ne distinct).trans lookup, past⟩

/-- The next id belongs to no farm and to no pool. -/
theorem Consistent.id_fresh (consistent : Consistent cfg block σ) :
    σ.globalPoolData.lookup (σ.poolIdSequencer + 1) = none ∧
      σ.liquidityPoolMetadata.lookup (σ.poolIdSequencer + 1) = none := by
  constructor
  · by_contra used
    obtain ⟨globalPool, stored⟩ := Option.ne_none_iff_exists'.mp used
    have numbered := (consistent.farms _ _ stored).numbered
    omega
  · by_contra used
    obtain ⟨metadata, stored⟩ := Option.ne_none_iff_exists'.mp used
    have numbered := (consistent.metadata _ _ stored).numbered
    omega

/-- A farm that is not recorded has no pools. -/
theorem Consistent.no_pools (consistent : Consistent cfg block σ) {farmId : ℕ}
    (absent : σ.globalPoolData.lookup farmId = none) {slot : Slot}
    {liqPool : LiquidityPoolYieldFarm}
    (pool : σ.liquidityPoolData.lookup slot = some liqPool) : slot.1 ≠ farmId := by
  obtain ⟨globalPool, farm⟩ := (consistent.pools _ _ pool).farm
  exact AList.ne_of_lookup absent farm

/-- A live pool does not have the number of a farm. -/
theorem Consistent.liqPool_ne_farm (consistent : Consistent cfg block σ) {slot : Slot}
    {liqPool : LiquidityPoolYieldFarm} {farmId : ℕ} {globalPool : GlobalPool}
    (pool : σ.liquidityPoolData.lookup slot = some liqPool)
    (farm : σ.globalPoolData.lookup farmId = some globalPool) : liqPool.id ≠ farmId := by
  obtain ⟨metadata, known, -⟩ := (consistent.pools _ _ pool).known
  exact (AList.ne_of_lookup (consistent.metadata _ _ known).notFarm farm).symm

/-- A new farm is recorded under the next id. -/
theorem Consistent.createFarm (consistent : Consistent cfg block σ)
    {globalPool : GlobalPool} (numbered : σ.poolIdSequencer + 1 < u32Bound)
    (id : globalPool.id = σ.poolIdSequencer + 1)
    (proper : globalPool.blocksPerPeriod ≠ 0)
    (updated : globalPool.updatedAt = block / globalPool.blocksPerPeriod)
    (uncounted : globalPool.liqPoolsCount = 0) (unstaked : globalPool.totalSharesZ = 0) :
    Consistent cfg block
      { σ with
        poolIdSequencer := σ.poolIdSequencer + 1
        globalPoolData :=
          σ.globalPoolData.insert (σ.poolIdSequencer + 1) globalPool } := by
  obtain ⟨freshFarm, -⟩ := consistent.id_fresh
  refine ⟨numbered, ?_, ?_, ?_, ?_⟩
  · refine AList.forall_lookup_insert ?_ ?_
    · refine ⟨id, Nat.succ_pos _, le_rfl, proper, updated.le, uncounted.trans ?_,
        unstaked.trans ?_⟩
      · refine (AList.total_eq_zero ?_).symm
        intro slot liqPool pool
        exact if_neg (consistent.no_pools freshFarm pool)
      · refine (AList.total_eq_zero ?_).symm
        intro slot liqPool pool
        exact if_neg (consistent.no_pools freshFarm pool)
    · intro other otherPool _ stored
      exact (consistent.farms _ _ stored).mono (Nat.le_succ _) rfl rfl
  · intro slot liqPool stored
    have kept := consistent.pools _ _ stored
    exact kept.mono (farm_insert _ _ kept.farm) kept.known
  · intro liqPoolId metadata stored
    have kept := consistent.metadata _ _ stored
    have distinct : liqPoolId ≠ σ.poolIdSequencer + 1 := by
      have bounded := kept.numbered
      omega
    exact kept.mono (Nat.le_succ _) ((AList.lookup_insert_ne distinct).trans kept.notFarm) rfl
  · intro nftId deposit stored
    have kept := consistent.deposits _ _ stored
    obtain ⟨metadata, known, bounded⟩ := kept.known
    refine kept.mono le_rfl ⟨metadata, known, ?_⟩
    intro found lookup
    have older := (consistent.metadata _ _ known).farmNumbered
    rw [AList.lookup_insert_ne (by omega)] at lookup
    exact bounded found lookup

/-- A farm without pools is removed. -/
theorem Consistent.destroyFarm (consistent : Consistent cfg block σ) {farmId : ℕ}
    {globalPool : GlobalPool}
    (farm : σ.globalPoolData.lookup farmId = some globalPool)
    (empty : globalPool.liqPoolsCount = 0) :
    Consistent cfg block
      { σ with globalPoolData := σ.globalPoolData.erase farmId } := by
  have before := consistent.farms _ _ farm
  refine ⟨consistent.sequencer, ?_, ?_, ?_, ?_⟩
  · refine AList.forall_lookup_erase ?_
    intro other otherPool _ stored
    exact (consistent.farms _ _ stored).mono le_rfl rfl rfl
  · intro slot liqPool (stored : σ.liquidityPoolData.lookup slot = some liqPool)
    have kept := consistent.pools _ _ stored
    have distinct : slot.1 ≠ farmId := by
      intro same
      have counted := AList.weight_le_total
        (fun (slot : Slot) (_ : LiquidityPoolYieldFarm) =>
          if slot.1 = farmId then 1 else 0) stored
      have none := before.counted
      rw [if_pos same] at counted
      unfold poolsOf at none
      omega
    refine kept.mono ?_ kept.known
    rw [AList.lookup_erase_ne distinct]
    exact kept.farm
  · intro liqPoolId metadata stored
    have kept := consistent.metadata _ _ stored
    refine kept.mono le_rfl ?_ rfl
    rw [AList.lookup_erase_eq_ite]
    split_ifs
    · rfl
    · exact kept.notFarm
  · intro nftId deposit stored
    have kept := consistent.deposits _ _ stored
    obtain ⟨metadata, known, bounded⟩ := kept.known
    refine kept.mono le_rfl ⟨metadata, known, ?_⟩
    intro found lookup
    rw [AList.lookup_erase_eq_ite] at lookup
    split_ifs at lookup
    exact bounded found lookup

/-- No deposit was made in a pool whose id is not yet given out. -/
theorem Consistent.poolIdOf_le (consistent : Consistent cfg block σ) {nftId : ℕ}
    {deposit : Deposit} (stored : σ.depositData.lookup nftId = some deposit) :
    poolIdOf nftId ≤ σ.poolIdSequencer := by
  obtain ⟨metadata, known, -⟩ := (consistent.deposits _ _ stored).known
  exact (consistent.metadata _ _ known).numbered

/-- A new pool without stake is recorded in a free slot under the next id. -/
theorem Consistent.addPool (consistent : Consistent cfg block σ) {farmId : ℕ}
    {globalPool : GlobalPool} {assetPair : AssetPair} {liqPool : LiquidityPoolYieldFarm}
    (farm : σ.globalPoolData.lookup farmId = some globalPool)
    (vacant : σ.liquidityPoolData.lookup (farmId, cfg.getPairId assetPair) = none)
    (numbered : σ.poolIdSequencer + 1 < u32Bound)
    (id : liqPool.id = σ.poolIdSequencer + 1)
    (unstaked : liqPool.stakeInGlobalPool = 0)
    (curve : ∀ curve ∈ liqPool.loyaltyCurve,
      curve.initialRewardPercentage < FixedU128.one) :
    Consistent cfg block
      { σ with
        poolIdSequencer := σ.poolIdSequencer + 1
        globalPoolData := σ.globalPoolData.insert farmId
          { globalPool with liqPoolsCount := globalPool.liqPoolsCount + 1 }
        liquidityPoolData :=
          σ.liquidityPoolData.insert (farmId, cfg.getPairId assetPair) liqPool
        liquidityPoolMetadata := σ.liquidityPoolMetadata.insert (σ.poolIdSequencer + 1)
          ⟨assetPair, 0, farmId⟩ } := by
  obtain ⟨freshFarm, freshPool⟩ := consistent.id_fresh
  have before := consistent.farms _ _ farm
  have counts := fun other => AList.total_insert_of_none
    (fun (slot : Slot) (_ : LiquidityPoolYieldFarm) => if slot.1 = other then 1 else 0)
    vacant liqPool
  have stakes := fun other => AList.total_insert_of_none
    (fun (slot : Slot) (liqPool : LiquidityPoolYieldFarm) =>
      if slot.1 = other then liqPool.stakeInGlobalPool else 0)
    vacant liqPool
  simp only [unstaked, ite_self, Nat.add_zero] at stakes
  refine ⟨numbered, ?_, ?_, ?_, ?_⟩
  · refine AList.forall_lookup_insert ?_ ?_
    · refine ⟨before.id, before.positive, Nat.le_succ_of_le before.numbered,
        before.proper, before.updated, ?_, before.staked.trans (stakes farmId).symm⟩
      refine Eq.trans ?_ (counts farmId).symm
      rw [if_pos rfl]
      exact congrArg (· + 1) before.counted
    · intro other otherPool distinct stored
      have uncounted := counts other
      rw [if_neg distinct.symm, Nat.add_zero] at uncounted
      exact (consistent.farms _ _ stored).mono (Nat.le_succ _) uncounted (stakes other)
  · refine AList.forall_lookup_insert ?_ ?_
    · refine ⟨farm_insert _ _ ⟨_, farm⟩, ⟨⟨assetPair, 0, farmId⟩, ?_, rfl⟩,
        fun _ => unstaked, curve⟩
      rw [id, AList.lookup_insert]
    · intro slot otherPool _ stored
      have kept := consistent.pools _ _ stored
      obtain ⟨metadata, known, leads⟩ := kept.known
      have distinct : otherPool.id ≠ σ.poolIdSequencer + 1 :=
        AList.ne_of_lookup freshPool known
      exact kept.mono (farm_insert _ _ kept.farm)
        ⟨metadata, (AList.lookup_insert_ne distinct).trans known, leads⟩
  · refine AList.forall_lookup_insert ?_ ?_
    · refine ⟨Nat.succ_pos _, le_rfl, Nat.le_succ_of_le before.numbered,
        AList.lookup_insert_of_absent farm freshFarm, ?_⟩
      refine (AList.total_eq_zero ?_).symm
      intro nftId deposit stored
      have older := consistent.poolIdOf_le stored
      exact if_neg (by omega)
    · intro liqPoolId metadata _ stored
      have kept := consistent.metadata _ _ stored
      exact kept.mono (Nat.le_succ _) (AList.lookup_insert_of_absent farm kept.notFarm) rfl
  · intro nftId deposit stored
    have kept := consistent.deposits _ _ stored
    have older := consistent.poolIdOf_le stored
    obtain ⟨metadata, known, bounded⟩ := kept.setGlobalPool
      { globalPool with liqPoolsCount := globalPool.liqPoolsCount + 1 } farm rfl
    refine kept.mono le_rfl ⟨metadata, ?_, bounded⟩
    exact (AList.lookup_insert_ne (by omega)).trans known

/-- An id leads to one slot. -/
theorem Consistent.slot_unique (consistent : Consistent cfg block σ) {slot slot' : Slot}
    {liqPool liqPool' : LiquidityPoolYieldFarm}
    (pool : σ.liquidityPoolData.lookup slot = some liqPool)
    (pool' : σ.liquidityPoolData.lookup slot' = some liqPool')
    (same : liqPool.id = liqPool'.id) : slot = slot' := by
  obtain ⟨metadata, known, leads⟩ := (consistent.pools _ _ pool).known
  obtain ⟨metadata', known', leads'⟩ := (consistent.pools _ _ pool').known
  rw [same, known', Option.some.injEq] at known
  rw [← leads, ← leads', known]

/-- A pool without stake is removed, and its metadata too if it has no deposits. -/
theorem Consistent.removePool (consistent : Consistent cfg block σ) {slot : Slot}
    {globalPool : GlobalPool} {liqPool : LiquidityPoolYieldFarm}
    {table : AList fun _ : ℕ => Metadata}
    (farm : σ.globalPoolData.lookup slot.1 = some globalPool)
    (pool : σ.liquidityPoolData.lookup slot = some liqPool)
    (idle : liqPool.canceled = true)
    (dropped : table = σ.liquidityPoolMetadata ∨
      table = σ.liquidityPoolMetadata.erase liqPool.id ∧
        ∃ metadata, σ.liquidityPoolMetadata.lookup liqPool.id = some metadata ∧
          metadata.nftsCount = 0) :
    Consistent cfg block
      { σ with
        globalPoolData := σ.globalPoolData.insert slot.1
          { globalPool with liqPoolsCount := globalPool.liqPoolsCount - 1 }
        liquidityPoolData := σ.liquidityPoolData.erase slot
        liquidityPoolMetadata := table } := by
  have before := consistent.farms _ _ farm
  have unstaked := (consistent.pools _ _ pool).idle idle
  have counts := fun other => AList.total_erase_add
    (fun (slot : Slot) (_ : LiquidityPoolYieldFarm) => if slot.1 = other then 1 else 0)
    pool
  have stakes := fun other => AList.total_erase_add
    (fun (slot : Slot) (liqPool : LiquidityPoolYieldFarm) =>
      if slot.1 = other then liqPool.stakeInGlobalPool else 0) pool
  simp only [unstaked, ite_self, Nat.add_zero] at stakes
  have stays : ∀ liqPoolId metadata,
      σ.liquidityPoolMetadata.lookup liqPoolId = some metadata →
      (liqPoolId = liqPool.id → metadata.nftsCount ≠ 0) →
      table.lookup liqPoolId = some metadata := by
    intro liqPoolId metadata known needed
    obtain rfl | ⟨rfl, other, lookup, unused⟩ := dropped
    · exact known
    · have distinct : liqPoolId ≠ liqPool.id := by
        intro same
        rw [same, lookup, Option.some.injEq] at known
        exact needed same (known ▸ unused)
      exact (AList.lookup_erase_ne distinct).trans known
  have stored_of_table : ∀ liqPoolId metadata, table.lookup liqPoolId = some metadata →
      σ.liquidityPoolMetadata.lookup liqPoolId = some metadata := by
    intro liqPoolId metadata lookup
    obtain rfl | ⟨rfl, -⟩ := dropped
    · exact lookup
    · rw [AList.lookup_erase_eq_ite] at lookup
      split_ifs at lookup
      exact lookup
  refine ⟨consistent.sequencer, ?_, ?_, ?_, ?_⟩
  · refine AList.forall_lookup_insert ?_ ?_
    · refine ⟨before.id, before.positive, before.numbered, before.proper,
        before.updated, ?_, before.staked.trans (stakes slot.1).symm⟩
      have now := counts slot.1
      have then_ := before.counted
      rw [if_pos rfl] at now
      unfold poolsOf at then_ ⊢
      dsimp only
      omega
    · intro other otherPool distinct stored
      have now := counts other
      rw [if_neg distinct.symm, Nat.add_zero] at now
      exact (consistent.farms _ _ stored).mono le_rfl now (stakes other)
  · refine AList.forall_lookup_erase ?_
    intro other otherPool distinct stored
    have kept := consistent.pools _ _ stored
    obtain ⟨metadata, known, leads⟩ := kept.known
    refine kept.mono (farm_insert _ _ kept.farm) ⟨metadata, stays _ _ known ?_, leads⟩
    intro same
    exact absurd (consistent.slot_unique stored pool same) distinct
  · intro liqPoolId metadata stored
    have kept := consistent.metadata _ _ (stored_of_table _ _ stored)
    exact kept.mono le_rfl (AList.lookup_insert_of_absent farm kept.notFarm) rfl
  · intro nftId deposit (stored : σ.depositData.lookup nftId = some deposit)
    have kept := consistent.deposits _ _ stored
    obtain ⟨metadata, known, bounded⟩ := kept.setGlobalPool
      { globalPool with liqPoolsCount := globalPool.liqPoolsCount - 1 } farm rfl
    refine kept.mono le_rfl ⟨metadata, stays _ _ known ?_, bounded⟩
    intro _
    have counted := (consistent.metadata _ _ known).counted
    have present := depositsOf_pos stored
    omega

/-- Time passes. -/
theorem Consistent.later (consistent : Consistent cfg block σ) {block' : ℕ}
    (later : block ≤ block') : Consistent cfg block' σ := by
  refine ⟨consistent.sequencer, ?_, consistent.pools, consistent.metadata, ?_⟩
  · intro farmId globalPool stored
    have kept := consistent.farms _ _ stored
    exact ⟨kept.id, kept.positive, kept.numbered, kept.proper,
      kept.updated.trans (Nat.div_le_div_right later), kept.counted, kept.staked⟩
  · intro nftId deposit stored
    have kept := consistent.deposits _ _ stored
    obtain ⟨metadata, known, bounded⟩ := kept.known
    refine kept.mono le_rfl ⟨metadata, known, ?_⟩
    intro globalPool farm
    exact (bounded globalPool farm).trans (Nat.div_le_div_right later)

end Writes

/-- The metadata after a pool is removed. -/
theorem dropUnusedMetadata_table (s : State) (liqPoolId : ℕ) :
    (dropUnusedMetadata s liqPoolId).liquidityPoolMetadata = s.liquidityPoolMetadata ∨
      (dropUnusedMetadata s liqPoolId).liquidityPoolMetadata =
          s.liquidityPoolMetadata.erase liqPoolId ∧
        ∃ metadata, s.liquidityPoolMetadata.lookup liqPoolId = some metadata ∧
          metadata.nftsCount = 0 := by
  unfold dropUnusedMetadata
  split
  · split_ifs with unused
    · exact .inr ⟨rfl, _, ‹_›, unused⟩
    · exact .inl rfl
  · exact .inl rfl

/-- Every move keeps the storage consistent. -/
theorem Consistent.move {cfg : Config} {s t : State} {kind : MoveKind}
    (consistent : Consistent cfg s.blockNumber s.toStorage) (move : Move cfg s kind t) :
    Consistent cfg t.blockNumber t.toStorage := by
  cases move with
  | accrue farm numbered staked later rate capped booked =>
      exact consistent.setGlobalPool farm rfl rfl le_rfl rfl rfl
  | collect farm pool active stale valued behind earned covered booked moved =>
      refine consistent.put farm pool rfl rfl rfl rfl rfl rfl ?_ rfl
      intro idle
      exact absurd (active.symm.trans idle) nofun
  | forfeit farm pool active unvalued behind earned covered =>
      refine consistent.put farm pool rfl rfl rfl rfl rfl rfl ?_ rfl
      intro idle
      exact absurd (active.symm.trans idle) nofun
  | update farm pool active weighed held =>
      refine consistent.put farm pool rfl rfl rfl rfl ?_ rfl ?_ rfl
      · dsimp only
        omega
      · intro idle
        exact absurd (active.symm.trans idle) nofun
  | cancel farm pool active held =>
      refine consistent.put farm pool rfl rfl rfl rfl ?_ rfl (fun _ => rfl) rfl
      dsimp only
      omega
  | resume farm pool idle weighed =>
      refine consistent.put farm pool rfl rfl rfl rfl ?_ rfl nofun rfl
      have unstaked := (consistent.pools _ _ pool).idle idle
      dsimp only
      omega
  | @enter slot globalPool liqPool key amount valuedShares stake assetPair metadata
      ledger nft farm pool active account nonzero valued weighed locked numbered
      sequenced minted known =>
      obtain ⟨found, lookup, leads⟩ := (consistent.pools _ _ pool).known
      rw [known, Option.some.injEq] at lookup
      subst lookup
      have joined := consistent.addDeposit
        (.new amount valuedShares liqPool.accumulatedRpvs (s.period globalPool)) known
        sequenced nonzero le_rfl (by
          intro home stored
          rw [show metadata.farmId = slot.1 from congrArg Prod.fst leads, farm,
            Option.some.injEq] at stored
          exact stored ▸ le_rfl)
      refine joined.put farm pool rfl rfl rfl rfl ?_ rfl ?_ rfl
      · dsimp only
        omega
      · intro idle
        exact absurd (active.symm.trans idle) nofun
  | @pay nftId key loyalty reward unclaimable metadata globalPool liqPool deposit ledger
      reports known recorded farm pool entered unpaid loyal priced moved reported =>
      have paid := consistent.setDeposit
        { deposit with
          accumulatedClaimedRewards := deposit.accumulatedClaimedRewards + reward
          updatedAt := s.period globalPool }
        recorded known farm rfl entered rfl
      exact paid.put farm pool rfl rfl rfl rfl rfl rfl (consistent.pools _ _ pool).idle rfl
  | leave reports known recorded farm pool shares valuedShares released held heldFarm leftover
      refund returned burned counted reported =>
      refine (consistent.removeDeposit recorded known).put farm pool rfl rfl rfl rfl ?_ rfl
        ?_ rfl
      · dsimp only
        omega
      · intro idle
        have unstaked := (consistent.pools _ _ pool).idle idle
        dsimp only
        omega
  | depart reports known recorded vacant returned burned counted reported =>
      split_ifs with last
      · exact consistent.removeLastDeposit recorded known last vacant
      · exact consistent.removeDeposit recorded known
  | createFarm event proper numbered funded reported =>
      exact consistent.createFarm numbered rfl proper rfl rfl rfl
  | destroyFarm farm empty => exact consistent.destroyFarm farm empty
  | drain farm empty moved => exact consistent
  | addPool multiplier farm same curve vacant numbered =>
      exact consistent.addPool farm vacant numbered rfl rfl curve
  | removePool who assetPair farm pool idle counted moved =>
      exact consistent.removePool farm pool idle (dropUnusedMetadata_table s _)
  | external follows => exact consistent.later follows.block

/-- Empty storage is consistent. -/
theorem Initial.consistent {cfg : Config} {s : State} (initial : Initial cfg s) :
    Consistent cfg s.blockNumber s.toStorage := by
  refine ⟨?_, ?_, ?_, ?_, ?_⟩
  · rw [initial.poolIdSequencer]
    exact Nat.two_pow_pos 32
  · intro farmId globalPool stored
    simp [initial.globalPoolData] at stored
  · intro slot liqPool stored
    simp [initial.liquidityPoolData] at stored
  · intro liqPoolId metadata stored
    simp [initial.liquidityPoolMetadata] at stored
  · intro nftId deposit stored
    simp [initial.depositData] at stored

end Basilisk.LiquidityMining
