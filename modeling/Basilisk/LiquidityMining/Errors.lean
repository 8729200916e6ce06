/-
# Errors that should not occur

Three errors do not answer a bad request but report that the pallet itself is in
trouble: a farm that cannot pay its pool, a pool without its farm, and a pool
without its metadata.  The parts that the calls share raise them at no other place
than the one they are meant for, so that a call is free of such an error as soon
as bringing its pools up to date is.  In consistent storage the farm of a pool and
the metadata of a pool are always found.
-/

import Basilisk.LiquidityMining.Calls

namespace Basilisk.LiquidityMining

open Basilisk.Math

/-- The errors that report a fault of the pallet, except that a call may also name a farm
that does not exist. -/
def Error.isGrave : Error → Bool
  | .insufficientBalanceInGlobalPool => true
  | .farmNotFound => true
  | .liquidityPoolMetadataNotFound => true
  | _ => false

/-- The calls that look up a farm by the id the signer gave, not on the way from one of its
pools. -/
def Call.namesFarm : Call → Bool
  | .destroyFarm _ _ => true
  | .withdrawUndistributedRewards _ _ => true
  | .addLiquidityPool _ _ _ _ _ => true
  | _ => false

variable {cfg : Config} {s : State} {e : Error}
variable {globalPool : GlobalPool} {liqPool : LiquidityPoolYieldFarm} {now : ℕ}

theorem Error.ne_of_grave (grave : e.isGrave = true) {other : Error}
    (funded : other ≠ .insufficientBalanceInGlobalPool) (found : other ≠ .farmNotFound)
    (known : other ≠ .liquidityPoolMetadataNotFound) : other ≠ e := by
  rintro rfl
  cases other with
  | insufficientBalanceInGlobalPool => exact funded rfl
  | farmNotFound => exact found rfl
  | liquidityPoolMetadataNotFound => exact known rfl
  | _ => exact absurd grave nofun

section Shared

variable {who : AccountId}

/-- A transfer fails with the error of the currency. -/
theorem State.transfer_avoids (grave : e.isGrave = true) {currency : AssetId}
    {sender receiver : AccountId} {amount : ℕ} :
    Avoids e (s.transfer currency sender receiver amount) := by
  simp only [State.transfer, avoids_bind, avoids_okOr, avoids_return, Error.ne_of_grave grave,
    ne_eq, reduceCtorEq, not_false_eq_true, false_imp_iff, implies_true, and_self]

theorem poolAccountId_avoids (grave : e.isGrave = true) {poolId : ℕ} :
    Avoids e (poolAccountId poolId) := by
  simp only [poolAccountId, validatePoolId, avoids_bind, avoids_ensure, avoids_return,
    Error.ne_of_grave grave, ne_eq, reduceCtorEq, not_false_eq_true, false_imp_iff, implies_true,
    and_self]

theorem getPoolIdFromNftId_avoids (grave : e.isGrave = true) {nftId : ℕ} :
    Avoids e (getPoolIdFromNftId nftId) := by
  simp only [getPoolIdFromNftId, avoids_bind, avoids_ensure, avoids_return, Error.ne_of_grave
    grave, ne_eq, reduceCtorEq, not_false_eq_true, false_imp_iff, implies_true, and_self]

theorem mapError_avoids (grave : e.isGrave = true) {α : Type}
    {computation : Except Nft.Error α} : Avoids e (computation.mapError Error.nft) := by
  cases computation with
  | ok => exact nofun
  | error reason =>
      intro failed
      have same : Error.nft reason = e := Except.error.inj failed
      apply Error.ne_of_grave grave _ _ _ same
      · exact nofun
      · exact nofun
      · exact nofun

theorem accrueReward_avoids (grave : e.isGrave = true) {reward : ℕ} :
    Avoids e (accrueReward cfg globalPool reward) := by
  unfold accrueReward
  split_ifs
  · exact avoids_return
  · simp only [avoids_bind, avoids_okOr, avoids_return, Error.ne_of_grave grave, ne_eq,
      reduceCtorEq, not_false_eq_true, false_imp_iff, implies_true, and_self]

theorem refreshGlobalPool_avoids (grave : e.isGrave = true) :
    Avoids e (refreshGlobalPool cfg s globalPool now) := by
  unfold refreshGlobalPool updateGlobalPool
  split_ifs
  all_goals
    simp only [avoids_bind, avoids_okOr, avoids_return, Error.ne_of_grave grave, ne_eq,
      reduceCtorEq, not_false_eq_true, false_imp_iff, implies_true, and_self,
      poolAccountId_avoids grave, accrueReward_avoids grave]

theorem claimFromGlobalPool_avoids (grave : e.isGrave = true) {stake : ℕ} :
    Avoids e (claimFromGlobalPool globalPool liqPool stake) := by
  simp only [claimFromGlobalPool, avoids_bind, avoids_okOr, avoids_return, Error.ne_of_grave
    grave, ne_eq, reduceCtorEq, not_false_eq_true, false_imp_iff, implies_true, and_self]

/-- The transfer to a liquidity pool is the only one checked against the balance
of the farm. -/
theorem updateLiqPool_avoids (grave : e.isGrave = true) {rewards farmId : ℕ}
    {currency : AssetId}
    (covered : e = .insufficientBalanceInGlobalPool →
      rewards ≤ s.ledger.free (.palletSubAccount farmId) currency) :
    Avoids e (updateLiqPool cfg s liqPool rewards now farmId currency) := by
  unfold updateLiqPool
  split_ifs
  · exact avoids_return
  · exact avoids_return
  · simp only [avoids_bind, avoids_okOr, avoids_ensure, avoids_return, poolAccountId_avoids
      grave, State.transfer_avoids grave, poolAccountId_eq_ok, Error.ne_of_grave grave, ne_eq,
      reduceCtorEq, not_false_eq_true, false_imp_iff, implies_true, and_self, and_true, true_and,
      and_imp]
    rintro _ - _ - rfl unfunded
    exact covered unfunded.symm

theorem maybeUpdatePools_avoids (grave : e.isGrave = true)
    (covered : e = .insufficientBalanceInGlobalPool →
      liqPool.canceled = false → liqPool.totalShares ≠ 0 ∧ liqPool.updatedAt ≠ now →
      ∀ {s' globalPool' globalPool'' liqPool' rewards},
        refreshGlobalPool cfg s globalPool now = .ok (s', globalPool') →
        claimFromGlobalPool globalPool' liqPool liqPool.stakeInGlobalPool =
          .ok (globalPool'', liqPool', rewards) →
        rewards ≤ s'.ledger.free (.palletSubAccount globalPool''.id)
          globalPool''.rewardCurrency) :
    Avoids e (maybeUpdatePools cfg s globalPool liqPool now) := by
  unfold maybeUpdatePools
  split_ifs with canceled working
  · exact avoids_return
  · simp only [avoids_bind, avoids_return, refreshGlobalPool_avoids grave,
      claimFromGlobalPool_avoids grave, implies_true, and_true, true_and]
    rintro ⟨s', globalPool'⟩ refreshed ⟨globalPool'', liqPool', rewards⟩ claimed
    apply updateLiqPool_avoids grave
    intro unfunded
    exact covered unfunded (Bool.eq_false_of_not_eq_true canceled) working refreshed claimed
  · exact avoids_return

theorem doClaimRewards_avoids (grave : e.isGrave = true) {deposit : Deposit}
    {currency : AssetId} :
    Avoids e (doClaimRewards cfg s who deposit liqPool now currency) := by
  have loyal : ∀ periods curve, Avoids e (getLoyaltyMultiplier cfg periods curve) := by
    intro periods curve
    unfold getLoyaltyMultiplier
    split
    · exact avoids_ok
    · split_ifs
      · exact avoids_ok
      · simp only [avoids_okOr, Error.ne_of_grave grave, ne_eq, reduceCtorEq, not_false_eq_true,
          false_imp_iff]
  unfold doClaimRewards
  split_ifs
  all_goals
    simp only [avoids_bind, avoids_okOr, avoids_return, poolAccountId_avoids grave,
      State.transfer_avoids grave, loyal, Error.ne_of_grave grave, ne_eq, reduceCtorEq,
      not_false_eq_true, false_imp_iff, implies_true, and_self]

theorem releaseStake_avoids (grave : e.isGrave = true) {valuedShares : ℕ} :
    Avoids e (releaseStake cfg globalPool liqPool valuedShares) := by
  unfold releaseStake
  split_ifs
  · exact avoids_return
  · simp only [avoids_bind, avoids_okOr, avoids_return, Error.ne_of_grave grave, ne_eq,
      reduceCtorEq, not_false_eq_true, false_imp_iff, implies_true, and_self]

theorem returnLpShares_avoids (grave : e.isGrave = true) {assetPair : AssetPair}
    {farmId liqPoolId shares : ℕ} :
    Avoids e (returnLpShares s who assetPair farmId liqPoolId shares) := by
  unfold returnLpShares
  split_ifs
  · simp only [avoids_bind, avoids_return, State.transfer_avoids grave, implies_true, and_self]
  · exact avoids_return

theorem releaseMetadata_avoids (grave : e.isGrave = true) {liqPoolId : ℕ}
    {metadata : Metadata} {poolRemoved : Bool} :
    Avoids e (releaseMetadata s liqPoolId metadata poolRemoved) := by
  unfold releaseMetadata
  split_ifs
  · exact avoids_return
  · simp only [avoids_bind, avoids_okOr, avoids_return, Error.ne_of_grave grave, ne_eq,
      reduceCtorEq, not_false_eq_true, false_imp_iff, implies_true, and_self]

end Shared

section Calls

variable {slot : Slot}

/-- A pool has a farm. -/
theorem Consistent.farm_found (consistent : Consistent cfg s.blockNumber s.toStorage)
    (pool : s.liquidityPoolData.lookup slot = some liqPool) :
    s.globalPoolData.lookup slot.1 ≠ none := by
  obtain ⟨globalPool, farm⟩ := (consistent.pools _ _ pool).farm
  rw [farm]
  exact nofun

/-- A pool has metadata, also while it is brought up to date. -/
theorem Consistent.metadata_found (consistent : Consistent cfg s.blockNumber s.toStorage)
    (pool : s.liquidityPoolData.lookup slot = some liqPool) {s' : State}
    {globalPool' : GlobalPool} {liqPool' : LiquidityPoolYieldFarm}
    (updated : maybeUpdatePools cfg s globalPool liqPool now =
      .ok (s', globalPool', liqPool')) :
    s'.liquidityPoolMetadata.lookup liqPool'.id ≠ none := by
  have kept := updated_of_maybeUpdatePools updated
  obtain ⟨_, _, -, rfl⟩ := kept.shape
  obtain ⟨_, _, _, rfl⟩ := kept.poolKept
  obtain ⟨metadata, known, -⟩ := (consistent.pools _ _ pool).known
  intro missing
  exact absurd (known.symm.trans missing) nofun

/-- A call raises none of these errors if the pools it brings up to date raise none, unless
it names a farm that does not exist. -/
theorem dispatch_avoids (consistent : Consistent cfg s.blockNumber s.toStorage)
    (grave : e.isGrave = true) {call : Call}
    (named : e = .farmNotFound → call.namesFarm = false)
    (settles : ∀ slot globalPool liqPool, call.slot cfg s = some slot →
      s.globalPoolData.lookup slot.1 = some globalPool →
      s.liquidityPoolData.lookup slot = some liqPool →
      Avoids e (maybeUpdatePools cfg s globalPool liqPool (s.period globalPool))) :
    Avoids e (dispatch cfg s call) := by
  have unnamed : call.namesFarm = true → .farmNotFound ≠ e := by
    rintro isNamed rfl
    exact absurd (isNamed.symm.trans (named rfl)) nofun
  cases call with
  | createFarm =>
      simp only [dispatch, createFarm, validateCreateFarmData, getNextPoolId, getNowPeriod,
        getPeriodNumber, avoids_bind, avoids_ensure, avoids_okOr, avoids_return,
        poolAccountId_avoids grave, State.transfer_avoids grave, Error.ne_of_grave grave, ne_eq,
        reduceCtorEq, not_false_eq_true, false_imp_iff, implies_true, and_self]
  | destroyFarm =>
      simp only [dispatch, destroyFarm, avoids_bind, avoids_ensure, avoids_okOr, avoids_return,
        poolAccountId_avoids grave, unnamed rfl, Error.ne_of_grave grave, ne_eq, reduceCtorEq,
        not_false_eq_true, false_imp_iff, implies_true, and_self]
  | withdrawUndistributedRewards =>
      simp only [dispatch, withdrawUndistributedRewards, avoids_bind, avoids_ensure, avoids_okOr,
        avoids_return, poolAccountId_avoids grave, State.transfer_avoids grave, unnamed rfl,
        Error.ne_of_grave grave, ne_eq, reduceCtorEq, not_false_eq_true, false_imp_iff,
        implies_true, and_self]
  | addLiquidityPool =>
      simp only [dispatch, addLiquidityPool, getNextPoolId, getNowPeriod, getPeriodNumber,
        avoids_bind, avoids_ensure, avoids_okOr, avoids_return, refreshGlobalPool_avoids grave,
        unnamed rfl, Error.ne_of_grave grave, ne_eq, reduceCtorEq, not_false_eq_true,
        false_imp_iff, implies_true, and_self]
  | updateLiquidityPool who farmId assetPair multiplier =>
      simp only [dispatch, updateLiquidityPool, getNowPeriod, getPeriodNumber, avoids_bind,
        avoids_ensure, avoids_okOr, avoids_return, okOr_eq_ok, checkedDiv_eq_some,
        Error.ne_of_grave grave, ne_eq, reduceCtorEq, not_false_eq_true, false_imp_iff,
        implies_true, and_self, and_true, true_and]
      rintro - - liqPool pool - -
      refine ⟨fun _ => consistent.farm_found pool, ?_⟩
      rintro globalPool farm - - _ ⟨-, rfl⟩
      exact settles (farmId, cfg.getPairId assetPair) globalPool liqPool rfl farm pool
  | cancelLiquidityPool who farmId assetPair =>
      simp only [dispatch, cancelLiquidityPool, getNowPeriod, getPeriodNumber, avoids_bind,
        avoids_ensure, avoids_okOr, avoids_return, okOr_eq_ok, checkedDiv_eq_some,
        Error.ne_of_grave grave, ne_eq, reduceCtorEq, not_false_eq_true, false_imp_iff,
        implies_true, and_self, and_true, true_and]
      rintro liqPool pool - -
      refine ⟨fun _ => consistent.farm_found pool, ?_⟩
      rintro globalPool farm - - _ ⟨-, rfl⟩
      exact settles (farmId, cfg.getPairId assetPair) globalPool liqPool rfl farm pool
  | resumeLiquidityPool who farmId assetPair multiplier =>
      simp only [dispatch, resumeLiquidityPool, getNowPeriod, getPeriodNumber, avoids_bind,
        avoids_ensure, avoids_okOr, avoids_return, okOr_eq_ok, refreshGlobalPool_avoids grave,
        Error.ne_of_grave grave, ne_eq, reduceCtorEq, not_false_eq_true, false_imp_iff,
        implies_true, and_self, and_true, true_and]
      rintro - - liqPool pool - - -
      exact consistent.farm_found pool
  | removeLiquidityPool who farmId assetPair =>
      simp only [dispatch, removeLiquidityPool, avoids_bind, avoids_ensure, avoids_okOr,
        avoids_return, okOr_eq_ok, poolAccountId_avoids grave, State.transfer_avoids grave,
        Error.ne_of_grave grave, ne_eq, reduceCtorEq, not_false_eq_true, false_imp_iff,
        implies_true, and_self, and_true, true_and]
      rintro liqPool pool - - -
      exact consistent.farm_found pool
  | depositShares who farmId assetPair amount =>
      simp only [dispatch, depositShares, getValuedShares, getNextNftId, validatePoolId,
        getNowPeriod, getPeriodNumber, avoids_bind, avoids_ensure, avoids_okOr, avoids_return,
        okOr_eq_ok, checkedDiv_eq_some, State.transfer_avoids grave, State.transfer_eq_ok,
        mapError_avoids grave, Error.ne_of_grave grave, ne_eq, reduceCtorEq, not_false_eq_true,
        false_imp_iff, implies_true, and_self, and_true, true_and]
      rintro - - - - liqPool pool - -
      refine ⟨fun _ => consistent.farm_found pool, ?_⟩
      rintro globalPool farm _ ⟨-, rfl⟩
      refine ⟨settles (farmId, cfg.getPairId assetPair) globalPool liqPool rfl farm pool, ?_⟩
      rintro ⟨s', globalPool', liqPool'⟩ updated _ - _ - _ - _ - _ - _ - _ ⟨_, -, rfl⟩ _ - _ - -
      have found := consistent.metadata_found pool updated
      exact found
  | claimRewards who nftId =>
      simp only [dispatch, claimRewards, getPoolIdFromNftId_eq_ok, getNowPeriod, getPeriodNumber,
        avoids_bind, avoids_ensure, avoids_okOr, avoids_return, okOr_eq_ok, checkedDiv_eq_some,
        doClaimRewards_avoids grave, getPoolIdFromNftId_avoids grave, Error.ne_of_grave grave,
        ne_eq, reduceCtorEq, not_false_eq_true, false_imp_iff, implies_true, and_self, and_true,
        true_and]
      rintro _ ⟨-, rfl⟩ metadata known deposit - _ - - - liqPool pool - -
      refine ⟨fun _ => consistent.farm_found pool, ?_⟩
      rintro globalPool farm _ ⟨-, rfl⟩ - -
      exact settles (metadata.slot cfg) globalPool liqPool (by rw [Call.slot, known]; rfl) farm
        pool
  | withdrawShares who nftId =>
      simp only [dispatch, withdrawShares, avoids_bind, avoids_ensure, avoids_okOr, okOr_eq_ok,
        getPoolIdFromNftId_avoids grave, getPoolIdFromNftId_eq_ok, returnLpShares_avoids grave,
        mapError_avoids grave, releaseMetadata_avoids grave, Error.ne_of_grave grave, ne_eq,
        reduceCtorEq, not_false_eq_true, false_imp_iff, implies_true, and_self, and_true,
        true_and]
      rintro _ - - - _ ⟨-, rfl⟩ metadata known deposit -
      unfold settleWithdrawal
      split
      · next liqPool pool =>
        simp only [withdrawFromLiqPool, getNowPeriod, getPeriodNumber, avoids_bind, avoids_okOr,
          avoids_return, okOr_eq_ok, checkedDiv_eq_some, doClaimRewards_avoids grave,
          poolAccountId_avoids grave, State.transfer_avoids grave, releaseStake_avoids grave,
          Error.ne_of_grave grave, ne_eq, reduceCtorEq, not_false_eq_true, false_imp_iff,
          implies_true, and_self, and_true, true_and]
        refine ⟨fun _ => consistent.farm_found pool, ?_⟩
        rintro globalPool farm _ ⟨-, rfl⟩
        exact settles (metadata.slot cfg) globalPool liqPool (by rw [Call.slot, known]; rfl)
          farm pool
      · exact avoids_ok

/-- The farm of a pool is always found. -/
theorem dispatch_avoids_farmNotFound (consistent : Consistent cfg s.blockNumber s.toStorage)
    {call : Call} (unnamed : call.namesFarm = false) :
    Avoids .farmNotFound (dispatch cfg s call) := by
  apply dispatch_avoids consistent rfl fun _ => unnamed
  intro slot globalPool liqPool _ _ _
  exact maybeUpdatePools_avoids rfl nofun

/-- The metadata of a pool is always found. -/
theorem dispatch_avoids_metadataNotFound
    (consistent : Consistent cfg s.blockNumber s.toStorage) (call : Call) :
    Avoids .liquidityPoolMetadataNotFound (dispatch cfg s call) := by
  refine dispatch_avoids consistent rfl nofun ?_
  intro slot globalPool liqPool _ _ _
  exact maybeUpdatePools_avoids rfl nofun

end Calls

end Basilisk.LiquidityMining
