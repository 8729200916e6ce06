/-
# Updating pools again

Almost every call first runs `maybe_update_pools` on a liquidity pool and its farm.
It skips pools that are canceled, empty or were updated in the period, farms
without stake or already updated, and the payment to a pool without valued shares,
so that a run need not advance all checkpoints.  What it does reach is a state in
which there is nothing left to do, and such states are exactly those a run leaves
as they are.
-/

import Basilisk.LiquidityMining.Reference

namespace Basilisk.LiquidityMining

open Basilisk.Math

/-- Nothing is left to do for the pool in the period: it is not due, or it has no valued
shares and stands where its farm does, which has nothing to accrue. -/
def UpToDate (globalPool : GlobalPool) (liqPool : LiquidityPoolYieldFarm) (now : ℕ) : Prop :=
  liqPool.IsDue now →
    liqPool.totalValuedShares = 0 ∧
      (globalPool.totalSharesZ = 0 ∨ globalPool.updatedAt = now) ∧
      liqPool.accumulatedRpz = globalPool.accumulatedRpz ∧
      globalPool.paidAccumulatedRewards < u128Bound

variable {cfg : Config} {s s' : State} {now : ℕ}
variable {globalPool globalPool' : GlobalPool} {liqPool liqPool' : LiquidityPoolYieldFarm}

section Again

/-- A farm without stake or updated in the period is left alone. -/
theorem refreshGlobalPool_idle
    (idle : globalPool.totalSharesZ = 0 ∨ globalPool.updatedAt = now) (s : State) :
    refreshGlobalPool cfg s globalPool now = .ok (s, globalPool) := by
  rw [refreshGlobalPool, if_neg]
  · rfl
  · rintro ⟨staked, stale⟩
    exact idle.elim staked stale

/-- A farm that was brought up to date in a period has nothing more to accrue in it. -/
theorem idle_of_refreshGlobalPool
    (refreshed : refreshGlobalPool cfg s globalPool now = .ok (s', globalPool')) :
    globalPool'.totalSharesZ = 0 ∨ globalPool'.updatedAt = now := by
  rcases refreshGlobalPool_ok refreshed with
    ⟨-, rfl, idle⟩ | ⟨_, _, _, -, -, -, -, -, -, -, rfl⟩
  · exact idle
  · exact .inr rfl

/-- A pool that is up to date with its farm collects nothing from it. -/
theorem claimFromGlobalPool_current
    (current : liqPool.accumulatedRpz = globalPool.accumulatedRpz)
    (fits : globalPool.paidAccumulatedRewards < u128Bound) (stake : ℕ) :
    claimFromGlobalPool globalPool liqPool stake = .ok (globalPool, liqPool, 0) := by
  have earned : (globalPool.accumulatedRpz - liqPool.accumulatedRpz) * stake = 0 := by
    rw [current, Nat.sub_self, Nat.zero_mul]
  simp only [claimFromGlobalPool, bind_eq_ok, okOr_eq_ok, checkedSub_eq_some,
    checkedMul_eq_some, checkedAdd_eq_some, return_eq_ok]
  refine ⟨_, ⟨current.le, rfl⟩, 0, ⟨by rw [earned]; decide, earned⟩, _, ⟨fits, rfl⟩, _,
    ⟨Nat.zero_le _, rfl⟩, ?_⟩
  have kept : { liqPool with accumulatedRpz := globalPool.accumulatedRpz } = liqPool := by
    rw [← current]
  rw [kept]
  rfl

theorem UpToDate.maybeUpdatePools (done : UpToDate globalPool liqPool now) (s : State) :
    maybeUpdatePools cfg s globalPool liqPool now = .ok (s, globalPool, liqPool) := by
  unfold LiquidityMining.maybeUpdatePools
  split_ifs with canceled due
  · rfl
  · obtain ⟨worthless, idle, current, fits⟩ := done ⟨Bool.eq_false_of_not_eq_true canceled, due⟩
    rw [refreshGlobalPool_idle idle, ok_bind]
    dsimp only
    rw [claimFromGlobalPool_current current fits, ok_bind]
    dsimp only
    rw [updateLiqPool, if_neg due.2, if_pos worthless]
    rfl
  · rfl

theorem upToDate_of_maybeUpdatePools
    (updated : maybeUpdatePools cfg s globalPool liqPool now = .ok (s', globalPool', liqPool')) :
    UpToDate globalPool' liqPool' now := by
  intro stillDue
  unfold maybeUpdatePools at updated
  split_ifs at updated with canceled due
  · rw [return_eq_ok, Prod.mk.injEq, Prod.mk.injEq] at updated
    obtain ⟨-, rfl, rfl⟩ := updated
    rw [stillDue.1] at canceled
    cases canceled
  · simp only [bind_eq_ok, claimFromGlobalPool, okOr_eq_ok, checkedSub_eq_some,
      checkedMul_eq_some, checkedAdd_eq_some, return_eq_ok, and_assoc, exists_and_left,
      exists_eq_left', Prod.exists, Prod.mk.injEq] at updated
    obtain ⟨mid, midPool, refreshed, -, -, fits, -, _, _, booked, rfl, rfl, rfl⟩ := updated
    unfold updateLiqPool at booked
    split_ifs at booked with done worthless
    · exact absurd done due.2
    · -- without valued shares the pool stays due, but stands where the farm does
      rw [return_eq_ok, Prod.mk.injEq] at booked
      obtain ⟨rfl, rfl⟩ := booked
      have idle := idle_of_refreshGlobalPool refreshed
      exact ⟨worthless, idle, rfl, fits⟩
    · simp only [bind_eq_ok, okOr_eq_ok, return_eq_ok, Prod.mk.injEq] at booked
      obtain ⟨accumulatedRpvs, -, _, -, _, -, _, -, _, -, -, rfl⟩ := booked
      exact absurd rfl stillDue.2.2
  · rw [return_eq_ok, Prod.mk.injEq, Prod.mk.injEq] at updated
    obtain ⟨-, rfl, rfl⟩ := updated
    exact absurd stillDue.2 due

/-- A pool that was brought up to date in a period is up to date in all of it. -/
theorem maybeUpdatePools_again
    (updated : maybeUpdatePools cfg s globalPool liqPool now = .ok (s', globalPool', liqPool'))
    (u : State) : maybeUpdatePools cfg u globalPool' liqPool' now =
      .ok (u, globalPool', liqPool') :=
  (upToDate_of_maybeUpdatePools updated).maybeUpdatePools u

end Again

section Growth

/-- The accumulators of a farm and a pool only grow. -/
structure Grows (globalPool : GlobalPool) (liqPool : LiquidityPoolYieldFarm)
    (globalPool' : GlobalPool) (liqPool' : LiquidityPoolYieldFarm) : Prop where
  farm : globalPool.accumulatedRpz ≤ globalPool'.accumulatedRpz
  valued : liqPool.accumulatedRpvs ≤ liqPool'.accumulatedRpvs
  pool : liqPool.accumulatedRpz ≤ liqPool'.accumulatedRpz

theorem refreshGlobalPool_grows (accumulates : cfg.math.Accumulates)
    (refreshed : refreshGlobalPool cfg s globalPool now = .ok (s', globalPool')) :
    globalPool.accumulatedRpz ≤ globalPool'.accumulatedRpz := by
  rcases refreshGlobalPool_ok refreshed with
    ⟨-, rfl, -⟩ | ⟨_, _, accumulatedRpz, -, -, -, -, -, booked, -, rfl⟩
  · exact le_rfl
  · rcases booked with computed | ⟨-, same⟩
    · exact accumulates computed
    · exact same.ge

theorem maybeUpdatePools_grows (accumulates : cfg.math.Accumulates)
    (updated : maybeUpdatePools cfg s globalPool liqPool now = .ok (s', globalPool', liqPool')) :
    Grows globalPool liqPool globalPool' liqPool' := by
  cases broughtUp_of_maybeUpdatePools updated with
  | idle => exact ⟨le_rfl, le_rfl, le_rfl⟩
  | unvalued due refreshed behind =>
      have farm := refreshGlobalPool_grows accumulates refreshed
      exact ⟨farm, le_rfl, behind⟩
  | paid due refreshed behind earned covered valued booked =>
      have farm := refreshGlobalPool_grows accumulates refreshed
      exact ⟨farm, accumulates booked, behind⟩

end Growth

/-- Running the update again in the same period succeeds and changes neither the pools nor the
chain, and a run never lowers an accumulator. -/
theorem pools_updated_once
    (updated : maybeUpdatePools cfg s globalPool liqPool now = .ok (s', globalPool', liqPool')) :
    maybeUpdatePools cfg s' globalPool' liqPool' now = .ok (s', globalPool', liqPool') ∧
      (cfg.math.Accumulates →
        globalPool.accumulatedRpz ≤ globalPool'.accumulatedRpz ∧
          liqPool.accumulatedRpvs ≤ liqPool'.accumulatedRpvs ∧
          liqPool.accumulatedRpz ≤ liqPool'.accumulatedRpz) := by
  refine ⟨maybeUpdatePools_again updated s', ?_⟩
  intro accumulates
  have grows := maybeUpdatePools_grows accumulates updated
  exact ⟨grows.farm, grows.valued, grows.pool⟩

/-- Ten periods after signer 1's deposit a run raises all three accumulators and pays the
pool; a second run changes nothing. -/
theorem pools_updated_once_accrued :
    ∃ s globalPool liqPool s' globalPool' liqPool', simulate [.blocks 100] = .ok s ∧
      maybeUpdatePools .reference s globalPool liqPool 10 = .ok (s', globalPool', liqPool') ∧
      s'.ledger.free (.palletSubAccount liqPool.id) globalPool.rewardCurrency ≠
        s.ledger.free (.palletSubAccount liqPool.id) globalPool.rewardCurrency ∧
      maybeUpdatePools .reference s' globalPool' liqPool' 10 =
        .ok (s', globalPool', liqPool') ∧
      globalPool.accumulatedRpz < globalPool'.accumulatedRpz ∧
      liqPool.accumulatedRpvs < liqPool'.accumulatedRpvs ∧
      liqPool.accumulatedRpz < liqPool'.accumulatedRpz := by
  have computed : succeedsWith (do
      let s ← simulate [.blocks 100]
      let globalPool ← okOr (s.globalPoolData.lookup 1) .farmNotFound
      let liqPool ← okOr (s.liquidityPoolData.lookup (1, Xyk.getPairId ⟨1, 2⟩))
        .liquidityPoolNotFound
      let updated ← maybeUpdatePools .reference s globalPool liqPool 10
      return (s, globalPool, liqPool, updated)) (fun result => decide
        (result.2.2.2.1.ledger.free (.palletSubAccount result.2.2.1.id)
            result.2.1.rewardCurrency ≠
          result.1.ledger.free (.palletSubAccount result.2.2.1.id) result.2.1.rewardCurrency ∧
        result.2.1.accumulatedRpz ≠ result.2.2.2.2.1.accumulatedRpz ∧
        result.2.2.1.accumulatedRpvs ≠ result.2.2.2.2.2.accumulatedRpvs ∧
        result.2.2.1.accumulatedRpz ≠ result.2.2.2.2.2.accumulatedRpz)) = true := by
    decide +kernel
  simp only [succeedsWith_iff, bind_eq_ok, return_eq_ok, decide_eq_true_eq] at computed
  obtain ⟨_, ⟨s, run, globalPool, -, liqPool, -, ⟨s', globalPool', liqPool'⟩, updated, rfl⟩,
    paid, farm, valued, pool⟩ := computed
  obtain ⟨again, grows⟩ := pools_updated_once updated
  obtain ⟨farmGrows, valuedGrows, poolGrows⟩ :=
    grows (Math.AccumulatesFloor.accumulates Math.reference_lawful.accumulatedRps)
  exact ⟨s, globalPool, liqPool, s', globalPool', liqPool', run, updated, paid, again,
    lt_of_le_of_ne farmGrows farm, lt_of_le_of_ne valuedGrows valued,
    lt_of_le_of_ne poolGrows pool⟩

end Basilisk.LiquidityMining
