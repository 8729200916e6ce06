/-
# Totals

Farms and pools keep running totals of what is recorded below them: a farm the
stakes of its pools, a pool the shares and the valued shares of its deposits.
The stakes always add up.  The shares add up as long as no pool is added in a slot
that earlier deposits still lead to.
-/

import Basilisk.LiquidityMining.PoolChanges
import Basilisk.LiquidityMining.Reference

namespace Basilisk.LiquidityMining

open Basilisk.Math

section Stakes

variable {cfg : Config} {s : State}

/-- The stake of a farm is the sum of the stakes of its pools, and a canceled pool has
none. -/
theorem totalSharesZ_eq_stakes (reachable : Reachable (Initial cfg) (Step cfg) s) :
    (∀ farmId globalPool, s.globalPoolData.lookup farmId = some globalPool →
      globalPool.totalSharesZ = stakesOf farmId s.liquidityPoolData) ∧
    ∀ slot liqPool, s.liquidityPoolData.lookup slot = some liqPool →
      liqPool.canceled = true → liqPool.stakeInGlobalPool = 0 := by
  have consistent := consistent_of_reachable reachable
  constructor
  · intro farmId globalPool farm
    exact (consistent.farms _ _ farm).staked
  · intro slot liqPool pool canceled
    exact (consistent.pools _ _ pool).idle canceled

/-- Two pools, one of them canceled: the stake of the farm is that of the other. -/
theorem totalSharesZ_after_cancel :
    ∃ s globalPool, simulate [.call (.addLiquidityPool 0 1 ⟨1, 3⟩ FixedU128.one none),
        .call (.depositShares 2 1 ⟨1, 3⟩ 500), .blocks 10,
        .call (.cancelLiquidityPool 0 1 ⟨1, 2⟩)] = .ok s ∧
      s.globalPoolData.lookup 1 = some globalPool ∧ globalPool.totalSharesZ ≠ 0 ∧
      globalPool.totalSharesZ = stakesOf 1 s.liquidityPoolData := by
  have computed : succeedsWith
      (simulate [.call (.addLiquidityPool 0 1 ⟨1, 3⟩ FixedU128.one none),
        .call (.depositShares 2 1 ⟨1, 3⟩ 500), .blocks 10,
        .call (.cancelLiquidityPool 0 1 ⟨1, 2⟩)])
      (fun s => (s.globalPoolData.lookup 1).any fun globalPool =>
        globalPool.totalSharesZ ≠ 0) = true := by
    decide +kernel
  simp only [succeedsWith_iff, Option.any_eq_true, decide_eq_true_eq] at computed
  obtain ⟨s, run, globalPool, farm, staked⟩ := computed
  exact ⟨s, globalPool, run, farm, staked,
    (totalSharesZ_eq_stakes (reachable_of_simulate run)).1 1 globalPool farm⟩

end Stakes

section Shares

variable {cfg : Config} {s : State}

/-- If pools are added only where no earlier deposit leads, the totals of a pool are
the sums over its deposits, and a withdrawal from it can take its shares out of both
of them. -/
theorem pool_totals_eq_tallies (lawful : cfg.math.Lawful)
    (reachable : ReachableUnder (Initial cfg) (Step cfg) (Obeys cfg [.unusedSlot]) s) :
    ∀ slot liqPool, s.liquidityPoolData.lookup slot = some liqPool →
      liqPool.totalShares = tally liqPool.id Deposit.shares s.depositData ∧
      liqPool.totalValuedShares = tally liqPool.id Deposit.valuedShares s.depositData ∧
      ∀ nftId metadata deposit,
        s.liquidityPoolMetadata.lookup (poolIdOf nftId) = some metadata →
        metadata.slot cfg = slot → s.depositData.lookup nftId = some deposit →
        ∀ globalPool now s' globalPool' liqPool',
          maybeUpdatePools cfg s globalPool liqPool now = .ok (s', globalPool', liqPool') →
          (checkedSub liqPool'.totalShares deposit.shares).isSome = true ∧
            (checkedSub liqPool'.totalValuedShares deposit.valuedShares).isSome = true := by
  have kept := kept_of_moves lawful (reachable_moves reachable)
  intro slot liqPool pool
  have tallied := kept.tallied slot liqPool pool
  refine ⟨tallied.shares.symm, tallied.valuedShares.symm, ?_⟩
  intro nftId metadata deposit known place recorded globalPool now s' globalPool' liqPool' called
  have own : poolIdOf nftId = liqPool.id := (kept.own.at slot _ _ _ known place pool).symm
  have shares := tallied.shares_le recorded own
  have valuedShares := tallied.valuedShares_le recorded own
  -- bringing the pools up to date does not touch the totals
  obtain ⟨_, _, _, rfl⟩ := (updated_of_maybeUpdatePools called).poolKept
  exact ⟨Option.isSome_iff_exists.mpr ⟨_, checkedSub_eq_some.mpr ⟨shares, rfl⟩⟩,
    Option.isSome_iff_exists.mpr ⟨_, checkedSub_eq_some.mpr ⟨valuedShares, rfl⟩⟩⟩

/-- The slot is used again after the deposit of the removed pool has left. -/
theorem pool_totals_eq_tallies_reused :
    ∃ s liqPool, simulateObeying [.unusedSlot] [.blocks 10,
        .call (.cancelLiquidityPool 0 1 ⟨1, 2⟩), .call (.removeLiquidityPool 0 1 ⟨1, 2⟩),
        .call (.withdrawShares 1 (encodeNftId 2 1)),
        .call (.addLiquidityPool 0 1 ⟨1, 2⟩ FixedU128.one none),
        .call (.depositShares 2 1 ⟨1, 2⟩ 2000), .call (.depositShares 1 1 ⟨1, 2⟩ 500)] =
          .ok s ∧
      s.liquidityPoolData.lookup (1, Xyk.getPairId ⟨1, 2⟩) = some liqPool ∧
      liqPool.totalShares = 2500 ∧
      liqPool.totalShares = tally liqPool.id Deposit.shares s.depositData := by
  have computed : succeedsWith
      (simulateObeying [.unusedSlot] [.blocks 10,
        .call (.cancelLiquidityPool 0 1 ⟨1, 2⟩), .call (.removeLiquidityPool 0 1 ⟨1, 2⟩),
        .call (.withdrawShares 1 (encodeNftId 2 1)),
        .call (.addLiquidityPool 0 1 ⟨1, 2⟩ FixedU128.one none),
        .call (.depositShares 2 1 ⟨1, 2⟩ 2000), .call (.depositShares 1 1 ⟨1, 2⟩ 500)])
      (fun s => (s.liquidityPoolData.lookup (1, Xyk.getPairId ⟨1, 2⟩)).any fun liqPool =>
        liqPool.totalShares = 2500) = true := by
    decide +kernel
  simp only [succeedsWith_iff, Option.any_eq_true, decide_eq_true_eq] at computed
  obtain ⟨s, run, liqPool, pool, shares⟩ := computed
  exact ⟨s, liqPool, run, pool, shares, (pool_totals_eq_tallies Math.reference_lawful
    (reachableUnder_of_simulate run) _ liqPool pool).1⟩

/-- A pool is removed and added again while its deposit stays.  The deposit leaves
through the new pool, whose deposit of 2000 shares is then counted as 1000. -/
theorem pool_totals_ne_tallies :
    ¬ ∀ cfg s, cfg.math.Lawful → Reachable (Initial cfg) (Step cfg) s →
      ∀ slot liqPool, s.liquidityPoolData.lookup slot = some liqPool →
        liqPool.totalShares = tally liqPool.id Deposit.shares s.depositData := by
  intro claim
  have computed : succeedsWith
      (simulate [.blocks 10, .call (.cancelLiquidityPool 0 1 ⟨1, 2⟩),
        .call (.removeLiquidityPool 0 1 ⟨1, 2⟩),
        .call (.addLiquidityPool 0 1 ⟨1, 2⟩ FixedU128.one none),
        .call (.depositShares 2 1 ⟨1, 2⟩ 2000),
        .call (.withdrawShares 1 (encodeNftId 2 1))])
      (fun s => (s.liquidityPoolData.lookup (1, Xyk.getPairId ⟨1, 2⟩)).any fun liqPool =>
        liqPool.totalShares = 1000 &&
          tally liqPool.id Deposit.shares s.depositData = 2000) = true := by
    decide +kernel
  simp only [succeedsWith_iff, Bool.and_eq_true, Option.any_eq_true, decide_eq_true_eq]
    at computed
  obtain ⟨s, run, liqPool, pool, counted, recorded⟩ := computed
  have equal := claim .reference s Math.reference_lawful (reachable_of_simulate run) _ liqPool
    pool
  rw [counted, recorded] at equal
  exact absurd equal (by decide)

end Shares

end Basilisk.LiquidityMining
