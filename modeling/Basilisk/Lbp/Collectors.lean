/-
# The registry of fee collectors

The registry of fee collectors is a second index over the pools: an account that
collects fees in an asset is registered exactly while a pool pays them to it, and
no two pools pay the same account in the same asset.
-/

import Basilisk.Lbp.Reference
import Basilisk.Math.UniqueIndex

namespace Basilisk.Lbp

open Basilisk.Math

variable {cfg : Config} {s t : State} {call : Call} {label : Label} {pool : Pool}

/-- The registry is an exact index of the pools by their collectors. -/
def Registered (s : State) : Prop :=
  UniqueIndex Pool.collector true s.poolData s.feeCollectorWithAsset

theorem Registered.effect (registered : Registered s) (effect : Effect cfg s call t) :
    Registered t := by
  cases effect with
  | created fresh _ unused =>
      refine UniqueIndex.insert registered fresh ?_
      rw [unused]
      simp
  | updated stored _ _ registers =>
      cases registers with
      | kept same => exact UniqueIndex.rewrite registered stored same
      | replaced unused => exact UniqueIndex.move registered stored unused
  | funded => exact registered
  | removed stored => exact UniqueIndex.erase registered stored
  | traded => exact registered

theorem Registered.step (registered : Registered s) (taken : Step cfg s label t) :
    Registered t := by
  cases label with
  | call call => exact registered.effect (effect_of_dispatch taken)
  | external blockNumber ledger =>
      rcases taken with ⟨-, rfl⟩
      exact registered

theorem registered_of_reachable (reachable : Reachable Initial (Step cfg) s) : Registered s := by
  refine reachable.invariant Registered ?_ fun _ _ _ registered taken => registered.step taken
  intro s initial
  unfold Registered
  rw [initial.poolData, initial.feeCollectorWithAsset]
  exact UniqueIndex.empty

/-- An account is registered as the collector of an asset exactly if one pool pays it fees in
that asset, no two pools do, and the registry keeps no entries that are switched off. -/
theorem feeCollectors_exact (reachable : Reachable Initial (Step cfg) s) :
    (∀ account asset, s.feeCollectorWithAsset.lookup (account, asset) = some true ↔
      ∃! poolId, ∃ pool, s.poolData.lookup poolId = some pool ∧
        pool.feeCollector = account ∧ pool.assets.1 = asset) ∧
    (∀ account asset, s.feeCollectorWithAsset.lookup (account, asset) ≠ some false) ∧
    ∀ poolId poolId' pool pool', s.poolData.lookup poolId = some pool →
      s.poolData.lookup poolId' = some pool' → pool.feeCollector = pool'.feeCollector →
      pool.assets.1 = pool'.assets.1 → poolId = poolId' := by
  have registered := registered_of_reachable reachable
  refine ⟨?_, ?_, ?_⟩
  · intro account asset
    have unique := registered.marked_iff_existsUnique (i := (account, asset))
    simpa only [Pool.collector, Prod.mk.injEq] using unique
  · intro account asset off
    cases registered.marked _ _ off
  · intro poolId poolId' pool pool' stored stored' account asset
    exact registered.unique _ _ _ _ stored stored' (Prod.ext account asset)

/-- Signer 5 collects asset 1 in one pool and asset 3 in another; then the first pool is given
to signer 6 to collect, and signer 5 is no longer registered for asset 1. -/
theorem feeCollectors_exact_moved :
    ∃ s, simulate [.call (.createPool bootstrapping),
        .call (.createPool { bootstrapping with assetA := 3 }),
        .call (.updatePoolData 0 (getPairId ⟨1, 2⟩)
          { noUpdate with feeCollector := some (.signer 6) })] = .ok s ∧
      s.feeCollectorWithAsset.lookup (.signer 6, 1) = some true ∧
      (∃! poolId, ∃ pool, s.poolData.lookup poolId = some pool ∧
        pool.feeCollector = .signer 6 ∧ pool.assets.1 = 1) ∧
      ¬ ∃! poolId, ∃ pool, s.poolData.lookup poolId = some pool ∧
        pool.feeCollector = .signer 5 ∧ pool.assets.1 = 1 := by
  have computed : succeedsWith (simulate [.call (.createPool bootstrapping),
        .call (.createPool { bootstrapping with assetA := 3 }),
        .call (.updatePoolData 0 (getPairId ⟨1, 2⟩)
          { noUpdate with feeCollector := some (.signer 6) })])
      (fun s => decide (s.feeCollectorWithAsset.lookup (.signer 6, 1) = some true) &&
        decide (s.feeCollectorWithAsset.lookup (.signer 5, 1) = none)) = true := by
    decide +kernel
  simp only [succeedsWith_iff, Bool.and_eq_true, decide_eq_true_eq] at computed
  obtain ⟨s, run, registered, left⟩ := computed
  have exact := (feeCollectors_exact (reachable_of_simulate run)).1
  refine ⟨s, run, registered, (exact _ _).mp registered, ?_⟩
  rw [← exact, left]
  simp

end Basilisk.Lbp
