/-
# The stake of a pool and the weight of its deposits

A deposit adds its own weight to the stake of its pool, the multiplier times its
valued shares rounded down, and takes its weight out again when it leaves.
Updating the multiplier and resuming a canceled pool weigh all valued shares of
the pool together.  Rounding once loses no more than rounding one by one, so the
stake always covers what the deposits take out of it; what it holds beyond that
is left over when the last of them leaves.
-/

import Basilisk.LiquidityMining.Exit
import Basilisk.LiquidityMining.Writes

namespace Basilisk.LiquidityMining

open Basilisk.Math

section Coverage

variable {cfg : Config} {s : State} {slot : Slot} {past : List (State × Label)}
variable {globalPool : GlobalPool} {liqPool : LiquidityPoolYieldFarm}

/-- The stakes of all pools of a farm fit a machine word. -/
theorem farmsBooked_of_reachable (lawful : cfg.math.Lawful)
    (reachable : Reachable (Initial cfg) (Step cfg) s) : FarmsBooked s := by
  obtain ⟨past, run⟩ := reachable
  have unruled : Guarded (Obeys cfg []) past := fun _ _ _ member => nomatch member
  exact farmsBooked_of_moves lawful (reachable_moves ⟨past, run, unruled⟩)

/-- If an active pool is the only one that was ever added in its slot, its stake covers
the weights of its deposits, and taking any of them out of it succeeds. -/
theorem stake_covers_deposits (lawful : cfg.math.Lawful) (weighs : cfg.math.Weighs)
    (run : Run (Initial cfg) (Step cfg) past s) (once : UsedOnce cfg slot past)
    (farm : s.globalPoolData.lookup slot.1 = some globalPool)
    (pool : s.liquidityPoolData.lookup slot = some liqPool)
    (active : liqPool.canceled = false) :
    tally liqPool.id (fun deposit => FixedU128.mulInt liqPool.multiplier deposit.valuedShares)
        s.depositData ≤ liqPool.stakeInGlobalPool ∧
      ∀ nftId metadata deposit s' globalPool' liqPool' totalShares totalValuedShares,
        s.liquidityPoolMetadata.lookup (poolIdOf nftId) = some metadata →
        metadata.slot cfg = slot → s.depositData.lookup nftId = some deposit →
        maybeUpdatePools cfg s globalPool liqPool (s.period globalPool) =
          .ok (s', globalPool', liqPool') →
        ∃ globalPool'' liqPool'', releaseStake cfg globalPool'
            { liqPool' with totalShares, totalValuedShares } deposit.valuedShares =
          .ok (globalPool'', liqPool'') := by
  have atSlot := slotTallied_of_run lawful run once
  have consistent := consistent_of_reachable ⟨_, run⟩
  have tallied := atSlot.tallied _ pool
  refine ⟨tallied.staked active, ?_⟩
  intro nftId metadata deposit s' globalPool' liqPool' totalShares totalValuedShares known
    leads recorded updated
  have own : poolIdOf nftId = liqPool.id := (atSlot.own _ _ _ known leads pool).symm
  have weight := tallied.weight_le recorded own active
  have held := consistent.stake_le farm pool
  obtain ⟨-, -, ⟨_, _, _, _, rfl⟩, ⟨_, _, _, rfl⟩⟩ := updated_of_maybeUpdatePools updated
  apply releaseStake_succeeds lawful weighs
  · exact fun _ => weight
  · exact held
  · exact (farmsBooked_of_reachable lawful ⟨_, run⟩ _ _ farm).2

/-- Two deposits, an update by which they weigh half, a cancellation and a resumption. -/
theorem stake_covers_deposits_resumed :
    ∃ past s liqPool, simulateRecording [
        .call (.depositShares 2 1 ⟨1, 2⟩ 1), .blocks 10,
        .call (.updateLiquidityPool 0 1 ⟨1, 2⟩ 50000000),
        .call (.cancelLiquidityPool 0 1 ⟨1, 2⟩), .blocks 10,
        .call (.resumeLiquidityPool 0 1 ⟨1, 2⟩ 150000000)] = .ok (past, s) ∧
      s.liquidityPoolData.lookup (1, Xyk.getPairId ⟨1, 2⟩) = some liqPool ∧
      liqPool.stakeInGlobalPool = 1501 ∧
      tally liqPool.id (fun deposit => FixedU128.mulInt liqPool.multiplier
        deposit.valuedShares) s.depositData ≤ 1501 := by
  have computed : succeedsWith (simulateRecording [
      .call (.depositShares 2 1 ⟨1, 2⟩ 1), .blocks 10,
      .call (.updateLiquidityPool 0 1 ⟨1, 2⟩ 50000000),
      .call (.cancelLiquidityPool 0 1 ⟨1, 2⟩), .blocks 10,
      .call (.resumeLiquidityPool 0 1 ⟨1, 2⟩ 150000000)])
      (fun result => decide (UsedOnce .reference (1, Xyk.getPairId ⟨1, 2⟩) result.1) &&
        (result.2.globalPoolData.lookup 1).isSome &&
        (result.2.liquidityPoolData.lookup (1, Xyk.getPairId ⟨1, 2⟩)).any fun liqPool =>
          decide (liqPool.canceled = false) && decide (liqPool.stakeInGlobalPool = 1501)) =
        true := by
    decide +kernel
  simp only [succeedsWith_iff, Bool.and_eq_true, Option.any_eq_true, Option.isSome_iff_exists,
    decide_eq_true_eq] at computed
  obtain ⟨⟨past, s⟩, run, ⟨once, globalPool, farm⟩, liqPool, pool, active, stake⟩ := computed
  obtain ⟨staked, -⟩ := stake_covers_deposits Math.reference_lawful
    Math.reference_checked.globalPoolShares_isSome (run_of_simulate run) once farm pool active
  rw [stake] at staked
  exact ⟨past, s, liqPool, run, pool, stake, staked⟩

end Coverage

/-- Weighing the valued shares of a pool together is weighing its deposits one by one. -/
def WeighsExactly (s : State) (slot : Slot) (multiplier : ℕ) : Prop :=
  ∀ liqPool, s.liquidityPoolData.lookup slot = some liqPool →
    tally liqPool.id (fun deposit => FixedU128.mulInt multiplier deposit.valuedShares)
        s.depositData =
      FixedU128.mulInt multiplier liqPool.totalValuedShares

/-- A call that weighs a whole pool loses nothing to rounding in its deposits. -/
def Label.WeighsExactly (cfg : Config) (s : State) : Label → Prop
  | .call (.updateLiquidityPool _ farmId assetPair multiplier) =>
      LiquidityMining.WeighsExactly s (farmId, cfg.getPairId assetPair) multiplier
  | .call (.resumeLiquidityPool _ farmId assetPair multiplier) =>
      LiquidityMining.WeighsExactly s (farmId, cfg.getPairId assetPair) multiplier
  | _ => True

/-- The stake of every active pool is the weight of its deposits. -/
def ExactlyStaked (σ : Storage) : Prop :=
  ∀ slot liqPool, σ.liquidityPoolData.lookup slot = some liqPool →
    liqPool.canceled = false →
    liqPool.stakeInGlobalPool = tally liqPool.id
      (fun deposit => FixedU128.mulInt liqPool.multiplier deposit.valuedShares) σ.depositData

section Exactness

variable {cfg : Config} {s t : State} {label : Label} {σ τ : Storage}

/-- The deposits of every pool are the same in two tables. -/
theorem ExactlyStaked.aside (staked : ExactlyStaked σ)
    (pools : ∀ slot liqPool, τ.liquidityPoolData.lookup slot = some liqPool →
      σ.liquidityPoolData.lookup slot = some liqPool ∧
        SameMembers liqPool.id σ.depositData τ.depositData) : ExactlyStaked τ := by
  intro slot liqPool pool active
  obtain ⟨stored, members⟩ := pools slot liqPool pool
  rw [members.tally]
  exact staked slot liqPool stored active

/-- One pool is written, and the deposits of all others are left alone. -/
theorem ExactlyStaked.put (staked : ExactlyStaked σ) {slot : Slot}
    {liqPool' : LiquidityPoolYieldFarm}
    (pools : τ.liquidityPoolData = σ.liquidityPoolData.insert slot liqPool')
    (here : liqPool'.canceled = false → liqPool'.stakeInGlobalPool = tally liqPool'.id
      (fun deposit => FixedU128.mulInt liqPool'.multiplier deposit.valuedShares) τ.depositData)
    (others : ∀ place other, place ≠ slot → σ.liquidityPoolData.lookup place = some other →
      SameMembers other.id σ.depositData τ.depositData) : ExactlyStaked τ := by
  unfold ExactlyStaked
  rw [pools]
  refine AList.forall_lookup_insert here ?_
  intro place other distinct stored active
  rw [(others place other distinct stored).tally]
  exact staked place other stored active

theorem Kept.step (lawful : cfg.math.Lawful) (kept : Kept cfg s)
    (obeyed : Obeys cfg [.unusedSlot] s label) (taken : Step cfg s label t) : Kept cfg t := by
  have path := (path_of_step kept.consistent taken).obeys obeyed
  clear taken
  induction path with
  | refl => exact kept
  | tail _ moved ih =>
      obtain ⟨kind, allowed, move⟩ := moved
      exact ih.move lawful move (allowed _ (by decide))

/-- A call that weighs whole pools without loss keeps the stakes exact. -/
theorem ExactlyStaked.writes (lawful : cfg.math.Lawful) (kept : Kept cfg s)
    (staked : ExactlyStaked s.toStorage) {call : Call} (written : Writes cfg s call τ)
    (exactly : (Label.call call).WeighsExactly cfg s) : ExactlyStaked τ := by
  have consistent := kept.consistent
  -- the pools in other slots have other deposits
  have foreign : ∀ {slot : Slot} {liqPool : LiquidityPoolYieldFarm} {place other},
      s.liquidityPoolData.lookup slot = some liqPool → place ≠ slot →
      s.liquidityPoolData.lookup place = some other → liqPool.id ≠ other.id := by
    intro slot liqPool place other pool distinct stored same
    exact distinct (consistent.slot_unique stored pool same.symm)
  cases written with
  | createFarm => exact staked.aside fun _ _ pool => ⟨pool, .refl _ _⟩
  | destroyFarm => exact staked.aside fun _ _ pool => ⟨pool, .refl _ _⟩
  | withdrawUndistributedRewards => exact staked
  | addLiquidityPool =>
      apply staked.put rfl
      · intro _
        symm
        apply tally_eq_zero
        intro nftId deposit recorded
        exact (Nat.lt_succ_of_le (consistent.poolIdOf_le recorded)).ne
      · intro _ _ _ _
        exact .refl _ _
  | updateLiquidityPool settling active weighed =>
      obtain ⟨_, _, _, rfl⟩ := settling.poolKept
      apply staked.put rfl
      · intro _
        rw [lawful.globalPoolShares weighed]
        exact (exactly _ settling.pool).symm
      · intro _ _ _ _
        exact .refl _ _
  | cancelLiquidityPool =>
      apply staked.put rfl
      · nofun
      · intro _ _ _ _
        exact .refl _ _
  | resumeLiquidityPool farm pool idle refreshed weighed =>
      apply staked.put rfl
      · intro _
        rw [lawful.globalPoolShares weighed]
        exact (exactly _ pool).symm
      · intro _ _ _ _
        exact .refl _ _
  | removeLiquidityPool =>
      apply staked.aside
      intro slot liqPool pool
      rw [AList.lookup_erase_eq_ite] at pool
      split_ifs at pool
      exact ⟨pool, .refl _ _⟩
  | @depositShares key farmId amount valuedShares stake assetPair _ _ liqPool _ _ metadata
      settling active weighed sequenced known =>
      obtain ⟨_, _, _, rfl⟩ := settling.poolKept
      have word := consistent.liqPoolId_lt known
      have mine : poolIdOf (encodeNftId liqPool.id (s.nftInstanceSequencer + 1)) = liqPool.id :=
        poolIdOf_encodeNftId word _
      have fresh := consistent.nftId_fresh word sequenced
      apply staked.put rfl
      · intro _
        have before := staked _ _ settling.pool active
        dsimp only [Storage.put]
        rw [tally_insert_of_none fresh mine, ← before, lawful.globalPoolShares weighed]
        rfl
      · intro place other distinct stored
        exact sameMembers_insert (by rw [mine]; exact foreign settling.pool distinct stored) _
  | @claimRewards key nftId claimed metadata _ _ liqPool _ _ deposit known recorded settling
      active =>
      obtain ⟨_, _, _, rfl⟩ := settling.poolKept
      have mine : poolIdOf nftId = liqPool.id := (kept.own _ _ _ known settling.pool).symm
      apply staked.put rfl
      · intro _
        have before := staked _ _ settling.pool active
        exact before.trans (tally_rewrite recorded mine _ rfl).symm
      · intro place other distinct stored
        exact sameMembers_insert (by rw [mine]; exact foreign settling.pool distinct stored) _
  | @withdrawShares key nftId stake metadata _ _ liqPool _ _ deposit known recorded settling
      released held =>
      obtain ⟨_, _, _, rfl⟩ := settling.poolKept
      have mine : poolIdOf nftId = liqPool.id := (kept.own _ _ _ known settling.pool).symm
      apply staked.put rfl
      · intro active
        have before := staked _ _ settling.pool active
        have erased := tally_erase recorded mine fun deposit =>
          FixedU128.mulInt liqPool.multiplier deposit.valuedShares
        obtain ⟨canceled, -⟩ | ⟨-, weighed⟩ := released
        · exact absurd (active.symm.trans canceled) nofun
        · have weight := lawful.globalPoolShares weighed
          dsimp only [Storage.put] at erased weight ⊢
          omega
      · intro place other distinct stored
        exact sameMembers_erase (by rw [mine]; exact foreign settling.pool distinct stored)
          recorded
  | @withdrawUnsettled key nftId metadata deposit known recorded vacant counted =>
      apply staked.aside
      intro slot liqPool pool
      refine ⟨pool, sameMembers_erase ?_ recorded⟩
      -- a pool with the id of the deposit would be in the slot of its metadata
      intro same
      obtain ⟨found, stored, leads⟩ := (consistent.pools _ _ pool).known
      rw [← same, known, Option.some.injEq] at stored
      subst stored leads
      exact absurd (vacant.symm.trans pool) nofun

/-- The conditions under which no stake is left over: pools are added in unused slots and
weighed without loss. -/
def LeavesNoStake (cfg : Config) (s : State) (label : Label) : Prop :=
  Obeys cfg [.unusedSlot] s label ∧ label.WeighsExactly cfg s

theorem exactlyStaked_of_reachable (lawful : cfg.math.Lawful)
    (reachable : ReachableUnder (Initial cfg) (Step cfg) (LeavesNoStake cfg) s) :
    Kept cfg s ∧ ExactlyStaked s.toStorage := by
  apply ReachableUnder.invariant (fun s => Kept cfg s ∧ ExactlyStaked s.toStorage) _ _ reachable
  · intro s initial
    refine ⟨initial.kept, ?_⟩
    intro slot liqPool pool
    rw [initial.liquidityPoolData] at pool
    exact absurd pool nofun
  · rintro s label t ⟨kept, staked⟩ ⟨obeyed, exactly⟩ taken
    refine ⟨kept.step lawful obeyed taken, ?_⟩
    cases label with
    | external env =>
        obtain ⟨-, rfl⟩ := taken
        exact staked
    | call call =>
        exact staked.writes lawful kept (writes_of_dispatch kept.consistent taken) exactly

/-- If pools are added in unused slots and weighed without loss, a pool without valued
shares has no stake, and bringing it up to date takes nothing from its farm. -/
theorem empty_pool_unstaked (lawful : cfg.math.Lawful)
    (reachable : ReachableUnder (Initial cfg) (Step cfg) (LeavesNoStake cfg) s) :
    ∀ slot liqPool, s.liquidityPoolData.lookup slot = some liqPool →
      liqPool.totalValuedShares = 0 →
      liqPool.stakeInGlobalPool = 0 ∧
        ∀ globalPool now s' globalPool' liqPool',
          maybeUpdatePools cfg s globalPool liqPool now = .ok (s', globalPool', liqPool') →
          s'.ledger = s.ledger ∧
            globalPool'.paidAccumulatedRewards = globalPool.paidAccumulatedRewards := by
  intro slot liqPool pool empty
  obtain ⟨kept, staked⟩ := exactlyStaked_of_reachable lawful reachable
  have unstaked : liqPool.stakeInGlobalPool = 0 := by
    cases canceled : liqPool.canceled with
    | true => exact (kept.consistent.pools _ _ pool).idle canceled
    | false =>
        have weightless := tally_mulInt_le liqPool.multiplier liqPool.id s.depositData
        rw [(kept.tallied _ _ pool).valuedShares, empty, FixedU128.mulInt_zero] at weightless
        rw [staked _ _ pool canceled]
        exact Nat.le_zero.mp weightless
  refine ⟨unstaked, ?_⟩
  intro globalPool now s' globalPool' liqPool' updated
  cases broughtUp_of_maybeUpdatePools updated with
  | idle => exact ⟨rfl, rfl⟩
  | unvalued due refreshed behind earned =>
      rw [unstaked, Nat.mul_zero] at earned
      subst earned
      obtain ⟨⟨_, -, rfl⟩, _, _, _, rfl⟩ := refreshGlobalPool_frame refreshed
      exact ⟨rfl, rfl⟩
  | paid due refreshed behind earned covered valued => exact absurd empty valued

instance (slot : Slot) (multiplier : ℕ) : Decidable (WeighsExactly s slot multiplier) :=
  inferInstanceAs (Decidable (∀ liqPool ∈ s.liquidityPoolData.lookup slot,
    tally liqPool.id (fun deposit => FixedU128.mulInt multiplier deposit.valuedShares)
      s.depositData = FixedU128.mulInt multiplier liqPool.totalValuedShares))

instance (s : State) : (label : Label) → Decidable (label.WeighsExactly cfg s)
  | .call (.updateLiquidityPool _ farmId assetPair multiplier)
  | .call (.resumeLiquidityPool _ farmId assetPair multiplier) =>
      inferInstanceAs (Decidable
        (LiquidityMining.WeighsExactly s (farmId, cfg.getPairId assetPair) multiplier))
  | .external .. | .call (.createFarm ..) | .call (.destroyFarm ..)
  | .call (.withdrawUndistributedRewards ..) | .call (.addLiquidityPool ..)
  | .call (.cancelLiquidityPool ..) | .call (.removeLiquidityPool ..)
  | .call (.depositShares ..) | .call (.claimRewards ..) | .call (.withdrawShares ..) =>
      isTrue trivial

instance (s : State) (label : Label) : Decidable (LeavesNoStake cfg s label) :=
  inferInstanceAs (Decidable (Obeys cfg [.unusedSlot] s label ∧ label.WeighsExactly cfg s))

/-- Two deposits weigh half of what they did, without loss, and leave. -/
theorem empty_pool_unstaked_even :
    ∃ past s liqPool, simulateRecording [
        .call (.addLiquidityPool 0 1 ⟨1, 3⟩ FixedU128.one none),
        .call (.depositShares 2 1 ⟨1, 3⟩ 2), .call (.depositShares 2 1 ⟨1, 3⟩ 4), .blocks 10,
        .call (.updateLiquidityPool 0 1 ⟨1, 3⟩ 50000000),
        .call (.withdrawShares 2 (encodeNftId 3 2)),
        .call (.withdrawShares 2 (encodeNftId 3 3))] = .ok (past, s) ∧
      s.liquidityPoolData.lookup (1, Xyk.getPairId ⟨1, 3⟩) = some liqPool ∧
      liqPool.multiplier = 50000000 ∧ liqPool.stakeInGlobalPool = 0 := by
  have computed : succeedsWith (simulateRecording [
      .call (.addLiquidityPool 0 1 ⟨1, 3⟩ FixedU128.one none),
      .call (.depositShares 2 1 ⟨1, 3⟩ 2), .call (.depositShares 2 1 ⟨1, 3⟩ 4), .blocks 10,
      .call (.updateLiquidityPool 0 1 ⟨1, 3⟩ 50000000),
      .call (.withdrawShares 2 (encodeNftId 3 2)),
      .call (.withdrawShares 2 (encodeNftId 3 3))])
      (fun result => decide (Guarded (LeavesNoStake .reference) result.1) &&
        (result.2.liquidityPoolData.lookup (1, Xyk.getPairId ⟨1, 3⟩)).any fun liqPool =>
          decide (liqPool.totalValuedShares = 0) && decide (liqPool.multiplier = 50000000)) =
        true := by
    decide +kernel
  simp only [succeedsWith_iff, Bool.and_eq_true, Option.any_eq_true, decide_eq_true_eq]
    at computed
  obtain ⟨⟨past, s⟩, run, guarded, liqPool, pool, empty, halved⟩ := computed
  obtain ⟨unstaked, -⟩ := empty_pool_unstaked Math.reference_lawful
    ⟨past, run_of_simulate run, guarded⟩ _ _ pool empty
  exact ⟨past, s, liqPool, run, pool, halved, unstaked⟩

/-- Two deposits of one valued unit each weigh one together and nothing alone: when both
have left the empty pool keeps a stake of one. -/
theorem empty_pool_staked :
    ¬ ∀ cfg s, cfg.math.Lawful → Reachable (Initial cfg) (Step cfg) s →
      ∀ slot liqPool, s.liquidityPoolData.lookup slot = some liqPool →
        liqPool.totalValuedShares = 0 → liqPool.stakeInGlobalPool = 0 := by
  intro claim
  have computed : succeedsWith (simulate [
      .call (.addLiquidityPool 0 1 ⟨1, 3⟩ FixedU128.one none),
      .call (.depositShares 2 1 ⟨1, 3⟩ 1), .call (.depositShares 2 1 ⟨1, 3⟩ 1), .blocks 10,
      .call (.updateLiquidityPool 0 1 ⟨1, 3⟩ 50000000),
      .call (.withdrawShares 2 (encodeNftId 3 2)),
      .call (.withdrawShares 2 (encodeNftId 3 3))])
      (fun s => (s.liquidityPoolData.lookup (1, Xyk.getPairId ⟨1, 3⟩)).any fun liqPool =>
        decide (liqPool.totalValuedShares = 0) && decide (liqPool.stakeInGlobalPool = 1)) =
        true := by
    decide +kernel
  simp only [succeedsWith_iff, Bool.and_eq_true, Option.any_eq_true, decide_eq_true_eq]
    at computed
  obtain ⟨s, run, liqPool, pool, empty, stake⟩ := computed
  have unstaked := claim .reference s Math.reference_lawful (reachable_of_simulate run) _ _ pool
    empty
  rw [stake] at unstaked
  cases unstaked

end Exactness

end Basilisk.LiquidityMining
