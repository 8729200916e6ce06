/-
# Deposits in one pool and the rewards of another

The pools of a farm share its total stake.  A deposit adds to that stake, so the
farm has to be brought up to date with the old stake first; a pool that is empty,
or was already updated in the period, skips that.  This module says exactly when a
deposit changes what another pool is paid in the same period.
-/

import Basilisk.LiquidityMining.Entry
import Basilisk.LiquidityMining.Payouts

namespace Basilisk.LiquidityMining

open Basilisk.Math

variable {cfg : Config} {s s' t : State} {farmId key amount reward reward' : ℕ} {slot : Slot}
variable {assetPair : AssetPair} {globalPool globalPool' : GlobalPool}
variable {liqPool liqPool' : LiquidityPoolYieldFarm}

/-- What bringing the pool in a slot up to date moves into its account. -/
def movedIn (cfg : Config) (s : State) (slot : Slot) : Except Error ℕ := do
  let globalPool ← okOr (s.globalPoolData.lookup slot.1) .farmNotFound
  let liqPool ← okOr (s.liquidityPoolData.lookup slot) .liquidityPoolNotFound
  let (s', _, _) ← maybeUpdatePools cfg s globalPool liqPool (s.period globalPool)
  return s'.ledger.free (.palletSubAccount liqPool.id) globalPool.rewardCurrency -
    s.ledger.free (.palletSubAccount liqPool.id) globalPool.rewardCurrency

/-- The reward per share that the formulas give a farm for the periods since its last update:
the yield on its stake, up to the maximum and to what is left in its account. -/
def accruedRpz (cfg : Config) (s : State) (globalPool : GlobalPool) : Option ℕ :=
  if globalPool.totalSharesZ = 0 ∨ globalPool.updatedAt = s.period globalPool then
    some globalPool.accumulatedRpz
  else do
    let rewardPerPeriod ← cfg.math.calculateGlobalPoolRewardPerPeriod
      globalPool.yieldPerPeriod.toFixed globalPool.totalSharesZ globalPool.maxRewardPerPeriod
    let reward := min ((s.period globalPool - globalPool.updatedAt) * rewardPerPeriod)
      (s.ledger.free (.palletSubAccount globalPool.id) globalPool.rewardCurrency)
    if reward = 0 then some globalPool.accumulatedRpz
    else cfg.math.calculateAccumulatedRps globalPool.accumulatedRpz globalPool.totalSharesZ reward

/-- A deposit in another pool of the farm leaves the rewards of the pool in the slot alone: the
pool has nothing to collect in this period anyway, the other pool is due and so brings the farm
up to date, or the farm accrues as much per share with the new stake as without it. -/
def Undisturbed (cfg : Config) (s : State) (slot : Slot) (assetPair : AssetPair) (amount : ℕ) :
    Prop :=
  ∀ globalPool ∈ s.globalPoolData.lookup slot.1, ∀ liqPool ∈ s.liquidityPoolData.lookup slot,
    ∀ other ∈ s.liquidityPoolData.lookup (slot.1, cfg.getPairId assetPair),
      ¬ liqPool.IsDue (s.period globalPool) ∨ liqPool.totalValuedShares = 0 ∨
        liqPool.stakeInGlobalPool = 0 ∨ other.IsDue (s.period globalPool) ∨
        ∀ stake ∈ cfg.math.calculateGlobalPoolShares
            (amount * s.ledger.free (cfg.getPairId assetPair) globalPool.incentivizedAsset)
            other.multiplier,
          accruedRpz cfg s { globalPool with totalSharesZ := globalPool.totalSharesZ + stake } =
            accruedRpz cfg s globalPool

instance : Decidable (Undisturbed cfg s slot assetPair amount) :=
  inferInstanceAs (Decidable (∀ globalPool ∈ s.globalPoolData.lookup slot.1,
    ∀ liqPool ∈ s.liquidityPoolData.lookup slot,
    ∀ other ∈ s.liquidityPoolData.lookup (slot.1, cfg.getPairId assetPair),
      ¬ liqPool.IsDue (s.period globalPool) ∨ liqPool.totalValuedShares = 0 ∨
        liqPool.stakeInGlobalPool = 0 ∨ other.IsDue (s.period globalPool) ∨
        ∀ stake ∈ cfg.math.calculateGlobalPoolShares
            (amount * s.ledger.free (cfg.getPairId assetPair) globalPool.incentivizedAsset)
            other.multiplier,
          accruedRpz cfg s { globalPool with totalSharesZ := globalPool.totalSharesZ + stake } =
            accruedRpz cfg s globalPool))

section Accrual

/-- Bringing a farm up to date takes its reward per share to the accrued one. -/
theorem accruedRpz_of_refresh
    (refreshed : refreshGlobalPool cfg s globalPool (s.period globalPool) =
      .ok (s', globalPool')) :
    accruedRpz cfg s globalPool = some globalPool'.accumulatedRpz := by
  unfold refreshGlobalPool at refreshed
  unfold accruedRpz
  split_ifs at refreshed with due
  · rcases due with ⟨staked, stale⟩
    rw [if_neg (not_or.mpr ⟨staked, stale⟩)]
    simp only [updateGlobalPool, if_neg stale, if_neg staked, bind_eq_ok, okOr_eq_ok,
      checkedSub_eq_some, checkedMul_eq_some, poolAccountId_eq_ok, return_eq_ok] at refreshed
    obtain ⟨rewardPerPeriod, rate, _, ⟨-, rfl⟩, _, ⟨-, rfl⟩, _, ⟨-, rfl⟩, accrued, booked,
      written⟩ := refreshed
    rcases Prod.mk.inj written with ⟨-, rfl⟩
    rw [rate]
    show (if _ = 0 then _ else _) = some accrued.accumulatedRpz
    unfold accrueReward at booked
    split_ifs at booked ⊢
    · rw [return_eq_ok] at booked
      rw [booked]
    · simp only [bind_eq_ok, okOr_eq_ok, return_eq_ok] at booked
      obtain ⟨_, computed, _, -, rfl⟩ := booked
      exact computed
  · rw [return_eq_ok, Prod.mk.injEq] at refreshed
    rcases refreshed with ⟨-, rfl⟩
    rw [if_pos]
    by_contra untouched
    exact due (not_or.mp untouched)

/-- A due pool brings its staked farm up to date. -/
theorem current_of_maybeUpdatePools
    (called : maybeUpdatePools cfg s globalPool liqPool (s.period globalPool) =
      .ok (s', globalPool', liqPool'))
    (due : liqPool.IsDue (s.period globalPool)) (staked : globalPool.totalSharesZ ≠ 0) :
    globalPool'.updatedAt = s.period globalPool ∧
      accruedRpz cfg s globalPool = some globalPool'.accumulatedRpz := by
  have reaches : ∀ {mid midPool},
      refreshGlobalPool cfg s globalPool (s.period globalPool) = .ok (mid, midPool) →
      midPool.updatedAt = s.period globalPool ∧
        accruedRpz cfg s globalPool = some midPool.accumulatedRpz := by
    intro mid midPool refreshed
    refine ⟨?_, accruedRpz_of_refresh refreshed⟩
    rcases refreshGlobalPool_ok refreshed with
      ⟨-, rfl, idle⟩ | ⟨_, _, _, -, -, -, -, -, -, -, rfl⟩
    · exact idle.resolve_left staked
    · rfl
  cases broughtUp_of_maybeUpdatePools called with
  | idle undue => exact absurd due undue
  | unvalued _ refreshed =>
      have reached := reaches refreshed
      exact reached
  | paid _ refreshed =>
      have reached := reaches refreshed
      exact reached

/-- A farm that was updated in the period accrues nothing more. -/
theorem accruedRpz_of_current (current : globalPool.updatedAt = s.period globalPool) :
    accruedRpz cfg s globalPool = some globalPool.accumulatedRpz := by
  rw [accruedRpz, if_pos (.inr current)]

/-- What a farm accrues depends on the state through the block and the farm's balance. -/
theorem accruedRpz_congr (block : t.blockNumber = s.blockNumber)
    (balance : t.ledger.free (.palletSubAccount globalPool.id) globalPool.rewardCurrency =
      s.ledger.free (.palletSubAccount globalPool.id) globalPool.rewardCurrency) :
    accruedRpz cfg t globalPool = accruedRpz cfg s globalPool := by
  have period : t.period globalPool = s.period globalPool := by
    rw [State.period, State.period, block]
  rw [accruedRpz, accruedRpz, period, balance]

end Accrual

section Collected

/-- What a pool collects: nothing if it is not due or has no valued shares, and otherwise what
its stake earned since it was last brought up to date. -/
structure Collects (cfg : Config) (s : State) (globalPool : GlobalPool)
    (liqPool : LiquidityPoolYieldFarm) (reward : ℕ) : Prop where
  idle : ¬ (liqPool.IsDue (s.period globalPool) ∧ liqPool.totalValuedShares ≠ 0) → reward = 0
  earned : liqPool.IsDue (s.period globalPool) ∧ liqPool.totalValuedShares ≠ 0 →
    ∃ rpz, accruedRpz cfg s globalPool = some rpz ∧ liqPool.accumulatedRpz ≤ rpz ∧
      reward = (rpz - liqPool.accumulatedRpz) * liqPool.stakeInGlobalPool

theorem pool_of_movedIn (moved : movedIn cfg s slot = .ok reward) :
    ∃ liqPool, s.liquidityPoolData.lookup slot = some liqPool := by
  simp only [movedIn, bind_eq_ok, okOr_eq_ok] at moved
  obtain ⟨_, -, liqPool, pool, -⟩ := moved
  exact ⟨liqPool, pool⟩

theorem collects_of_movedIn (consistent : Consistent cfg s.blockNumber s.toStorage)
    (farm : s.globalPoolData.lookup slot.1 = some globalPool)
    (pool : s.liquidityPoolData.lookup slot = some liqPool)
    (moved : movedIn cfg s slot = .ok reward) : Collects cfg s globalPool liqPool reward := by
  simp only [movedIn, farm, pool, bind_eq_ok, okOr_eq_ok, Option.some.injEq, exists_eq_left',
    return_eq_ok] at moved
  obtain ⟨⟨s', _, _⟩, called, rfl⟩ := moved
  cases broughtUp_of_maybeUpdatePools called with
  | idle undue => exact ⟨fun _ => Nat.sub_self _, fun due => absurd due.1 undue⟩
  | unvalued due refreshed _ _ _ worthless =>
      rcases refreshGlobalPool_frame refreshed with ⟨⟨_, -, rfl⟩, -⟩
      exact ⟨fun _ => Nat.sub_self _, fun due => absurd worthless due.2⟩
  | paid due refreshed behind earned _ valued _ transferred =>
      refine ⟨fun idle => absurd ⟨due, valued⟩ idle, fun _ => ?_⟩
      refine ⟨_, accruedRpz_of_refresh refreshed, behind, ?_⟩
      rcases refreshGlobalPool_frame refreshed with ⟨⟨_, -, rfl⟩, _, _, _, rfl⟩
      have accounts : AccountId.palletSubAccount globalPool.id ≠ .palletSubAccount liqPool.id :=
        fun same => consistent.ids_ne farm pool (AccountId.palletSubAccount.inj same)
      have gained := Ledger.free_transfer_receiver transferred accounts
      dsimp only at gained earned ⊢
      omega

end Collected

section Deposited

/-- A deposit brings the pool up to date, adds the stake of the deposit to the farm, and moves
nothing but the shares. -/
structure Deposited (cfg : Config) (s : State) (farmId : ℕ) (assetPair : AssetPair)
    (amount : ℕ) (globalPool : GlobalPool) (other : LiquidityPoolYieldFarm) (s' : State)
    (globalPool' : GlobalPool) (other' : LiquidityPoolYieldFarm) (stake : ℕ) (t : State) :
    Prop where
  farm : s.globalPoolData.lookup farmId = some globalPool
  pool : s.liquidityPoolData.lookup (farmId, cfg.getPairId assetPair) = some other
  updated : maybeUpdatePools cfg s globalPool other (s.period globalPool) =
    .ok (s', globalPool', other')
  weighed : cfg.math.calculateGlobalPoolShares
    (amount * s'.ledger.free (cfg.getPairId assetPair) globalPool'.incentivizedAsset)
    other'.multiplier = some stake
  block : t.blockNumber = s.blockNumber
  balances : ∀ poolId currency, t.ledger.free (.palletSubAccount poolId) currency =
    s'.ledger.free (.palletSubAccount poolId) currency
  farms : t.globalPoolData = s.globalPoolData.insert farmId
    { globalPool' with totalSharesZ := globalPool'.totalSharesZ + stake }
  pools : ∀ slot, slot ≠ (farmId, cfg.getPairId assetPair) →
    t.liquidityPoolData.lookup slot = s.liquidityPoolData.lookup slot

theorem deposited_of_depositShares
    (called : depositShares cfg s (.signer key) farmId assetPair amount = .ok t) :
    ∃ globalPool other s' globalPool' other' stake,
      Deposited cfg s farmId assetPair amount globalPool other s' globalPool' other' stake t := by
  obtain ⟨globalPool, other, s', globalPool', other', stake, _, _, _, entered, rfl⟩ :=
    depositShares_ok called
  have shape := (updated_of_maybeUpdatePools entered.updated).shape
  refine ⟨globalPool, other, s', globalPool', other', stake, entered.farm, entered.pool,
    entered.updated, entered.weighed, ?_, ?_, ?_, ?_⟩
  · rcases shape with ⟨_, _, -, rfl⟩
    rfl
  · intro poolId currency
    exact Ledger.free_transfer_of_ne entered.locked (by simp) (by simp [accountId]) currency
  · rcases shape with ⟨_, _, -, rfl⟩
    rfl
  · intro slot elsewhere
    rcases shape with ⟨_, _, -, rfl⟩
    exact AList.lookup_insert_ne elsewhere

variable {other other' : LiquidityPoolYieldFarm} {stake rpz rpz' : ℕ}

/-- The period is the same for the farm after the deposit. -/
theorem Deposited.period
    (deposited : Deposited cfg s farmId assetPair amount globalPool other s' globalPool' other'
      stake t) {totalSharesZ : ℕ} :
    t.period { globalPool' with totalSharesZ } = s.period globalPool := by
  rcases (updated_of_maybeUpdatePools deposited.updated).farmKept with ⟨_, _, _, _, rfl⟩
  show t.blockNumber / globalPool.blocksPerPeriod = s.blockNumber / globalPool.blocksPerPeriod
  rw [deposited.block]

/-- A pool that was not due leaves the farm and all accounts as they were. -/
theorem Deposited.accrued_of_undue
    (deposited : Deposited cfg s farmId assetPair amount globalPool other s' globalPool' other'
      stake t) (undue : ¬ other.IsDue (s.period globalPool)) :
    cfg.math.calculateGlobalPoolShares
        (amount * s.ledger.free (cfg.getPairId assetPair) globalPool.incentivizedAsset)
        other.multiplier = some stake ∧
      accruedRpz cfg t { globalPool' with totalSharesZ := globalPool'.totalSharesZ + stake } =
        accruedRpz cfg s { globalPool with totalSharesZ := globalPool.totalSharesZ + stake } := by
  cases broughtUp_of_maybeUpdatePools deposited.updated with
  | idle =>
      refine ⟨deposited.weighed, accruedRpz_congr deposited.block ?_⟩
      exact deposited.balances _ _
  | unvalued due => exact absurd due undue
  | paid due => exact absurd due undue

/-- A pool that was due brings its staked farm up to date. -/
theorem Deposited.accrued_of_due
    (deposited : Deposited cfg s farmId assetPair amount globalPool other s' globalPool' other'
      stake t) (due : other.IsDue (s.period globalPool)) (staked : globalPool.totalSharesZ ≠ 0) :
    accruedRpz cfg t { globalPool' with totalSharesZ := globalPool'.totalSharesZ + stake } =
      accruedRpz cfg s globalPool := by
  obtain ⟨current, accrued⟩ := current_of_maybeUpdatePools deposited.updated due staked
  rw [accrued]
  refine accruedRpz_of_current ?_
  rw [deposited.period]
  exact current

end Deposited

section Disturbance

/-- The rewards of a pool are the same before and after a deposit in another pool of the farm
exactly if the deposit leaves them alone. -/
theorem reward_undisturbed_iff (reachable : Reachable (Initial cfg) (Step cfg) s)
    (elsewhere : slot ≠ (slot.1, cfg.getPairId assetPair))
    (called : depositShares cfg s (.signer key) slot.1 assetPair amount = .ok t)
    (before : movedIn cfg s slot = .ok reward) (after : movedIn cfg t slot = .ok reward') :
    reward = reward' ↔ Undisturbed cfg s slot assetPair amount := by
  have consistent := consistent_of_reachable reachable
  have taken : Step cfg s (.call (.depositShares key slot.1 assetPair amount)) t := called
  have consistent' : Consistent cfg t.blockNumber t.toStorage := by
    rcases reachable with ⟨past, run⟩
    exact consistent_of_reachable ⟨_, run.extend taken⟩
  obtain ⟨globalPool, other, s', globalPool', other', stake, deposited⟩ :=
    deposited_of_depositShares called
  obtain ⟨liqPool, pool⟩ := pool_of_movedIn before
  have farm' := (congrArg (AList.lookup slot.1) deposited.farms).trans (AList.lookup_insert _)
  have collects := collects_of_movedIn consistent deposited.farm pool before
  have collects' := collects_of_movedIn consistent' farm'
    ((deposited.pools slot elsewhere).trans pool) after
  have period : t.period { globalPool' with totalSharesZ := globalPool'.totalSharesZ + stake } =
      s.period globalPool := deposited.period
  have undisturbed : Undisturbed cfg s slot assetPair amount ↔
      ¬ liqPool.IsDue (s.period globalPool) ∨ liqPool.totalValuedShares = 0 ∨
        liqPool.stakeInGlobalPool = 0 ∨ other.IsDue (s.period globalPool) ∨
        ∀ stake ∈ cfg.math.calculateGlobalPoolShares
            (amount * s.ledger.free (cfg.getPairId assetPair) globalPool.incentivizedAsset)
            other.multiplier,
          accruedRpz cfg s { globalPool with totalSharesZ := globalPool.totalSharesZ + stake } =
            accruedRpz cfg s globalPool := by
    unfold Undisturbed
    simp only [deposited.farm, deposited.pool, pool, Option.mem_some_iff, forall_eq']
  rw [undisturbed]
  by_cases ready : liqPool.IsDue (s.period globalPool) ∧ liqPool.totalValuedShares ≠ 0
  · obtain ⟨rpz, accrued, behind, rfl⟩ := collects.earned ready
    obtain ⟨rpz', accrued', behind', rfl⟩ := collects'.earned (period ▸ ready)
    rw [mul_eq_mul_right_iff]
    have same : rpz - liqPool.accumulatedRpz = rpz' - liqPool.accumulatedRpz ↔
        some rpz' = some rpz := by
      rw [Option.some.injEq]
      omega
    rw [same, ← accrued, ← accrued', or_iff_right (not_not.mpr ready.1), or_iff_right ready.2]
    by_cases unstaked : liqPool.stakeInGlobalPool = 0
    · exact iff_of_true (.inr unstaked) (.inl unstaked)
    · have staked : globalPool.totalSharesZ ≠ 0 := by
        have part := consistent.stake_le deposited.farm pool
        omega
      rw [or_iff_left unstaked, or_iff_right unstaked]
      by_cases due : other.IsDue (s.period globalPool)
      · exact iff_of_true (deposited.accrued_of_due due staked) (.inl due)
      · obtain ⟨weighed, moves⟩ := deposited.accrued_of_undue due
        rw [moves, or_iff_right due, weighed]
        simp only [Option.mem_some_iff, forall_eq']
  · rw [collects.idle ready, collects'.idle (period ▸ ready)]
    rw [not_and_or, not_not] at ready
    exact iff_of_true rfl (ready.imp_right .inl)

/-- Signer 2 adds to a pool that was staked in an earlier period: the farm is brought up to date
first, and signer 1's pool is paid as if nothing had happened. -/
theorem reward_undisturbed_due :
    ∃ s t reward, simulate [.call (.addLiquidityPool 0 1 ⟨1, 3⟩ FixedU128.one none),
        .call (.depositShares 2 1 ⟨1, 3⟩ 250), .blocks 200] = .ok s ∧
      depositShares .reference s (.signer 2) 1 ⟨1, 3⟩ 5000 = .ok t ∧ reward ≠ 0 ∧
      movedIn .reference s (1, Xyk.getPairId ⟨1, 2⟩) = .ok reward ∧
      movedIn .reference t (1, Xyk.getPairId ⟨1, 2⟩) = .ok reward := by
  have computed : succeedsWith
      (simulate [.call (.addLiquidityPool 0 1 ⟨1, 3⟩ FixedU128.one none),
        .call (.depositShares 2 1 ⟨1, 3⟩ 250), .blocks 200])
      (fun s => decide (Undisturbed .reference s (1, Xyk.getPairId ⟨1, 2⟩) ⟨1, 3⟩ 5000) &&
        succeedsWith (movedIn .reference s (1, Xyk.getPairId ⟨1, 2⟩)) (fun reward =>
          decide (reward ≠ 0)) &&
        succeedsWith (depositShares .reference s (.signer 2) 1 ⟨1, 3⟩ 5000) (fun t =>
          succeedsWith (movedIn .reference t (1, Xyk.getPairId ⟨1, 2⟩)) fun _ => true)) = true := by
    decide +kernel
  simp only [succeedsWith_iff, Bool.and_eq_true, decide_eq_true_eq] at computed
  obtain ⟨s, run, ⟨kept, reward, before, paid⟩, t, called, reward', after, -⟩ := computed
  have apart : ((1, Xyk.getPairId ⟨1, 2⟩) : Slot) ≠ (1, Config.reference.getPairId ⟨1, 3⟩) := by
    decide +kernel
  have same := (reward_undisturbed_iff (reachable_of_simulate run) apart called before after).mpr
    kept
  exact ⟨s, t, reward, run, called, paid, before, same ▸ after⟩

/-- Signer 2 is the first to deposit in the other pool: it is not due, the farm is not brought up
to date, and the past period's rewards are divided by the stake of both pools. -/
theorem reward_disturbed :
    ¬ ∀ (cfg : Config) (s t : State) (slot : Slot) (liqPool : LiquidityPoolYieldFarm)
      (assetPair : AssetPair) (key amount reward reward' : ℕ),
      cfg.math.Lawful → Reachable (Initial cfg) (Step cfg) s →
      s.liquidityPoolData.lookup slot = some liqPool → liqPool.canceled = false →
      liqPool.totalShares ≠ 0 → slot ≠ (slot.1, cfg.getPairId assetPair) →
      depositShares cfg s (.signer key) slot.1 assetPair amount = .ok t →
      movedIn cfg s slot = .ok reward → movedIn cfg t slot = .ok reward' → reward = reward' := by
  intro claim
  have computed : succeedsWith
      (simulate [.call (.addLiquidityPool 0 1 ⟨1, 3⟩ FixedU128.one none), .blocks 10])
      (fun s =>
        (s.liquidityPoolData.lookup (1, Xyk.getPairId ⟨1, 2⟩)).any (fun liqPool =>
          decide (liqPool.canceled = false) && decide (liqPool.totalShares ≠ 0)) &&
        succeedsWith (movedIn .reference s (1, Xyk.getPairId ⟨1, 2⟩)) (fun reward =>
          decide (reward = 10 ^ 13)) &&
        succeedsWith (depositShares .reference s (.signer 2) 1 ⟨1, 3⟩ 1000) (fun t =>
          succeedsWith (movedIn .reference t (1, Xyk.getPairId ⟨1, 2⟩)) fun reward =>
            decide (reward = 0))) = true := by
    decide +kernel
  simp only [succeedsWith_iff, Bool.and_eq_true, Option.any_eq_true, decide_eq_true_eq]
    at computed
  obtain ⟨s, run, ⟨⟨liqPool, pool, live, filled⟩, reward, before, paid⟩, t, called, reward',
    after, unpaid⟩ := computed
  have apart : ((1, Xyk.getPairId ⟨1, 2⟩) : Slot) ≠ (1, Config.reference.getPairId ⟨1, 3⟩) := by
    decide +kernel
  have same := claim .reference s t _ liqPool ⟨1, 3⟩ 2 1000 reward reward' Math.reference_lawful
    (reachable_of_simulate run) pool live filled apart called before after
  rw [paid, unpaid] at same
  cases same

end Disturbance

end Basilisk.LiquidityMining
