/-
# What a resumed pool is paid

While a pool is canceled it has no stake, and `resume_liquidity_pool` starts it
anew from the farm's present reward per share.  The farm itself is brought up to
date only if it has stake.  If it is up to date when the pool is resumed, all that
it ever pays to the pool was accrued after that, at most `maxRewardPerPeriod` in
each period.  If it is not, because the canceled pool was the only one with
stake, the next accrual covers the time in which the pool was canceled.
-/

import Basilisk.LiquidityMining.Entry
import Basilisk.LiquidityMining.Pace
import Basilisk.LiquidityMining.Writes

namespace Basilisk.LiquidityMining

open Basilisk.Math

/-- What the account of a farm paid to the account of the pool in a slot in one step. -/
def paidToPool (cfg : Config) (slot : Slot) (event : State × Label) : ℕ :=
  match event.2 with
  | .call call =>
      if call.slot cfg event.1 = some slot then call.paidToPools cfg event.1 slot.1 else 0
  | .external _ => 0

/-- What the account of a farm paid to the account of the pool in a slot in all steps. -/
def everPaidToPool (cfg : Config) (slot : Slot) (past : List (State × Label)) : ℕ :=
  (past.map (paidToPool cfg slot)).sum

/-- The step cancels the pool in the slot. -/
def Label.cancels (cfg : Config) (slot : Slot) : Label → Bool
  | .call (.cancelLiquidityPool _ farmId assetPair) => (farmId, cfg.getPairId assetPair) = slot
  | _ => false

/-- A step that adds to the stake of the pool in the slot finds it up to date, or brings it
up to date. -/
def StakesCurrent (cfg : Config) (slot : Slot) (s : State) : Label → Prop
  | .call (.depositShares _ farmId assetPair _) =>
      (farmId, cfg.getPairId assetPair) = slot → Due s slot ∨ CheckpointCurrent s slot
  | .call (.updateLiquidityPool _ farmId assetPair _) =>
      (farmId, cfg.getPairId assetPair) = slot → Due s slot ∨ CheckpointCurrent s slot
  | _ => True

section Accruals

variable {cfg : Config} {s s' : State} {start got now : ℕ}
variable {globalPool globalPool' : GlobalPool}
variable {liqPool liqPool' other other' : LiquidityPoolYieldFarm}

/-- Bringing the farm up to date. -/
theorem AccruedSince.refresh (since : AccruedSince start got globalPool liqPool)
    (lawful : cfg.math.Lawful) (held : liqPool.stakeInGlobalPool ≤ globalPool.totalSharesZ)
    (refreshed : refreshGlobalPool cfg s globalPool now = .ok (s', globalPool')) :
    AccruedSince start got globalPool' liqPool := by
  obtain ⟨-, rfl, -⟩ | ⟨rewardPerPeriod, reward, accumulatedRpz, -, -, later, rate, capped,
    booked, -, rfl⟩ := refreshGlobalPool_ok refreshed
  · exact since
  · exact since.accrue lawful held later rate (capped.le.trans (min_le_left _ _)) booked

/-- Another pool of the farm is brought up to date. -/
theorem AccruedSince.aside (since : AccruedSince start got globalPool liqPool)
    (lawful : cfg.math.Lawful) (held : liqPool.stakeInGlobalPool ≤ globalPool.totalSharesZ)
    (updated : maybeUpdatePools cfg s globalPool other now = .ok (s', globalPool', other')) :
    AccruedSince start got globalPool' liqPool := by
  cases broughtUp_of_maybeUpdatePools updated with
  | idle => exact since
  | unvalued due refreshed =>
      obtain ⟨started, bounded⟩ := since.refresh lawful held refreshed
      exact ⟨started, bounded⟩
  | paid due refreshed =>
      obtain ⟨started, bounded⟩ := since.refresh lawful held refreshed
      exact ⟨started, bounded⟩

/-- The pool itself is brought up to date: what it would collect is paid to it or given
up. -/
theorem AccruedSince.settle (since : AccruedSince start got globalPool liqPool)
    (lawful : cfg.math.Lawful) (held : liqPool.stakeInGlobalPool ≤ globalPool.totalSharesZ)
    (updated : maybeUpdatePools cfg s globalPool liqPool now = .ok (s', globalPool', liqPool')) :
    AccruedSince start
      (got + (s.ledger.free (.palletSubAccount globalPool.id) globalPool.rewardCurrency -
        s'.ledger.free (.palletSubAccount globalPool.id) globalPool.rewardCurrency))
      globalPool' liqPool' := by
  have paid := maybeUpdatePools_paid updated
  cases broughtUp_of_maybeUpdatePools updated with
  | idle =>
      rw [Nat.sub_self]
      exact since
  | @unvalued mid midPool reward due refreshed =>
      obtain ⟨started, bounded⟩ := since.refresh lawful held refreshed
      refine ⟨started, ?_⟩
      obtain ⟨⟨_, -, rfl⟩, -⟩ := refreshGlobalPool_frame refreshed
      rw [collectable_of_current rfl, Nat.sub_self]
      exact (Nat.add_le_add_left (Nat.zero_le _) got).trans bounded
  | @paid mid midPool reward _ ledger due refreshed behind earned =>
      obtain ⟨started, bounded⟩ := since.refresh lawful held refreshed
      have owed : collectable midPool liqPool = reward := earned.symm
      rw [owed] at bounded
      refine ⟨started, ?_⟩
      obtain ⟨-, _, _, _, rfl⟩ := refreshGlobalPool_frame refreshed
      rw [collectable_of_current rfl]
      dsimp only at paid bounded ⊢
      omega

end Accruals

/-- The pool in the slot is active in a farm on the terms of `origin`, and what it got out of
the farm since the period `start` was accrued in later periods. -/
def SlotAccruedSince (origin : GlobalPool) (start got : ℕ) (slot : Slot) (σ : Storage) : Prop :=
  ∃ globalPool liqPool, σ.globalPoolData.lookup slot.1 = some globalPool ∧
    σ.liquidityPoolData.lookup slot = some liqPool ∧ liqPool.canceled = false ∧
    SameTerms origin globalPool ∧ AccruedSince start got globalPool liqPool

section Steps

variable {cfg : Config} {s t u : State} {slot : Slot} {label : Label} {τ : Storage}
variable {origin : GlobalPool} {start got : ℕ}

/-- A call that pays to the pool in a slot settles it, and pays what that takes from the
farm. -/
theorem paidToPool_of_settling {globalPool globalPool' : GlobalPool}
    {liqPool liqPool' : LiquidityPoolYieldFarm} {s' : State} {call : Call}
    (consistent : Consistent cfg s.blockNumber s.toStorage)
    (settling : Settling cfg s slot globalPool liqPool s' globalPool' liqPool')
    (first : call.slot cfg s = some slot) :
    paidToPool cfg slot (s, .call call) =
      s.ledger.free (.palletSubAccount globalPool.id) globalPool.rewardCurrency -
        s'.ledger.free (.palletSubAccount globalPool.id) globalPool.rewardCurrency := by
  have id := (consistent.farms _ _ settling.farm).id
  simp only [paidToPool, first, if_true, Call.paidToPools, settling.farm, settling.pool,
    settling.updated, id]

theorem paidToPool_of_ne {call : Call} (other : call.slot cfg s ≠ some slot) :
    paidToPool cfg slot (s, .call call) = 0 :=
  if_neg other

theorem paidToPool_of_none {call : Call} (none : call.slot cfg s = none) :
    paidToPool cfg slot (s, .call call) = 0 :=
  paidToPool_of_ne (by simp only [none, ne_eq, reduceCtorEq, not_false_eq_true])

/-- The pool in another slot is written, and its farm keeps its terms and its accruals. -/
theorem SlotAccruedSince.put {place : Slot} {globalPool globalPool' : GlobalPool}
    {σ : Storage} (since : SlotAccruedSince origin start got slot σ)
    (farm : σ.globalPoolData.lookup place.1 = some globalPool)
    (farms : τ.globalPoolData = σ.globalPoolData.insert place.1 globalPool')
    (pools : τ.liquidityPoolData.lookup slot = σ.liquidityPoolData.lookup slot)
    (terms : SameTerms globalPool globalPool')
    (kept : ∀ liqPool, place.1 = slot.1 → σ.liquidityPoolData.lookup slot = some liqPool →
      AccruedSince start got globalPool liqPool → AccruedSince start got globalPool' liqPool) :
    SlotAccruedSince origin start got slot τ := by
  obtain ⟨found, liqPool, stored, pool, active, agreed, accrued⟩ := since
  rw [SlotAccruedSince, farms, pools, AList.lookup_insert_eq_ite]
  by_cases same : slot.1 = place.1
  · rw [same, farm, Option.some.injEq] at stored
    subst stored
    exact ⟨globalPool', liqPool, if_pos same, pool, active, agreed.trans terms,
      kept liqPool same.symm pool accrued⟩
  · exact ⟨found, liqPool, (if_neg same).trans stored, pool, active, agreed, accrued⟩

/-- The farm of another slot is brought up to date. -/
theorem SlotAccruedSince.refreshed (lawful : cfg.math.Lawful)
    (consistent : Consistent cfg s.blockNumber s.toStorage) {place : Slot}
    {globalPool globalPool' : GlobalPool} {s' : State} {now totalSharesZ liqPoolsCount : ℕ}
    (since : SlotAccruedSince origin start got slot s.toStorage)
    (farm : s.globalPoolData.lookup place.1 = some globalPool)
    (refreshed : refreshGlobalPool cfg s globalPool now = .ok (s', globalPool'))
    (farms : τ.globalPoolData =
      s.globalPoolData.insert place.1 { globalPool' with totalSharesZ, liqPoolsCount })
    (pools : τ.liquidityPoolData.lookup slot = s.liquidityPoolData.lookup slot) :
    SlotAccruedSince origin start got slot τ := by
  have terms : SameTerms globalPool globalPool' := by
    obtain ⟨-, _, _, _, rfl⟩ := refreshGlobalPool_frame refreshed
    exact ⟨rfl, rfl, rfl, rfl⟩
  refine since.put farm farms pools
    ⟨terms.id, terms.rewardCurrency, terms.blocksPerPeriod, terms.maxRewardPerPeriod⟩ ?_
  intro liqPool sameFarm pool accrued
  rw [sameFarm] at farm
  obtain ⟨started, bounded⟩ := accrued.refresh lawful (consistent.stake_le farm pool) refreshed
  exact ⟨started, bounded⟩

/-- A pool that is due, or already was up to date with its farm, is up to date when it is
settled. -/
theorem Settling.current {globalPool globalPool' : GlobalPool}
    {liqPool liqPool' : LiquidityPoolYieldFarm} {s' : State}
    (settling : Settling cfg s slot globalPool liqPool s' globalPool' liqPool')
    (current : Due s slot ∨ CheckpointCurrent s slot) :
    liqPool'.accumulatedRpz = globalPool'.accumulatedRpz := by
  cases broughtUp_of_maybeUpdatePools settling.updated with
  | idle undue =>
      rw [← due_iff settling.farm settling.pool] at undue
      exact current.resolve_left undue _ _ settling.farm settling.pool
  | unvalued => rfl
  | paid => rfl

/-- A call settles the pool in some slot and then changes stakes, but not so that the pool
would collect more than before. -/
theorem SlotAccruedSince.settled (lawful : cfg.math.Lawful)
    (consistent : Consistent cfg s.blockNumber s.toStorage) {place : Slot}
    {globalPool globalPool' : GlobalPool} {liqPool liqPool' liqPool'' : LiquidityPoolYieldFarm}
    {s' : State} {call : Call} {totalSharesZ : ℕ}
    (since : SlotAccruedSince origin start got slot s.toStorage)
    (settling : Settling cfg s place globalPool liqPool s' globalPool' liqPool')
    (first : call.slot cfg s = some place)
    (farms : τ.globalPoolData =
      s.globalPoolData.insert place.1 { globalPool' with totalSharesZ })
    (pools : τ.liquidityPoolData = s.liquidityPoolData.insert place liqPool'')
    (less : place = slot → liqPool''.canceled = liqPool'.canceled ∧
      collectable globalPool' liqPool'' ≤ collectable globalPool' liqPool') :
    SlotAccruedSince origin start (got + paidToPool cfg slot (s, .call call)) slot τ := by
  have terms : SameTerms globalPool { globalPool' with totalSharesZ } := by
    obtain ⟨_, _, _, _, rfl⟩ := settling.farmKept
    exact ⟨rfl, rfl, rfl, rfl⟩
  by_cases same : place = slot
  · subst same
    obtain ⟨_, _, _, kept⟩ := settling.poolKept
    obtain ⟨active, less⟩ := less rfl
    obtain ⟨found, stored, farm, pool, working, agreed, accrued⟩ := since
    obtain rfl := Option.some.inj (farm.symm.trans settling.farm)
    obtain rfl := Option.some.inj (pool.symm.trans settling.pool)
    obtain ⟨started, bounded⟩ := accrued.settle lawful (consistent.stake_le farm pool)
      settling.updated
    rw [paidToPool_of_settling consistent settling first]
    refine ⟨{ globalPool' with totalSharesZ }, liqPool'', ?_, ?_, ?_, agreed.trans terms,
      started, (Nat.add_le_add_left less _).trans bounded⟩
    · rw [farms, AList.lookup_insert]
    · rw [pools, AList.lookup_insert]
    · rw [active, kept]
      exact working
  · rw [paidToPool_of_ne (fun found => same (Option.some.inj (first.symm.trans found))),
      Nat.add_zero]
    refine since.put settling.farm farms ?_ terms ?_
    · rw [pools, AList.lookup_insert_ne (Ne.symm same)]
    · intro found sameFarm pool accrued
      have farm := settling.farm
      rw [sameFarm] at farm
      obtain ⟨started, bounded⟩ := accrued.aside lawful (consistent.stake_le farm pool)
        settling.updated
      exact ⟨started, bounded⟩

/-- A pool that is active is in no slot whose pool is canceled. -/
theorem SlotAccruedSince.ne_canceled {σ : Storage}
    (since : SlotAccruedSince origin start got slot σ)
    {place : Slot} {liqPool : LiquidityPoolYieldFarm}
    (pool : σ.liquidityPoolData.lookup place = some liqPool) (idle : liqPool.canceled = true) :
    slot ≠ place := by
  rintro rfl
  obtain ⟨-, stored, -, found, active, -⟩ := since
  obtain rfl := Option.some.inj (found.symm.trans pool)
  exact Bool.false_ne_true (active.symm.trans idle)

/-- A call that neither cancels the pool nor adds stake to it behind its farm pays it only
what was accrued since it was resumed. -/
theorem SlotAccruedSince.writes (lawful : cfg.math.Lawful)
    (consistent : Consistent cfg s.blockNumber s.toStorage)
    (since : SlotAccruedSince origin start got slot s.toStorage) {call : Call}
    (written : Writes cfg s call τ) (uncanceled : (Label.call call).cancels cfg slot = false)
    (current : StakesCurrent cfg slot s (.call call)) :
    SlotAccruedSince origin start (got + paidToPool cfg slot (s, .call call)) slot τ := by
  have ⟨globalPool, liqPool, farm, pool, active, terms, accrued⟩ := since
  cases written with
  | createFarm =>
      rw [paidToPool_of_none rfl, Nat.add_zero]
      refine ⟨globalPool, liqPool, ?_, pool, active, terms, accrued⟩
      exact (AList.lookup_insert_ne (AList.ne_of_lookup consistent.id_fresh.1 farm)).trans farm
  | destroyFarm stored empty =>
      rw [paidToPool_of_none rfl, Nat.add_zero]
      refine ⟨globalPool, liqPool, ?_, pool, active, terms, accrued⟩
      have kept := (consistent.destroyFarm stored empty).no_pools (AList.lookup_erase _ _) pool
      exact (AList.lookup_erase_ne kept).trans farm
  | withdrawUndistributedRewards =>
      rw [paidToPool_of_none rfl, Nat.add_zero]
      exact since
  | addLiquidityPool stored vacant refreshed =>
      rw [paidToPool_of_none rfl, Nat.add_zero]
      exact since.refreshed lawful consistent stored refreshed rfl
        (AList.lookup_insert_ne (AList.ne_of_lookup vacant pool))
  | updateLiquidityPool settling =>
      refine since.settled lawful consistent settling rfl rfl rfl fun same => ⟨rfl, ?_⟩
      rw [collectable_of_current (by exact settling.current (same ▸ current same))]
      exact Nat.zero_le _
  | cancelLiquidityPool settling =>
      -- it is the pool of another slot that is canceled
      refine since.settled lawful consistent settling rfl rfl rfl fun same => ?_
      exact absurd same (of_decide_eq_false uncanceled)
  | resumeLiquidityPool stored canceled idle refreshed =>
      rw [paidToPool_of_none rfl, Nat.add_zero]
      exact since.refreshed lawful consistent stored refreshed rfl
        (AList.lookup_insert_ne (since.ne_canceled canceled idle))
  | @removeLiquidityPool _ farmId assetPair found _ stored canceled idle =>
      rw [paidToPool_of_none rfl, Nat.add_zero]
      refine since.put (show s.globalPoolData.lookup (farmId, cfg.getPairId assetPair).1 = _
        from stored) rfl (AList.lookup_erase_ne (since.ne_canceled canceled idle))
        ⟨rfl, rfl, rfl, rfl⟩ ?_
      intro _ _ _ ⟨started, bounded⟩
      exact ⟨started, bounded⟩
  | depositShares settling =>
      refine since.settled lawful consistent settling rfl rfl rfl fun same => ⟨rfl, ?_⟩
      rw [collectable_of_current (by exact settling.current (same ▸ current same))]
      exact Nat.zero_le _
  | claimRewards known recorded settling =>
      refine since.settled lawful consistent settling ?_ rfl rfl fun _ => ⟨rfl, le_rfl⟩
      simp only [Call.slot, known, Option.map_some]
  | withdrawShares known recorded settling =>
      refine since.settled lawful consistent settling ?_ rfl rfl fun _ => ⟨rfl, ?_⟩
      · simp only [Call.slot, known, Option.map_some]
      · exact Nat.mul_le_mul_left _ (Nat.sub_le _ _)
  | withdrawUnsettled known recorded vacant =>
      rw [paidToPool_of_ne, Nat.add_zero]
      · exact ⟨globalPool, liqPool, farm, pool, active, terms, accrued⟩
      · simp only [Call.slot, known, Option.map_some]
        rintro ⟨⟩
        exact AList.ne_of_lookup vacant pool rfl

theorem SlotAccruedSince.step (lawful : cfg.math.Lawful)
    (consistent : Consistent cfg s.blockNumber s.toStorage)
    (since : SlotAccruedSince origin start got slot s.toStorage)
    (uncanceled : label.cancels cfg slot = false) (current : StakesCurrent cfg slot s label)
    (taken : Step cfg s label t) :
    SlotAccruedSince origin start (got + paidToPool cfg slot (s, label)) slot t.toStorage := by
  cases label with
  | call =>
      exact since.writes lawful consistent (writes_of_dispatch consistent taken) uncanceled
        current
  | external =>
      obtain ⟨-, rfl⟩ := taken
      exact since

/-- A pool that is resumed while its farm has stake or is up to date starts in the present
period. -/
theorem Writes.resumed {key farmId multiplier : ℕ} {assetPair : AssetPair}
    (written : Writes cfg s (.resumeLiquidityPool key farmId assetPair multiplier) τ)
    (farm : s.globalPoolData.lookup farmId = some origin)
    (current : FarmStaked s farmId ∨ FarmCurrent s farmId) :
    SlotAccruedSince origin (s.period origin) 0 (farmId, cfg.getPairId assetPair) τ := by
  cases written with
  | resumeLiquidityPool stored canceled idle refreshed weighed =>
      obtain rfl := Option.some.inj (farm.symm.trans stored)
      have upToDate : origin.totalSharesZ = 0 ∨ origin.updatedAt = s.period origin →
          origin.updatedAt = s.period origin := by
        rintro (unstaked | done)
        · exact (current.resolve_left fun staked => staked origin farm unstaked) origin farm
        · exact done
      refine ⟨_, _, AList.lookup_insert _, AList.lookup_insert _, rfl, ?_, ?_⟩
      · obtain ⟨-, _, _, _, rfl⟩ := refreshGlobalPool_frame refreshed
        exact ⟨rfl, rfl, rfl, rfl⟩
      · -- the farm's checkpoint is the present period, and the pool's that of the farm
        rcases refreshGlobalPool_ok refreshed with
          ⟨-, rfl, idle⟩ | ⟨_, _, _, -, -, -, -, -, -, -, rfl⟩
        · refine ⟨(upToDate idle).ge, ?_⟩
          rw [collectable_of_current rfl]
          exact Nat.zero_le _
        · refine ⟨le_rfl, ?_⟩
          rw [collectable_of_current rfl]
          exact Nat.zero_le _

end Steps

section Runs

variable {cfg : Config} {s t u : State} {past : List (State × Label)}

/-- A run that neither cancels the pool nor adds stake to it behind its farm pays it only
what was accrued since the run started. -/
theorem slotAccruedSince_of_run (lawful : cfg.math.Lawful) {slot : Slot} {origin : GlobalPool}
    {start : ℕ} (consistent : Consistent cfg t.blockNumber t.toStorage)
    (since : SlotAccruedSince origin start 0 slot t.toStorage)
    (run : Run (fun start => start = t) (Step cfg) past u)
    (guarded : Guarded (fun s label => label.cancels cfg slot = false ∧
      StakesCurrent cfg slot s label) past) :
    Consistent cfg u.blockNumber u.toStorage ∧
      SlotAccruedSince origin start (everPaidToPool cfg slot past) slot u.toStorage := by
  refine run.history_invariant (fun past u => Consistent cfg u.blockNumber u.toStorage ∧
    SlotAccruedSince origin start (everPaidToPool cfg slot past) slot u.toStorage) ?_ ?_ guarded
  · rintro _ rfl
    exact ⟨consistent, since⟩
  · rintro past s label t - ⟨consistent, since⟩ ⟨uncanceled, current⟩ taken
    have next := since.step lawful consistent uncanceled current taken
    rw [Nat.add_comm] at next
    exact ⟨consistent_of_step consistent taken, next⟩

/-- A pool resumed while its farm has stake or is up to date is not paid for the time it was
canceled, as long as stake is added only to an up to date pool. -/
theorem resumed_pool_paid (lawful : cfg.math.Lawful) {key farmId multiplier : ℕ}
    {assetPair : AssetPair} {globalPool : GlobalPool}
    (reachable : Reachable (Initial cfg) (Step cfg) s)
    (farm : s.globalPoolData.lookup farmId = some globalPool)
    (current : FarmStaked s farmId ∨ FarmCurrent s farmId)
    (resumed : resumeLiquidityPool cfg s (.signer key) farmId assetPair multiplier = .ok t)
    (run : Run (fun start => start = t) (Step cfg) past u)
    (uncanceled : ∀ event ∈ past, event.2.cancels cfg (farmId, cfg.getPairId assetPair) = false)
    (guarded : Guarded (StakesCurrent cfg (farmId, cfg.getPairId assetPair)) past) :
    everPaidToPool cfg (farmId, cfg.getPairId assetPair) past ≤
      (u.period globalPool - s.period globalPool) * globalPool.maxRewardPerPeriod := by
  have called : Step cfg s (.call (.resumeLiquidityPool key farmId assetPair multiplier)) t :=
    resumed
  have consistent := consistent_of_reachable reachable
  obtain ⟨consistent, globalPool', liqPool, stored, -, -, terms, -, bounded⟩ :=
    slotAccruedSince_of_run lawful (consistent_of_step consistent called)
      ((writes_of_dispatch consistent called).resumed farm current) run
      fun event met => ⟨uncanceled event met, guarded event met⟩
  have updated := (consistent.farms _ _ stored).updated
  rw [terms.blocksPerPeriod] at updated
  rw [terms.maxRewardPerPeriod] at bounded
  calc everPaidToPool cfg (farmId, cfg.getPairId assetPair) past
      ≤ (globalPool'.updatedAt - s.period globalPool) * globalPool.maxRewardPerPeriod :=
        (Nat.le_add_right _ _).trans bounded
    _ ≤ (u.period globalPool - s.period globalPool) * globalPool.maxRewardPerPeriod :=
        Nat.mul_le_mul_right _ (Nat.sub_le_sub_right updated _)

/-- A pool is canceled for nine periods while another one keeps its farm accruing. -/
theorem resumed_pool_paid_beside :
    ∃ s t past u, Reachable (Initial .reference) (Step .reference) s ∧
      resumeLiquidityPool .reference s (.signer 0) 1 ⟨1, 2⟩ (FixedU128.one / 2) = .ok t ∧
      Run (fun start => start = t) (Step .reference) past u ∧
      0 < everPaidToPool .reference (1, Config.reference.getPairId ⟨1, 2⟩) past ∧
      everPaidToPool .reference (1, Config.reference.getPairId ⟨1, 2⟩) past ≤
        (11 - 10) * 10 ^ 13 := by
  have computed : succeedsWith
      (do
        let s ← simulate [.call (.addLiquidityPool 0 1 ⟨1, 3⟩ FixedU128.one none),
          .call (.depositShares 2 1 ⟨1, 3⟩ 500), .blocks 10,
          .call (.cancelLiquidityPool 0 1 ⟨1, 2⟩), .blocks 90]
        let t ← exec s (.call (.resumeLiquidityPool 0 1 ⟨1, 2⟩ (FixedU128.one / 2)))
        let v ← exec t (.blocks 10)
        let u ← exec v (.call (.claimRewards 1 (encodeNftId 2 1)))
        return (s, t, v, u))
      (fun (s, t, v, u) => ((s.globalPoolData.lookup 1).any fun globalPool =>
          u.period globalPool = 11 && s.period globalPool = 10 &&
            globalPool.maxRewardPerPeriod = 10 ^ 13 && globalPool.totalSharesZ ≠ 0) &&
        decide (0 < paidToPool .reference (1, Config.reference.getPairId ⟨1, 2⟩)
          (v, .call (.claimRewards 1 (encodeNftId 2 1))))) = true := by
    decide +kernel
  simp only [succeedsWith_iff, bind_eq_ok, return_eq_ok, Prod.exists, Prod.mk.injEq,
    Bool.and_eq_true, Option.any_eq_true, decide_eq_true_eq] at computed
  obtain ⟨_, _, _, _, ⟨s, made, t, resumed, v, waited, u, claimed, rfl, rfl, rfl, rfl⟩,
    ⟨globalPool, farm, ⟨⟨late, early⟩, most⟩, staked⟩, paid⟩ := computed
  have start : Run (fun start => start = t) (Step .reference) [] t := .start rfl
  have run := (start.extend (step_of_exec waited)).extend (step_of_exec claimed)
  have reachable := reachable_of_simulate made
  have bounded := resumed_pool_paid Math.reference_lawful reachable farm
    (.inl fun found stored => Option.some.inj (farm.symm.trans stored) ▸ staked) resumed run
    (by simp [Input.label, Label.cancels])
    (guarded_cons.mpr ⟨trivial, guarded_cons.mpr ⟨trivial, guarded_nil⟩⟩)
  rw [late, early, most] at bounded
  exact ⟨s, t, _, u, reachable, resumed, run, Nat.lt_of_lt_of_le paid (Nat.le_add_right _ _),
    bounded⟩

/-- The only pool of a farm is canceled for nine periods.  After it was resumed it is paid for
them as well. -/
theorem resumed_pool_paid_while_canceled :
    ¬ ∀ (cfg : Config) (s t u : State) (key farmId multiplier : ℕ) (assetPair : AssetPair)
        (globalPool : GlobalPool) (past : List (State × Label)),
      cfg.math.Lawful → Reachable (Initial cfg) (Step cfg) s →
      s.globalPoolData.lookup farmId = some globalPool →
      resumeLiquidityPool cfg s (.signer key) farmId assetPair multiplier = .ok t →
      Run (fun start => start = t) (Step cfg) past u →
      (∀ event ∈ past, event.2.cancels cfg (farmId, cfg.getPairId assetPair) = false) →
      everPaidToPool cfg (farmId, cfg.getPairId assetPair) past ≤
        (u.period globalPool - s.period globalPool) * globalPool.maxRewardPerPeriod := by
  intro claim
  have computed : succeedsWith
      (do
        let s ← simulate [.blocks 10, .call (.cancelLiquidityPool 0 1 ⟨1, 2⟩), .blocks 90]
        let t ← exec s (.call (.resumeLiquidityPool 0 1 ⟨1, 2⟩ FixedU128.one))
        let v ← exec t (.blocks 10)
        let u ← exec v (.call (.claimRewards 1 (encodeNftId 2 1)))
        return (s, t, v, u))
      (fun (s, t, v, u) => ((s.globalPoolData.lookup 1).any fun globalPool =>
          (u.period globalPool - s.period globalPool) * globalPool.maxRewardPerPeriod <
            paidToPool .reference (1, Config.reference.getPairId ⟨1, 2⟩)
              (v, .call (.claimRewards 1 (encodeNftId 2 1))))) = true := by
    decide +kernel
  simp only [succeedsWith_iff, bind_eq_ok, return_eq_ok, Prod.exists, Prod.mk.injEq,
    Option.any_eq_true, decide_eq_true_eq] at computed
  obtain ⟨_, _, _, _, ⟨s, made, t, resumed, v, waited, u, claimed, rfl, rfl, rfl, rfl⟩,
    globalPool, farm, tooMuch⟩ := computed
  have start : Run (fun start => start = t) (Step .reference) [] t := .start rfl
  have run := (start.extend (step_of_exec waited)).extend (step_of_exec claimed)
  have bounded := claim .reference s t u 0 1 FixedU128.one ⟨1, 2⟩ globalPool _
    Math.reference_lawful (reachable_of_simulate made) farm resumed run
    (by simp [Input.label, Label.cancels])
  exact absurd (Nat.lt_of_lt_of_le tooMuch (Nat.le_add_right _ _)) (not_lt.mpr bounded)

end Runs

end Basilisk.LiquidityMining
