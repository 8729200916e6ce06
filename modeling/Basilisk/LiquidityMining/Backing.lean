/-
# Accrued rewards back every pool's entitlement

A farm distributes lazily over its liquidity pools: the shares are the stakes of
the pools that are not canceled, and the checkpoint of a pool is its
`accumulatedRpz`.  As long as stake is only added to pools that are up to date,
the rewards a farm has accrued cover what all its pools are owed together.  The
code does not see to that by itself: a pool starts with checkpoint zero, and the
update before a deposit is skipped for an empty pool.
-/

import Basilisk.LiquidityMining.Reference
import Basilisk.Math.Accumulator

namespace Basilisk.LiquidityMining

open Basilisk.Math

/-- The share of a liquidity pool in the farm `farmId`. -/
def poolShare (farmId : ℕ) (slot : Slot) (liqPool : LiquidityPoolYieldFarm) : Share :=
  if slot.1 = farmId ∧ liqPool.canceled = false then
    ⟨liqPool.stakeInGlobalPool, liqPool.accumulatedRpz⟩
  else .none

/-- What the pools of a farm that are not canceled are owed together. -/
def owedToPools (farmId accumulatedRpz : ℕ)
    (pools : AList fun _ : Slot => LiquidityPoolYieldFarm) : ℕ :=
  pools.total fun slot liqPool =>
    if slot.1 = farmId ∧ liqPool.canceled = false then
      (accumulatedRpz - liqPool.accumulatedRpz) * liqPool.stakeInGlobalPool
    else 0

section Shares

variable {cfg : Config} {s t : State} {kind : MoveKind} {farmId : ℕ} {slot : Slot}
variable {liqPool liqPool' : LiquidityPoolYieldFarm}

theorem poolShare_of_active (active : liqPool.canceled = false) :
    poolShare slot.1 slot liqPool =
      ⟨liqPool.stakeInGlobalPool, liqPool.accumulatedRpz⟩ :=
  if_pos ⟨rfl, active⟩

theorem poolShare_of_canceled (canceled : liqPool.canceled = true) :
    poolShare farmId slot liqPool = .none :=
  if_neg fun member => Bool.false_ne_true (member.2.symm.trans canceled)

theorem poolShare_of_ne (elsewhere : slot.1 ≠ farmId) :
    poolShare farmId slot liqPool = .none :=
  if_neg fun member => elsewhere member.1

/-- The sum over the pools is what the group of shares is owed. -/
theorem owedToPools_eq (farmId accumulatedRpz : ℕ)
    (pools : AList fun _ : Slot => LiquidityPoolYieldFarm) :
    owedToPools farmId accumulatedRpz pools =
      entitlements (poolShare farmId) accumulatedRpz pools := by
  unfold owedToPools entitlements
  apply AList.total_congr
  intro slot liqPool _
  unfold poolShare
  split_ifs
  · rfl
  · exact Share.entitlement_none.symm

/-- Canceled pools have no stake, so the stakes of a farm are those of the shares. -/
theorem Consistent.staked_eq (consistent : Consistent cfg s.blockNumber s.toStorage)
    (farmId : ℕ) :
    staked (poolShare farmId) s.liquidityPoolData = stakesOf farmId s.liquidityPoolData := by
  apply AList.total_congr
  intro slot liqPool pool
  unfold poolShare
  by_cases member : slot.1 = farmId
  · cases canceled : liqPool.canceled with
    | false => simp [member]
    | true => simp [member, Share.none, (consistent.pools _ _ pool).idle canceled]
  · simp [member, Share.none]

end Shares

/-- Every farm has accrued what its pools are owed, and no pool is ahead of it. -/
def Backed (s : State) : Prop :=
  ∀ farmId globalPool, s.globalPoolData.lookup farmId = some globalPool →
    Behind (poolShare farmId) globalPool.accumulatedRpz s.liquidityPoolData ∧
      entitlements (poolShare farmId) globalPool.accumulatedRpz s.liquidityPoolData ≤
        globalPool.accumulatedRewards

section Backing

variable {cfg : Config} {s t : State} {kind : MoveKind}

/-- A pool and its farm are rewritten; what the farm gives up, the pool gave up. -/
theorem Backed.put (backed : Backed s) {slot : Slot} {globalPool globalPool' : GlobalPool}
    {liqPool liqPool' : LiquidityPoolYieldFarm}
    (farm : s.globalPoolData.lookup slot.1 = some globalPool)
    (pool : s.liquidityPoolData.lookup slot = some liqPool)
    (farms : t.globalPoolData = s.globalPoolData.insert slot.1 globalPool')
    (pools : t.liquidityPoolData = s.liquidityPoolData.insert slot liqPool')
    (rpz : globalPool'.accumulatedRpz = globalPool.accumulatedRpz)
    (behind : (poolShare slot.1 slot liqPool').checkpoint ≤ globalPool.accumulatedRpz)
    (balanced : globalPool.accumulatedRewards +
        (poolShare slot.1 slot liqPool').entitlement globalPool.accumulatedRpz ≤
      globalPool'.accumulatedRewards +
        (poolShare slot.1 slot liqPool).entitlement globalPool.accumulatedRpz) :
    Backed t := by
  unfold Backed
  rw [farms, pools]
  refine AList.forall_lookup_insert ?_ ?_
  · obtain ⟨before, owed⟩ := backed _ _ farm
    have moved := entitlements_insert (poolShare slot.1) globalPool.accumulatedRpz pool
      liqPool'
    rw [rpz]
    exact ⟨before.insert behind, by omega⟩
  · intro other otherPool distinct stored
    obtain ⟨before, owed⟩ := backed _ _ stored
    have moved := entitlements_insert (poolShare other) otherPool.accumulatedRpz pool
      liqPool'
    rw [poolShare_of_ne distinct.symm, poolShare_of_ne distinct.symm,
      Share.entitlement_none] at moved
    refine ⟨before.insert ?_, by omega⟩
    rw [poolShare_of_ne distinct.symm]
    exact Nat.zero_le _

/-- A pool that is up to date afterwards, or canceled, is owed nothing more. -/
theorem Backed.putCurrent (backed : Backed s) {slot : Slot}
    {globalPool globalPool' : GlobalPool} {liqPool liqPool' : LiquidityPoolYieldFarm}
    (farm : s.globalPoolData.lookup slot.1 = some globalPool)
    (pool : s.liquidityPoolData.lookup slot = some liqPool)
    (farms : t.globalPoolData = s.globalPoolData.insert slot.1 globalPool')
    (pools : t.liquidityPoolData = s.liquidityPoolData.insert slot liqPool')
    (rpz : globalPool'.accumulatedRpz = globalPool.accumulatedRpz)
    (current : liqPool'.canceled = false →
      liqPool'.accumulatedRpz = globalPool.accumulatedRpz)
    (paid : globalPool.accumulatedRewards ≤ globalPool'.accumulatedRewards +
      (poolShare slot.1 slot liqPool).entitlement globalPool.accumulatedRpz) :
    Backed t := by
  cases canceled : liqPool'.canceled with
  | true =>
      refine backed.put farm pool farms pools rpz ?_ ?_
      · rw [poolShare_of_canceled canceled]
        exact Nat.zero_le _
      · rw [poolShare_of_canceled canceled, Share.entitlement_none]
        exact paid
  | false =>
      refine backed.put farm pool farms pools rpz ?_ ?_
      · rw [poolShare_of_active canceled]
        exact (current canceled).le
      · rw [poolShare_of_active canceled, Share.entitlement_of_current (current canceled)]
        exact paid

/-- What an active pool collects is what it was owed. -/
theorem collected_covers {slot : Slot} {globalPool : GlobalPool}
    {liqPool : LiquidityPoolYieldFarm} {reward : ℕ} (active : liqPool.canceled = false)
    (earned : reward =
      (globalPool.accumulatedRpz - liqPool.accumulatedRpz) * liqPool.stakeInGlobalPool)
    (covered : reward ≤ globalPool.accumulatedRewards) :
    globalPool.accumulatedRewards ≤ globalPool.accumulatedRewards - reward +
      (poolShare slot.1 slot liqPool).entitlement globalPool.accumulatedRpz := by
  rw [poolShare_of_active active]
  change _ ≤ _ + (globalPool.accumulatedRpz - liqPool.accumulatedRpz) *
    liqPool.stakeInGlobalPool
  omega

/-- A pool that leaves the table, or enters it without stake, is owed nothing. -/
theorem Backed.keep (backed : Backed s) {farmId : ℕ} {globalPool globalPool' : GlobalPool}
    (farm : s.globalPoolData.lookup farmId = some globalPool)
    (farms : t.globalPoolData = s.globalPoolData.insert farmId globalPool')
    (rpz : globalPool'.accumulatedRpz = globalPool.accumulatedRpz)
    (owed : globalPool'.accumulatedRewards = globalPool.accumulatedRewards)
    (pools : ∀ farmId rpz, Behind (poolShare farmId) rpz s.liquidityPoolData →
      Behind (poolShare farmId) rpz t.liquidityPoolData ∧
        entitlements (poolShare farmId) rpz t.liquidityPoolData ≤
          entitlements (poolShare farmId) rpz s.liquidityPoolData) : Backed t := by
  have keeps : ∀ farmId globalPool, s.globalPoolData.lookup farmId = some globalPool →
      Behind (poolShare farmId) globalPool.accumulatedRpz t.liquidityPoolData ∧
        entitlements (poolShare farmId) globalPool.accumulatedRpz t.liquidityPoolData ≤
          globalPool.accumulatedRewards := by
    intro farmId globalPool stored
    obtain ⟨before, backing⟩ := backed _ _ stored
    obtain ⟨after, shrunk⟩ := pools farmId globalPool.accumulatedRpz before
    exact ⟨after, shrunk.trans backing⟩
  unfold Backed
  rw [farms]
  refine AList.forall_lookup_insert ?_ ?_
  · rw [rpz, owed]
    exact keeps _ _ farm
  · intro other otherPool _ stored
    exact keeps _ _ stored

/-- What the stakes earn per share is a fraction of what is accrued. -/
theorem Math.Books.le_div {math : Math} (floors : math.AccumulatesFloor)
    {before shares reward after : ℕ} (booked : math.Books before shares reward after) :
    after = before + reward / shares := by
  obtain computed | ⟨rfl, rfl⟩ := booked
  · exact floors computed
  · rw [Nat.zero_div, Nat.add_zero]

/-- The condition under which entitlements stay backed. -/
def backingRules : List Rule := [.currentStake]

theorem Backed.move (floors : cfg.math.AccumulatesFloor) (backed : Backed s)
    (consistent : Consistent cfg s.blockNumber s.toStorage) (move : Move cfg s kind t)
    (obeyed : MoveObeys cfg backingRules s kind) : Backed t := by
  cases move with
  | @accrue farmId globalPool rewardPerPeriod reward accumulatedRpz farm numbered staked
      later rate capped booked =>
      refine AList.forall_lookup_insert ?_ ?_
      · obtain ⟨before, owed⟩ := backed _ _ farm
        have gained := booked.le_div floors
        rw [(consistent.farms _ _ farm).staked, ← consistent.staked_eq] at gained
        have distributed := entitlements_distribute before reward
        rw [← gained] at distributed
        refine ⟨before.mono ?_, ?_⟩
        · rw [gained]
          exact Nat.le_add_right _ _
        · exact distributed.trans (Nat.add_le_add_right owed reward)
      · intro other otherPool _ stored
        exact backed _ _ stored
  | collect farm pool active stale valued behind earned covered =>
      exact backed.putCurrent farm pool rfl rfl rfl (fun _ => rfl)
        (collected_covers active earned covered)
  | forfeit farm pool active unvalued behind earned covered =>
      exact backed.putCurrent farm pool rfl rfl rfl (fun _ => rfl)
        (collected_covers active earned covered)
  | @update slot globalPool liqPool _ _ _ _ farm pool =>
      have current : CheckpointCurrent s slot := obeyed .currentStake (by decide)
      have checkpoint := current _ _ farm pool
      exact backed.putCurrent farm pool rfl rfl rfl (fun _ => checkpoint)
        (Nat.le_add_right _ _)
  | cancel farm pool =>
      exact backed.putCurrent farm pool rfl rfl rfl nofun (Nat.le_add_right _ _)
  | resume farm pool =>
      exact backed.putCurrent farm pool rfl rfl rfl (fun _ => rfl) (Nat.le_add_right _ _)
  | @enter slot globalPool liqPool _ _ _ _ _ _ _ _ farm pool =>
      have current : CheckpointCurrent s slot := obeyed .currentStake (by decide)
      have checkpoint := current _ _ farm pool
      exact backed.putCurrent farm pool rfl rfl rfl (fun _ => checkpoint)
        (Nat.le_add_right _ _)
  | pay reports known recorded farm pool =>
      exact backed.put farm pool rfl rfl rfl ((backed _ _ farm).1 _ _ pool) le_rfl
  | @leave nftId _ _ _ metadata globalPool liqPool deposit _ _ _ reports known recorded farm
      pool shares valuedShares released held =>
      have farm : s.globalPoolData.lookup (metadata.slot cfg).1 = some globalPool := farm
      have behind := (backed _ _ farm).1 _ _ pool
      obtain canceled | active := Bool.eq_false_or_eq_true liqPool.canceled
      · exact backed.putCurrent farm pool rfl rfl rfl
          (fun active => absurd (active.symm.trans canceled) nofun) (Nat.le_add_right _ _)
      · rw [poolShare_of_active active] at behind
        refine backed.put farm pool rfl rfl rfl ?_ (Nat.add_le_add_left ?_ _)
        · rw [poolShare_of_active (by exact active)]
          exact behind
        · rw [poolShare_of_active (by exact active), poolShare_of_active active]
          exact Nat.mul_le_mul_left _ (Nat.sub_le _ _)
  | depart => exact backed
  | createFarm =>
      refine AList.forall_lookup_insert ?_ ?_
      · have absent := consistent.id_fresh.1
        have apart : ∀ slot liqPool, s.liquidityPoolData.lookup slot = some liqPool →
            poolShare (s.poolIdSequencer + 1) slot liqPool = .none :=
          fun slot liqPool pool => poolShare_of_ne (consistent.no_pools absent pool)
        refine ⟨?_, ?_⟩
        · intro slot liqPool pool
          rw [apart slot liqPool pool]
          exact Nat.zero_le _
        · refine (AList.total_eq_zero ?_).le
          intro slot liqPool pool
          rw [apart slot liqPool pool, Share.entitlement_none]
      · intro other otherPool _ stored
        exact backed _ _ stored
  | destroyFarm =>
      refine AList.forall_lookup_erase ?_
      intro other otherPool _ stored
      exact backed _ _ stored
  | drain => exact backed
  | @addPool farmId globalPool assetPair loyaltyCurve multiplier farm same curve vacant
      numbered =>
      refine backed.keep farm rfl rfl rfl ?_
      intro other rpz behind
      have unstaked : poolShare other (farmId, cfg.getPairId assetPair)
          (.new (s.poolIdSequencer + 1) (s.period globalPool) loyaltyCurve multiplier) =
            .none := by
        unfold poolShare
        split_ifs <;> rfl
      refine ⟨behind.insert ?_, ?_⟩
      · rw [unstaked]
        exact Nat.zero_le _
      · have added := entitlements_insert_of_none (poolShare other) rpz vacant
          (.new (s.poolIdSequencer + 1) (s.period globalPool) loyaltyCurve multiplier)
        rw [unstaked, Share.entitlement_none] at added
        exact added.le
  | removePool who assetPair farm pool =>
      refine backed.keep farm rfl rfl rfl ?_
      intro other rpz behind
      exact ⟨behind.erase _, (Nat.le_add_right _ _).trans (entitlements_erase _ _ pool).le⟩
  | external => exact backed

theorem backed_of_moves (floors : cfg.math.AccumulatesFloor)
    (reachable : ReachableUnder (Initial cfg) (Move cfg) (MoveObeys cfg backingRules) s) :
    Backed s := by
  refine (ReachableUnder.invariant
    (fun s => Consistent cfg s.blockNumber s.toStorage ∧ Backed s) ?_ ?_ reachable).2
  · intro s initial
    refine ⟨initial.consistent, ?_⟩
    intro farmId globalPool stored
    simp [initial.globalPoolData] at stored
  · rintro s kind t ⟨consistent, backed⟩ obeyed move
    exact ⟨consistent.move move, backed.move floors consistent move obeyed⟩

/-- A farm that is brought up to date still backs its pools. -/
theorem Backed.refresh (floors : cfg.math.AccumulatesFloor) (backed : Backed s)
    (consistent : Consistent cfg s.blockNumber s.toStorage) {farmId : ℕ}
    {globalPool globalPool' : GlobalPool} {s' : State}
    (farm : s.globalPoolData.lookup farmId = some globalPool)
    (refreshed : refreshGlobalPool cfg s globalPool (s.period globalPool) =
      .ok (s', globalPool')) :
    Behind (poolShare farmId) globalPool'.accumulatedRpz s.liquidityPoolData ∧
      entitlements (poolShare farmId) globalPool'.accumulatedRpz s.liquidityPoolData ≤
        globalPool'.accumulatedRewards := by
  obtain ⟨-, rfl, -⟩ | ⟨rewardPerPeriod, reward, accumulatedRpz, numbered, staked, later,
    rate, capped, booked, -, rfl⟩ := refreshGlobalPool_ok refreshed
  · exact backed _ _ farm
  · have accrued : Move cfg s (.accrue farmId) _ :=
      .accrue farm numbered staked later rate capped booked
    have unruled : MoveObeys cfg backingRules s (.accrue farmId) := by
      intro rule member
      rw [List.mem_singleton.mp member]
      trivial
    exact backed.move floors consistent accrued unruled _ _ (AList.lookup_insert _)

/-- As long as stake is added only to pools that are up to date, a farm has accrued
what all its pools are owed together, and none of them can claim too much. -/
theorem pools_backed (floors : cfg.math.AccumulatesFloor)
    (reachable : ReachableUnder (Initial cfg) (Step cfg) (Obeys cfg backingRules) s)
    {farmId : ℕ} {globalPool : GlobalPool}
    (farm : s.globalPoolData.lookup farmId = some globalPool) :
    owedToPools farmId globalPool.accumulatedRpz s.liquidityPoolData ≤
        globalPool.accumulatedRewards ∧
      ∀ slot liqPool, slot.1 = farmId →
        s.liquidityPoolData.lookup slot = some liqPool → liqPool.canceled = false →
        liqPool.accumulatedRpz ≤ globalPool.accumulatedRpz ∧
          ∀ s' globalPool', refreshGlobalPool cfg s globalPool (s.period globalPool) =
            .ok (s', globalPool') →
            checkedSub globalPool'.accumulatedRewards
              ((globalPool'.accumulatedRpz - liqPool.accumulatedRpz) *
                liqPool.stakeInGlobalPool) ≠ none := by
  have moves := reachable_moves reachable
  have consistent := consistent_of_moves moves
  have backed := backed_of_moves floors moves
  obtain ⟨behind, owed⟩ := backed _ _ farm
  refine ⟨(owedToPools_eq _ _ _).le.trans owed, ?_⟩
  rintro slot liqPool rfl pool active
  refine ⟨?_, ?_⟩
  · have paid := behind slot liqPool pool
    rw [poolShare_of_active active] at paid
    exact paid
  · intro s' globalPool' refreshed
    obtain ⟨-, stillOwed⟩ := backed.refresh floors consistent farm refreshed
    have share := (entitlement_le_entitlements (poolShare slot.1)
      globalPool'.accumulatedRpz pool).trans stillOwed
    rw [poolShare_of_active active] at share
    rw [Option.ne_none_iff_exists']
    exact ⟨_, checkedSub_eq_some.mpr ⟨share, rfl⟩⟩

/-- After a hundred periods with one staked pool, all that was accrued is owed to
it. -/
theorem pools_backed_accrued :
    ∃ s globalPool,
      simulateObeying backingRules [.blocks 1000,
        .call (.addLiquidityPool 0 1 ⟨1, 3⟩ FixedU128.one none)] = .ok s ∧
      s.globalPoolData.lookup 1 = some globalPool ∧
      owedToPools 1 globalPool.accumulatedRpz s.liquidityPoolData = 10 ^ 15 ∧
      owedToPools 1 globalPool.accumulatedRpz s.liquidityPoolData ≤
        globalPool.accumulatedRewards := by
  have computed : succeedsWith
      (simulateObeying backingRules [.blocks 1000,
        .call (.addLiquidityPool 0 1 ⟨1, 3⟩ FixedU128.one none)])
      (fun s => (s.globalPoolData.lookup 1).any fun globalPool =>
        owedToPools 1 globalPool.accumulatedRpz s.liquidityPoolData = 10 ^ 15) = true := by
    decide +kernel
  simp only [succeedsWith_iff, Option.any_eq_true, decide_eq_true_eq] at computed
  obtain ⟨s, run, globalPool, farm, owed⟩ := computed
  exact ⟨s, globalPool, run, farm, owed, (pools_backed Math.reference_lawful.accumulatedRps
    (reachableUnder_of_simulate run) farm).1⟩

/-- A pool added after a hundred periods starts with checkpoint zero, and its first
deposit is owed everything that was accrued before it.  Once it is paid, the
accrued rewards no longer cover the older pool. -/
theorem pools_not_backed :
    (¬ ∀ cfg s, cfg.math.Lawful → Reachable (Initial cfg) (Step cfg) s →
      ∀ farmId globalPool, s.globalPoolData.lookup farmId = some globalPool →
        owedToPools farmId globalPool.accumulatedRpz s.liquidityPoolData ≤
          globalPool.accumulatedRewards) ∧
    ¬ ∀ cfg s, cfg.math.Lawful → Reachable (Initial cfg) (Step cfg) s →
      ∀ slot globalPool liqPool, s.globalPoolData.lookup slot.1 = some globalPool →
        s.liquidityPoolData.lookup slot = some liqPool → liqPool.canceled = false →
        ∀ s' globalPool', refreshGlobalPool cfg s globalPool (s.period globalPool) =
          .ok (s', globalPool') →
          checkedSub globalPool'.accumulatedRewards
            ((globalPool'.accumulatedRpz - liqPool.accumulatedRpz) *
              liqPool.stakeInGlobalPool) ≠ none := by
  have computed : succeedsWith (do
      let s ← simulate [.blocks 1000,
        .call (.addLiquidityPool 0 1 ⟨1, 3⟩ FixedU128.one none),
        .call (.depositShares 2 1 ⟨1, 3⟩ 1000), .blocks 10,
        .call (.claimRewards 2 (encodeNftId 3 2))]
      let globalPool ← okOr (s.globalPoolData.lookup 1) .farmNotFound
      let liqPool ← okOr (s.liquidityPoolData.lookup (1, Xyk.getPairId ⟨1, 2⟩))
        .liquidityPoolNotFound
      let refreshed ← refreshGlobalPool .reference s globalPool (s.period globalPool)
      return (s, globalPool, liqPool, refreshed))
      (fun reached => decide (
        reached.2.1.accumulatedRewards <
          owedToPools 1 reached.2.1.accumulatedRpz reached.1.liquidityPoolData ∧
        reached.2.2.1.canceled = false ∧
        checkedSub reached.2.2.2.2.accumulatedRewards
            ((reached.2.2.2.2.accumulatedRpz - reached.2.2.1.accumulatedRpz) *
              reached.2.2.1.stakeInGlobalPool) = none)) = true := by
    decide +kernel
  simp only [succeedsWith_iff, bind_eq_ok, okOr_eq_ok, return_eq_ok, decide_eq_true_eq]
    at computed
  obtain ⟨_, ⟨s, run, globalPool, farm, liqPool, pool, ⟨s', globalPool'⟩, refreshed, rfl⟩,
    short, active, fails⟩ := computed
  have reachable := reachable_of_simulate run
  constructor
  · intro claim
    have covered := claim .reference s Math.reference_lawful reachable 1 globalPool farm
    exact absurd covered (not_le.mpr short)
  · intro claim
    exact claim .reference s Math.reference_lawful reachable _ globalPool liqPool farm pool
      active s' globalPool' refreshed fails

end Backing

end Basilisk.LiquidityMining
