/-
# The way out

Withdrawing a deposit updates the farm, lets the pool collect, pays the deposit,
takes it out of four counters, refunds the farm and returns the LP shares, and
any of these steps can stop the whole call.  This module shows that the running
sums stay within a machine word.  Together with solvency, backing, custody and
the reserves of the pools this lets every deposit leave.
-/

import Basilisk.LiquidityMining.Reserves
import Basilisk.LiquidityMining.Settlement

namespace Basilisk.LiquidityMining

open Basilisk.Math

/-- A farm's reward per share grew by no more than it accrued, and its stakes fit a
machine word. -/
def FarmsBooked (s : State) : Prop :=
  ∀ farmId globalPool, s.globalPoolData.lookup farmId = some globalPool →
    globalPool.accumulatedRpz ≤
        globalPool.accumulatedRewards + globalPool.paidAccumulatedRewards ∧
      globalPool.totalSharesZ < u128Bound

section Books

variable {cfg : Config} {s t : State} {kind : MoveKind}

theorem FarmsBooked.write (booked : FarmsBooked s) {farmId : ℕ} {globalPool' : GlobalPool}
    (farms : t.globalPoolData = s.globalPoolData.insert farmId globalPool')
    (rpz : globalPool'.accumulatedRpz ≤
      globalPool'.accumulatedRewards + globalPool'.paidAccumulatedRewards)
    (fits : globalPool'.totalSharesZ < u128Bound) : FarmsBooked t := by
  unfold FarmsBooked
  rw [farms]
  exact AList.forall_lookup_insert ⟨rpz, fits⟩ fun _ _ _ stored => booked _ _ stored

theorem FarmsBooked.move (lawful : cfg.math.Lawful) (booked : FarmsBooked s)
    (move : Move cfg s kind t) : FarmsBooked t := by
  cases move with
  | @accrue farmId globalPool rewardPerPeriod reward accumulatedRpz farm numbered staked
      later rate capped recorded =>
      obtain ⟨rpz, fits⟩ := booked _ _ farm
      have gained := recorded.le_div lawful.accumulatedRps
      have part := Nat.div_le_self reward globalPool.totalSharesZ
      refine booked.write rfl ?_ fits
      dsimp only
      omega
  | collect farm pool active stale valued behind earned covered =>
      obtain ⟨rpz, fits⟩ := booked _ _ farm
      refine booked.write rfl ?_ fits
      dsimp only
      omega
  | forfeit farm pool active unvalued behind earned covered =>
      obtain ⟨rpz, fits⟩ := booked _ _ farm
      refine booked.write rfl ?_ fits
      dsimp only
      omega
  | update farm pool active weighed held fits =>
      exact booked.write rfl (booked _ _ farm).1 fits
  | cancel farm =>
      exact booked.write rfl (booked _ _ farm).1
        ((Nat.sub_le _ _).trans_lt (booked _ _ farm).2)
  | resume farm pool idle weighed fits => exact booked.write rfl (booked _ _ farm).1 fits
  | enter farm pool active account nonzero valued weighed locked numbered sequenced minted
      known fits => exact booked.write rfl (booked _ _ farm).1 fits
  | pay reports known recorded farm =>
      exact booked.write rfl (booked _ _ farm).1 (booked _ _ farm).2
  | leave reports known recorded farm =>
      exact booked.write rfl (booked _ _ farm).1
        ((Nat.sub_le _ _).trans_lt (booked _ _ farm).2)
  | depart => exact booked
  | createFarm => exact booked.write rfl (Nat.zero_le _) (show 0 < u128Bound by decide)
  | destroyFarm => exact AList.forall_lookup_erase fun _ _ _ stored => booked _ _ stored
  | drain => exact booked
  | addPool multiplier farm =>
      exact booked.write rfl (booked _ _ farm).1 (booked _ _ farm).2
  | removePool who assetPair farm =>
      exact booked.write rfl (booked _ _ farm).1 (booked _ _ farm).2
  | external => exact booked

theorem farmsBooked_of_moves (lawful : cfg.math.Lawful) {guard : State → MoveKind → Prop}
    (reachable : ReachableUnder (Initial cfg) (Move cfg) guard s) : FarmsBooked s := by
  apply ReachableUnder.invariant FarmsBooked _ _ reachable
  · intro s initial farmId globalPool stored
    rw [initial.globalPoolData] at stored
    exact absurd stored nofun
  · intro s kind t booked _ move
    exact booked.move lawful move

end Books

/-- The conditions under which every deposit can leave. -/
def exitRules : List Rule :=
  [.fundedAccrual, .settledDrain, .outsideOwner, .currentStake, .listedDeposit, .unusedSlot]

/-- Those of them that keep the books in order, whatever the farms can pay. -/
def bookRules : List Rule := [.outsideOwner, .currentStake, .listedDeposit, .unusedSlot]

/-- All that a withdrawal relies on, but for the balance of the farm. -/
structure Sound (cfg : Config) (s : State) : Prop extends Reserved cfg s where
  backed : Backed s
  custody : InCustody cfg s
  booked : FarmsBooked s

theorem sound_of_moves {cfg : Config} {s : State} (checked : cfg.math.Checked)
    (reachable : ReachableUnder (Initial cfg) (Move cfg) (MoveObeys cfg bookRules) s) :
    Sound cfg s where
  toReserved := reserved_of_moves checked (moves_of_subset (by decide) reachable)
  backed := backed_of_moves checked.accumulatedRps (moves_of_subset (by decide) reachable)
  custody := inCustody_of_moves (moves_of_subset (by decide) reachable)
  booked := farmsBooked_of_moves checked.toLawful reachable

section Success

variable {cfg : Config} {s s' t : State} {slot : Slot} {label : Label}
variable {globalPool globalPool' : GlobalPool} {liqPool liqPool' : LiquidityPoolYieldFarm}

/-- A reward that fits can be booked. -/
theorem accrueReward_succeeds (checked : cfg.math.Checked) {reward : ℕ}
    (staked : globalPool.totalSharesZ ≠ 0)
    (rpz : globalPool.accumulatedRpz + reward < u128Bound)
    (fits : globalPool.accumulatedRewards + reward < u128Bound) :
    ∃ globalPool', accrueReward cfg globalPool reward = .ok globalPool' := by
  unfold accrueReward
  split_ifs
  · exact ⟨_, rfl⟩
  · have part := Nat.div_le_self reward globalPool.totalSharesZ
    obtain ⟨accumulatedRpz, computed⟩ := Option.isSome_iff_exists.mp
      (checked.accumulatedRps_isSome staked
        (show globalPool.accumulatedRpz + reward / globalPool.totalSharesZ < u128Bound by omega))
    simp only [bind_eq_ok, okOr_eq_ok, checkedAdd_eq_some, return_eq_ok]
    exact ⟨_, accumulatedRpz, computed, _, ⟨fits, rfl⟩, rfl⟩

theorem updateGlobalPool_succeeds (checked : cfg.math.Checked) {now rewardPerPeriod : ℕ}
    (numbered : globalPool.id ≠ 0) (updated : globalPool.updatedAt ≤ now)
    (rpz : globalPool.accumulatedRpz ≤
      globalPool.accumulatedRewards + globalPool.paidAccumulatedRewards)
    (fits : globalPool.accumulatedRewards + globalPool.paidAccumulatedRewards +
      (now - globalPool.updatedAt) * rewardPerPeriod < u128Bound) :
    ∃ s' globalPool',
      updateGlobalPool cfg s globalPool now rewardPerPeriod = .ok (s', globalPool') := by
  unfold updateGlobalPool
  split_ifs with current unstaked
  · exact ⟨_, _, rfl⟩
  · exact ⟨_, _, rfl⟩
  · have capped := min_le_left ((now - globalPool.updatedAt) * rewardPerPeriod)
      (s.ledger.free (.palletSubAccount globalPool.id) globalPool.rewardCurrency)
    obtain ⟨globalPool', accrued⟩ := accrueReward_succeeds checked unstaked
      (show globalPool.accumulatedRpz + min ((now - globalPool.updatedAt) * rewardPerPeriod)
        (s.ledger.free (.palletSubAccount globalPool.id) globalPool.rewardCurrency) <
          u128Bound by omega) (by omega)
    simp only [bind_eq_ok, okOr_eq_ok, checkedSub_eq_some, checkedMul_eq_some,
      poolAccountId_eq_ok, return_eq_ok]
    exact ⟨_, _, _, ⟨updated, rfl⟩, _, ⟨numbered, rfl⟩, _, ⟨by omega, rfl⟩, globalPool',
      accrued, rfl⟩

/-- A farm can be brought up to date while its rewards fit a machine word. -/
theorem refreshGlobalPool_succeeds (checked : cfg.math.Checked) (sound : Sound cfg s)
    {farmId : ℕ} (farm : s.globalPoolData.lookup farmId = some globalPool)
    (fits : globalPool.accumulatedRewards + globalPool.paidAccumulatedRewards +
      (s.period globalPool - globalPool.updatedAt) * globalPool.maxRewardPerPeriod <
        u128Bound) :
    ∃ s' globalPool',
      refreshGlobalPool cfg s globalPool (s.period globalPool) = .ok (s', globalPool') ∧
      globalPool'.accumulatedRewards + globalPool'.paidAccumulatedRewards < u128Bound := by
  have consistent := sound.consistent.farms _ _ farm
  obtain ⟨rpz, stakes⟩ := sound.booked _ _ farm
  have atMost : ∀ {rewardPerPeriod}, cfg.math.calculateGlobalPoolRewardPerPeriod
      globalPool.yieldPerPeriod.toFixed globalPool.totalSharesZ globalPool.maxRewardPerPeriod =
        some rewardPerPeriod →
      (s.period globalPool - globalPool.updatedAt) * rewardPerPeriod ≤
        (s.period globalPool - globalPool.updatedAt) * globalPool.maxRewardPerPeriod := by
    intro rewardPerPeriod rate
    rw [checked.rewardPerPeriod rate]
    exact Nat.mul_le_mul_left _ (min_le_right _ _)
  have succeeds : ∃ s' globalPool',
      refreshGlobalPool cfg s globalPool (s.period globalPool) = .ok (s', globalPool') := by
    unfold refreshGlobalPool
    split_ifs with working
    · have narrow : FixedU128.mulInt globalPool.yieldPerPeriod.toFixed globalPool.totalSharesZ <
          u128Bound :=
        (FixedU128.mulInt_le_of_le_one (Permill.toFixed_le_one _) _).trans_lt stakes
      have defined : (cfg.math.calculateGlobalPoolRewardPerPeriod
          globalPool.yieldPerPeriod.toFixed globalPool.totalSharesZ
          globalPool.maxRewardPerPeriod).isSome = true := checked.rewardPerPeriod_isSome narrow
      obtain ⟨rewardPerPeriod, rate⟩ := Option.isSome_iff_exists.mp defined
      have due := atMost rate
      obtain ⟨s', globalPool', updated⟩ := updateGlobalPool_succeeds (s := s) checked
        (consistent.id ▸ consistent.positive.ne') consistent.updated rpz
        (show _ + (s.period globalPool - _) * rewardPerPeriod < u128Bound by omega)
      exact ⟨s', globalPool', bind_eq_ok.mpr ⟨_, okOr_eq_ok.mpr rate, updated⟩⟩
    · exact ⟨s, globalPool, rfl⟩
  obtain ⟨s', globalPool', refreshed⟩ := succeeds
  refine ⟨s', globalPool', refreshed, ?_⟩
  obtain ⟨-, rfl, -⟩ | ⟨rewardPerPeriod, reward, accumulatedRpz, -, -, -, rate, capped, -, -,
    rfl⟩ := refreshGlobalPool_ok refreshed
  · omega
  · have due := atMost rate
    have byPeriods : reward ≤ _ := capped.le.trans (min_le_left _ _)
    dsimp only
    omega

/-- A pool that is not ahead of its farm can be given what it is owed. -/
theorem claimFromGlobalPool_succeeds {reward : ℕ}
    (behind : liqPool.accumulatedRpz ≤ globalPool.accumulatedRpz)
    (earned : reward =
      (globalPool.accumulatedRpz - liqPool.accumulatedRpz) * liqPool.stakeInGlobalPool)
    (owed : reward ≤ globalPool.accumulatedRewards)
    (fits : globalPool.accumulatedRewards + globalPool.paidAccumulatedRewards < u128Bound) :
    claimFromGlobalPool globalPool liqPool liqPool.stakeInGlobalPool =
      .ok ({ globalPool with
          paidAccumulatedRewards := globalPool.paidAccumulatedRewards + reward
          accumulatedRewards := globalPool.accumulatedRewards - reward },
        { liqPool with accumulatedRpz := globalPool.accumulatedRpz }, reward) := by
  subst earned
  simp only [claimFromGlobalPool, bind_eq_ok, okOr_eq_ok, return_eq_ok, checkedSub_eq_some,
    checkedMul_eq_some, checkedAdd_eq_some]
  exact ⟨_, ⟨behind, rfl⟩, _, ⟨by omega, rfl⟩, _, ⟨by omega, rfl⟩, _, ⟨owed, rfl⟩, rfl⟩

/-- A pool can be updated if the farm holds the rewards and they fit a machine word. -/
theorem updateLiqPool_succeeds (checked : cfg.math.Checked) {reward now farmId : ℕ}
    {currency : AssetId} (numbered : liqPool.id ≠ 0) (farmNumbered : farmId ≠ 0)
    (fits : liqPool.accumulatedRpvs + reward < u128Bound)
    (covered : reward ≤ s.ledger.free (.palletSubAccount farmId) currency) :
    ∃ s' liqPool',
      updateLiqPool cfg s liqPool reward now farmId currency = .ok (s', liqPool') := by
  unfold updateLiqPool
  split_ifs with current unvalued
  · exact ⟨_, _, rfl⟩
  · exact ⟨_, _, rfl⟩
  · have part := Nat.div_le_self reward liqPool.totalValuedShares
    obtain ⟨accumulatedRpvs, computed⟩ := Option.isSome_iff_exists.mp
      (checked.accumulatedRps_isSome unvalued
        (show liqPool.accumulatedRpvs + reward / liqPool.totalValuedShares < u128Bound by omega))
    have paid : (s.ledger.transfer currency (.palletSubAccount farmId)
        (.palletSubAccount liqPool.id) reward).isSome = true :=
      Ledger.transfer_isSome_iff.mpr covered
    obtain ⟨ledger, moved⟩ := Option.isSome_iff_exists.mp paid
    simp only [bind_eq_ok, okOr_eq_ok, ensure_eq_ok, poolAccountId_eq_ok, return_eq_ok,
      State.transfer_eq_ok, exists_const]
    exact ⟨_, _, accumulatedRpvs, computed, _, ⟨farmNumbered, rfl⟩, covered, _,
      ⟨numbered, rfl⟩, _, ⟨ledger, moved, rfl⟩, rfl⟩

theorem Consistent.liqPool_numbered (consistent : Consistent cfg s.blockNumber s.toStorage)
    (pool : s.liquidityPoolData.lookup slot = some liqPool) : liqPool.id ≠ 0 := by
  obtain ⟨metadata, known, -⟩ := (consistent.pools _ _ pool).known
  exact (consistent.metadata _ _ known).positive.ne'

/-- What an active pool is owed is accrued. -/
theorem Backed.owed (backed : Backed s) (active : liqPool.canceled = false)
    (farm : s.globalPoolData.lookup slot.1 = some globalPool)
    (pool : s.liquidityPoolData.lookup slot = some liqPool) :
    liqPool.accumulatedRpz ≤ globalPool.accumulatedRpz ∧
      (globalPool.accumulatedRpz - liqPool.accumulatedRpz) * liqPool.stakeInGlobalPool ≤
        globalPool.accumulatedRewards := by
  obtain ⟨behind, owed⟩ := backed _ _ farm
  have checkpoint := behind slot liqPool pool
  have share := (entitlement_le_entitlements (poolShare slot.1) globalPool.accumulatedRpz
    pool).trans owed
  rw [poolShare_of_active active] at checkpoint share
  exact ⟨checkpoint, share⟩

/-- The account of a farm covers what a pool collects from it when both are brought up to
date. -/
def CollectionCovered (cfg : Config) (s : State) (slot : Slot) : Prop :=
  ∀ globalPool liqPool s' globalPool', s.globalPoolData.lookup slot.1 = some globalPool →
    s.liquidityPoolData.lookup slot = some liqPool →
    refreshGlobalPool cfg s globalPool (s.period globalPool) = .ok (s', globalPool') →
    (globalPool'.accumulatedRpz - liqPool.accumulatedRpz) * liqPool.stakeInGlobalPool ≤
      s.ledger.free (.palletSubAccount globalPool.id) globalPool.rewardCurrency

/-- A pool that is due an update can collect: its farm is funded, or has at least what this
pool collects.  A farm that ran out keeps what rounding left in its account and accrues it
again, so it is not funded, but it owes nobody more than it has. -/
def Collectable (cfg : Config) (s : State) (slot : Slot) : Prop :=
  Due s slot → Funded cfg s slot.1 ∨ CollectionCovered cfg s slot

/-- In a run under the rules a funded farm has what a pool collects. -/
theorem Collectable.covered (checked : cfg.math.Checked)
    (reachable : ReachableUnder (Initial cfg) (Move cfg) (MoveObeys cfg exitRules) s)
    (obeyed : Obeys cfg bookRules s label) (collectable : Collectable cfg s slot)
    (due : Due s slot) : CollectionCovered cfg s slot := by
  refine (collectable due).elim ?_ id
  intro funded globalPool liqPool s' globalPool' farm pool refreshed
  have active := ((due_iff farm pool).mp due).1
  have solvent := solvent_of_moves (moves_of_subset (by decide) reachable) _ _ farm
  obtain ⟨farms, up⟩ :=
    refreshed_of_refreshGlobalPool label farm (fun _ => funded) refreshed
  have backed := (sound_of_moves checked ((moves_of_subset (by decide) reachable).steps
    (up.path.obeys obeyed))).backed
  have pool' : s'.liquidityPoolData.lookup slot = some liqPool := by
    obtain ⟨events, rfl⟩ := up.shape
    exact pool
  refine (backed.owed active up.farm pool').2.trans ?_
  obtain ⟨-, rfl, -⟩ | ⟨rewardPerPeriod, reward, accumulatedRpz, -, staked, later, rate,
    capped, -, -, rfl⟩ := refreshGlobalPool_ok refreshed
  · exact solvent
  · exact accrued_le_free farm staked later rate capped funded

/-- Pools can be brought up to date: what they are owed is accrued, the farm has it, and it
fits a machine word. -/
theorem maybeUpdatePools_succeeds (checked : cfg.math.Checked)
    (reachable : ReachableUnder (Initial cfg) (Move cfg) (MoveObeys cfg bookRules) s)
    (obeyed : Obeys cfg bookRules s label)
    (funded : Rule.fundedAccrual.Allows cfg s label → Due s slot → Funded cfg s slot.1)
    (covered : Due s slot → CollectionCovered cfg s slot)
    (farm : s.globalPoolData.lookup slot.1 = some globalPool)
    (pool : s.liquidityPoolData.lookup slot = some liqPool)
    (fits : globalPool.accumulatedRewards + globalPool.paidAccumulatedRewards +
      (s.period globalPool - globalPool.updatedAt) * globalPool.maxRewardPerPeriod <
        u128Bound) :
    ∃ s' globalPool' liqPool',
      maybeUpdatePools cfg s globalPool liqPool (s.period globalPool) =
        .ok (s', globalPool', liqPool') ∧
      globalPool'.accumulatedRewards + globalPool'.paidAccumulatedRewards < u128Bound := by
  unfold maybeUpdatePools
  split_ifs with canceled working
  · exact ⟨_, _, _, rfl, by omega⟩
  · have active := Bool.eq_false_of_not_eq_true canceled
    have due : Due s slot := ⟨_, _, farm, pool, active, working⟩
    obtain ⟨s', globalPool', refreshed, narrow⟩ :=
      refreshGlobalPool_succeeds checked (sound_of_moves checked reachable) farm fits
    obtain ⟨farms, up⟩ := refreshed_of_refreshGlobalPool label farm
      (fun allowed => funded allowed due) refreshed
    have sound := sound_of_moves checked (reachable.steps (up.path.obeys obeyed))
    have pool' : s'.liquidityPoolData.lookup slot = some liqPool := by
      obtain ⟨events, rfl⟩ := up.shape
      exact pool
    have reserved := sound.pools slot globalPool' liqPool up.farm pool'
    obtain ⟨behind, owed⟩ := sound.backed.owed active up.farm pool'
    have claimed := claimFromGlobalPool_succeeds behind rfl owed narrow
    have numbered := sound.consistent.liqPool_numbered pool'
    have covered : (globalPool'.accumulatedRpz - liqPool.accumulatedRpz) *
        liqPool.stakeInGlobalPool ≤
          s'.ledger.free (.palletSubAccount globalPool'.id) globalPool'.rewardCurrency := by
      have collected := covered due _ _ _ _ farm pool refreshed
      obtain ⟨events, rfl⟩ := up.shape
      obtain ⟨_, _, _, rfl⟩ := up.kept
      exact collected
    have rpvs := reserved.rpvs
    have consistent := sound.consistent.farms _ _ up.farm
    have farmNumbered : globalPool'.id ≠ 0 := consistent.id ▸ consistent.positive.ne'
    have updates : ∃ s'' liqPool', updateLiqPool cfg s'
        { liqPool with accumulatedRpz := globalPool'.accumulatedRpz }
        ((globalPool'.accumulatedRpz - liqPool.accumulatedRpz) * liqPool.stakeInGlobalPool)
        (s.period globalPool) globalPool'.id globalPool'.rewardCurrency =
          .ok (s'', liqPool') :=
      updateLiqPool_succeeds checked numbered farmNumbered (by dsimp only; omega) covered
    obtain ⟨s'', liqPool', updated⟩ := updates
    exact ⟨_, _, _, bind_eq_ok.mpr ⟨_, refreshed, bind_eq_ok.mpr ⟨_, claimed,
      bind_eq_ok.mpr ⟨_, updated, rfl⟩⟩⟩, by dsimp only; omega⟩
  · exact ⟨_, _, _, rfl, by omega⟩

/-- A deposit can be paid out of the account of its pool, which then still covers
what goes back to the farm. -/
theorem doClaimRewards_succeeds (checked : cfg.math.Checked)
    {deposits : AList fun _ : ℕ => Deposit} {deposit : Deposit} {nftId key now : ℕ}
    (reserved : PoolReserved cfg s.ledger globalPool liqPool deposits)
    (tallied : PoolTallied liqPool deposits)
    (defined : ∃ loyalty, getLoyaltyMultiplier cfg (now - deposit.enteredAt)
      liqPool.loyaltyCurve = .ok loyalty)
    (numbered : liqPool.id ≠ 0)
    (recorded : deposits.lookup nftId = some deposit) (own : poolIdOf nftId = liqPool.id)
    (ordered : deposit.enteredAt ≤ deposit.updatedAt) (updated : deposit.updatedAt ≤ now)
    (fits : globalPool.paidAccumulatedRewards < u128Bound) :
    ∃ s' deposit' reward unclaimable,
      doClaimRewards cfg s (.signer key) deposit liqPool now globalPool.rewardCurrency =
        .ok (s', deposit', reward, unclaimable) ∧
      unclaimable ≤
        s'.ledger.free (.palletSubAccount liqPool.id) globalPool.rewardCurrency := by
  have entered : deposit.enteredAt ≤ now := ordered.trans updated
  by_cases paid : deposit.updatedAt = now
  · refine ⟨s, deposit, 0, 0, ?_, Nat.zero_le _⟩
    simp only [doClaimRewards, bind_eq_ok, okOr_eq_ok, checkedSub_eq_some, and_assoc]
    exact ⟨_, entered, rfl, if_pos paid⟩
  · obtain ⟨loyalty, loyal⟩ := defined
    have claimed := (reserved.claimed _ _ recorded own).allowed _ _
      (Nat.sub_le_sub_right updated _) loyal
    have narrow : earned liqPool deposit < u128Bound :=
      ((weight_le_tally recorded own (earned liqPool)).trans reserved.entitled).trans_lt fits
    have shrunk := FixedU128.mulInt_le_of_le_one
      (getLoyaltyMultiplier_le_one checked.toLawful loyal) (earned liqPool deposit)
    have available := reserved.available recorded own
    rw [doClaimRewards_due checked numbered entered paid (tallied.behind _ _ recorded own)
      narrow loyal claimed]
    have covered : (s.ledger.transfer globalPool.rewardCurrency (.palletSubAccount liqPool.id)
        (.signer key) (FixedU128.mulInt loyalty (earned liqPool deposit) -
          deposit.accumulatedClaimedRewards)).isSome = true :=
      Ledger.transfer_isSome_iff.mpr (by omega)
    obtain ⟨ledger, moved⟩ := Option.isSome_iff_exists.mp covered
    have sent := Ledger.free_transfer_sender moved (by simp)
    rw [State.transfer_eq_ok.mpr ⟨ledger, moved, rfl⟩]
    exact ⟨_, _, _, _, rfl, by dsimp only; omega⟩

/-- The stake of a deposit can be taken out of its pool and farm. -/
theorem releaseStake_succeeds (lawful : cfg.math.Lawful) (weighs : cfg.math.Weighs)
    {valuedShares : ℕ}
    (weighed : liqPool.canceled = false →
      FixedU128.mulInt liqPool.multiplier valuedShares ≤ liqPool.stakeInGlobalPool)
    (held : liqPool.stakeInGlobalPool ≤ globalPool.totalSharesZ)
    (fits : globalPool.totalSharesZ < u128Bound) :
    ∃ globalPool' liqPool',
      releaseStake cfg globalPool liqPool valuedShares = .ok (globalPool', liqPool') := by
  unfold releaseStake
  split_ifs with canceled
  · exact ⟨_, _, rfl⟩
  · have within := weighed (Bool.eq_false_of_not_eq_true canceled)
    obtain ⟨stake, computed⟩ := Option.isSome_iff_exists.mp
      (weighs (within.trans held |>.trans_lt fits))
    rw [← lawful.globalPoolShares computed] at within
    simp only [bind_eq_ok, okOr_eq_ok, checkedSub_eq_some, return_eq_ok]
    exact ⟨_, _, stake, computed, _, ⟨within, rfl⟩, _, ⟨within.trans held, rfl⟩, rfl⟩

/-- A withdrawal pays in the reward currency of the farm only. -/
theorem withdrawFromLiqPool_spares {who : AccountId} {deposit : Deposit}
    (farm : s.globalPoolData.lookup slot.1 = some globalPool)
    (called : withdrawFromLiqPool cfg s who slot liqPool deposit = .ok t) :
    t.nft = s.nft ∧ t.amm = s.amm ∧ ∀ account currency,
      currency ≠ globalPool.rewardCurrency →
        t.ledger.free account currency = s.ledger.free account currency := by
  simp only [withdrawFromLiqPool, farm, okOr, ok_bind, bind_eq_ok, return_eq_ok,
    State.transfer_eq_ok] at called
  obtain ⟨_, -, ⟨s', globalPool', liqPool'⟩, updated, ⟨s'', _, reward, _⟩, claimed, _, -, _, -,
    _, -, _, -, ⟨_, _⟩, released, _, ⟨ledger, refund, rfl⟩, rfl⟩ := called
  obtain ⟨⟨ledger', reports, -, rfl⟩, spared, ⟨_, _, _, _, rfl⟩, -⟩ :=
    updated_of_maybeUpdatePools updated
  obtain ⟨stake, -, -, -, rfl, -⟩ := releaseStake_ok released
  have paid : s''.nft = s.nft ∧ s''.amm = s.amm ∧ ∀ account currency,
      currency ≠ globalPool.rewardCurrency →
        s''.ledger.free account currency = s.ledger.free account currency := by
    obtain ⟨-, ⟨-, rfl, -⟩ | ⟨_, _, -, -, -, moved, rfl, -⟩⟩ := doClaimRewards_ok claimed
    · exact ⟨rfl, rfl, spared⟩
    · refine ⟨rfl, rfl, ?_⟩
      intro account currency distinct
      exact (Ledger.free_transfer_of_ne_currency moved account distinct).trans
        (spared account currency distinct)
  obtain ⟨nft, amm, balances⟩ := paid
  have refunded : ∀ account currency, currency ≠ globalPool.rewardCurrency →
      ledger.free account currency = s.ledger.free account currency := by
    intro account currency distinct
    exact (Ledger.free_transfer_of_ne_currency refund account distinct).trans
      (balances account currency distinct)
  dsimp only [State.setLiqPool, State.setGlobalPool]
  split_ifs
  · exact ⟨nft, amm, refunded⟩
  · exact ⟨nft, amm, refunded⟩

/-- The loyalty multiplier has a value for the deposits of the pool in the slot. -/
def LoyaltyDefinedAt (cfg : Config) (s : State) (slot : Slot) : Prop :=
  ∀ liqPool, s.liquidityPoolData.lookup slot = some liqPool →
    LoyaltyDefined cfg liqPool.loyaltyCurve

/-- The loyalty curve of the pool in the slot, if it has one, has a scale. -/
def CurveScaled (s : State) (slot : Slot) : Prop :=
  ∀ liqPool, s.liquidityPoolData.lookup slot = some liqPool →
    ∀ curve ∈ liqPool.loyaltyCurve, curve.scaleCoef ≠ 0

instance (s : State) (slot : Slot) : Decidable (CurveScaled s slot) :=
  inferInstanceAs (Decidable (∀ liqPool ∈ s.liquidityPoolData.lookup slot,
    ∀ curve ∈ liqPool.loyaltyCurve, curve.scaleCoef ≠ 0))

theorem CurveScaled.defined (checked : cfg.math.Checked)
    (consistent : Consistent cfg s.blockNumber s.toStorage) (scaled : CurveScaled s slot) :
    LoyaltyDefinedAt cfg s slot := by
  intro liqPool pool
  exact loyaltyDefined_of_scaled checked (consistent.pools _ _ pool).curve (scaled _ pool)

/-- The rules for the books do not restrict withdrawals. -/
theorem obeys_withdrawShares (key nftId : ℕ) :
    Obeys cfg bookRules s (.call (.withdrawShares key nftId)) := by
  intro rule member
  cases rule with
  | fundedAccrual => exact absurd member (by decide)
  | _ => trivial

/-- A deposit can be settled against its pool. -/
theorem withdrawFromLiqPool_succeeds (checked : cfg.math.Checked)
    (reachable : ReachableUnder (Initial cfg) (Move cfg) (MoveObeys cfg bookRules) s)
    {key nftId : ℕ} {metadata : Metadata} {deposit : Deposit}
    (covered : Due s (metadata.slot cfg) → CollectionCovered cfg s (metadata.slot cfg))
    (defined : LoyaltyDefinedAt cfg s (metadata.slot cfg))
    (known : s.liquidityPoolMetadata.lookup (poolIdOf nftId) = some metadata)
    (recorded : s.depositData.lookup nftId = some deposit)
    (farm : s.globalPoolData.lookup metadata.farmId = some globalPool)
    (pool : s.liquidityPoolData.lookup (metadata.slot cfg) = some liqPool)
    (fits : globalPool.accumulatedRewards + globalPool.paidAccumulatedRewards +
      (s.period globalPool - globalPool.updatedAt) * globalPool.maxRewardPerPeriod <
        u128Bound) :
    ∃ t, withdrawFromLiqPool cfg s (.signer key) (metadata.slot cfg) liqPool deposit =
      .ok t := by
  have funded : Rule.fundedAccrual.Allows cfg s (.call (.withdrawShares key nftId)) →
      Due s (metadata.slot cfg) → Funded cfg s metadata.farmId :=
    funded_of_withdrawShares known
  have obeyed : Obeys cfg bookRules s (.call (.withdrawShares key nftId)) :=
    obeys_withdrawShares key nftId
  obtain ⟨s', globalPool', liqPool', updated, narrow⟩ :=
    maybeUpdatePools_succeeds checked reachable obeyed funded covered farm pool fits
  obtain ⟨farms, pools, settled⟩ := settled_of_maybeUpdatePools _ _ farm pool funded updated
  have before := sound_of_moves checked reachable
  have sound := sound_of_moves checked (reachable.steps (settled.path.obeys obeyed))
  have recorded' : s'.depositData.lookup nftId = some deposit := by
    obtain ⟨_, _, rfl⟩ := settled.shape
    exact recorded
  have known' : s'.liquidityPoolMetadata.lookup (poolIdOf nftId) = some metadata := by
    obtain ⟨_, _, rfl⟩ := settled.shape
    exact known
  have own := (sound.own _ _ _ known' settled.pool).symm
  have tallied := sound.tallied _ _ settled.pool
  have stake := sound.consistent.stake_le settled.farm settled.pool
  have fitsZ := (sound.booked _ _ settled.farm).2
  have numbered := sound.consistent.liqPool_numbered settled.pool
  have consistent := sound.consistent.farms _ _ settled.farm
  have proper := (before.consistent.farms _ _ farm).proper
  have dated := before.consistent.deposits _ _ recorded
  have lastPaid : deposit.updatedAt ≤ s.period globalPool := by
    obtain ⟨found, stored, paid⟩ := dated.known
    obtain rfl := Option.some.inj (stored.symm.trans known)
    exact paid _ farm
  have loyal : ∃ loyalty, getLoyaltyMultiplier cfg (s.period globalPool - deposit.enteredAt)
      liqPool'.loyaltyCurve = .ok loyalty := by
    obtain ⟨_, _, _, rfl⟩ := settled.poolKept
    exact defined _ pool _
  have claims : ∃ s'' deposit' reward unclaimable, doClaimRewards cfg s' (.signer key) deposit
        liqPool' (s.period globalPool) globalPool'.rewardCurrency =
          .ok (s'', deposit', reward, unclaimable) ∧
      unclaimable ≤ s''.ledger.free (.palletSubAccount liqPool'.id)
        globalPool'.rewardCurrency :=
    doClaimRewards_succeeds checked (sound.pools _ _ _ settled.farm settled.pool) tallied loyal
      numbered recorded' own dated.ordered lastPaid (by omega)
  obtain ⟨s'', deposit', reward, unclaimable, claimed, spare⟩ := claims
  have same : deposit'.shares = deposit.shares ∧
      deposit'.valuedShares = deposit.valuedShares := by
    obtain ⟨-, ⟨-, -, rfl, -⟩ | ⟨_, _, -, -, -, -, -, rfl⟩⟩ := doClaimRewards_ok claimed
    · exact ⟨rfl, rfl⟩
    · exact ⟨rfl, rfl⟩
  have shares := tallied.shares_le recorded' own
  have valuedShares := tallied.valuedShares_le recorded' own
  have weighed := tallied.weight_le recorded' own
  rw [← same.1] at shares
  rw [← same.2] at valuedShares weighed
  have releases : ∃ globalPool'' liqPool'', releaseStake cfg globalPool'
      { liqPool' with
        totalShares := liqPool'.totalShares - deposit'.shares
        totalValuedShares := liqPool'.totalValuedShares - deposit'.valuedShares }
      deposit'.valuedShares = .ok (globalPool'', liqPool'') :=
    releaseStake_succeeds checked.toLawful checked.globalPoolShares_isSome weighed stake fitsZ
  obtain ⟨globalPool'', liqPool'', released⟩ := releases
  obtain ⟨_, -, -, -, rfl, -⟩ := releaseStake_ok released
  have refunds : (s''.ledger.transfer globalPool'.rewardCurrency
      (.palletSubAccount liqPool'.id) (.palletSubAccount globalPool'.id)
      unclaimable).isSome = true := Ledger.transfer_isSome_iff.mpr spare
  obtain ⟨ledger, refunded⟩ := Option.isSome_iff_exists.mp refunds
  simp only [withdrawFromLiqPool, bind_eq_ok, okOr_eq_ok, getNowPeriod_eq_ok,
    poolAccountId_eq_ok, checkedSub_eq_some, State.transfer_eq_ok, return_eq_ok]
  exact ⟨_, globalPool, farm, _, ⟨proper, rfl⟩, _, updated, _, claimed, _,
    ⟨consistent.id ▸ consistent.positive.ne', rfl⟩, _, ⟨numbered, rfl⟩, _, ⟨shares, rfl⟩, _,
    ⟨valuedShares, rfl⟩, _, released, _, ⟨ledger, refunded, rfl⟩, rfl⟩

end Success

/-- The rewards a farm has accrued, paid and may accrue until now fit a machine word,
and are not paid in the share token of the pair. -/
def RewardsFit (s : State) (metadata : Metadata) : Prop :=
  ∀ globalPool, s.globalPoolData.lookup metadata.farmId = some globalPool →
    globalPool.accumulatedRewards + globalPool.paidAccumulatedRewards +
        (s.period globalPool - globalPool.updatedAt) * globalPool.maxRewardPerPeriod <
      u128Bound ∧
    globalPool.rewardCurrency ≠ s.amm.getShareToken metadata.assetPair

instance (s : State) (metadata : Metadata) : Decidable (RewardsFit s metadata) :=
  inferInstanceAs (Decidable (∀ globalPool ∈ s.globalPoolData.lookup metadata.farmId,
    globalPool.accumulatedRewards + globalPool.paidAccumulatedRewards +
        (s.period globalPool - globalPool.updatedAt) * globalPool.maxRewardPerPeriod <
      u128Bound ∧
    globalPool.rewardCurrency ≠ s.amm.getShareToken metadata.assetPair))

section Leaving

variable {cfg : Config} {s t : State} {key nftId : ℕ} {metadata : Metadata}
variable {deposit : Deposit}

theorem HandedBack.received {assetPair : AssetPair} {shares : ℕ}
    (handed : HandedBack s assetPair (.signer key) shares t) :
    t.ledger.free (.signer key) (s.amm.getShareToken assetPair) =
      s.ledger.free (.signer key) (s.amm.getShareToken assetPair) + shares :=
  Ledger.free_transfer_receiver handed.moved nofun

/-- A deposit whose pair has a pool can be withdrawn. -/
theorem withdrawShares_succeeds (checked : cfg.math.Checked)
    (moves : ReachableUnder (Initial cfg) (Move cfg) (MoveObeys cfg exitRules) s)
    (known : s.liquidityPoolMetadata.lookup (poolIdOf nftId) = some metadata)
    (recorded : s.depositData.lookup nftId = some deposit)
    (owned : s.nft.owner (cfg.nftClass, nftId) = some (.signer key))
    (present : s.amm.poolExists metadata.assetPair = true)
    (collectable : Collectable cfg s (metadata.slot cfg))
    (defined : LoyaltyDefinedAt cfg s (metadata.slot cfg)) (fits : RewardsFit s metadata) :
    ∃ t, withdrawShares cfg s (.signer key) nftId = .ok t ∧
      t.ledger.free (.signer key) (s.amm.getShareToken metadata.assetPair) =
        s.ledger.free (.signer key) (s.amm.getShareToken metadata.assetPair) +
          deposit.shares := by
  have books : ReachableUnder (Initial cfg) (Move cfg) (MoveObeys cfg bookRules) s :=
    moves_of_subset (by decide) moves
  have sound := sound_of_moves checked books
  cases pool : s.liquidityPoolData.lookup (metadata.slot cfg) with
  | none =>
      obtain ⟨t, withdrawn, handed⟩ := withdrawShares_vacant sound.consistent sound.custody
        known recorded owned present pool
      exact ⟨t, withdrawn, handed.received⟩
  | some liqPool =>
      obtain ⟨globalPool, farm⟩ := (sound.consistent.pools _ _ pool).farm
      obtain ⟨narrow, distinct⟩ := fits _ farm
      obtain ⟨u, settled⟩ := withdrawFromLiqPool_succeeds checked books
        (collectable.covered checked moves (obeys_withdrawShares key nftId)) defined known
        recorded farm pool narrow
      obtain ⟨nft, amm, spared⟩ := withdrawFromLiqPool_spares farm settled
      have held := sound.custody.transfer_isSome known recorded present
      rw [← spared _ _ distinct.symm, ← amm] at held
      obtain ⟨t, finished, handed⟩ := finishWithdrawal_succeeds (by rw [nft, owned])
        (by rw [amm, present]) held (sound.consistent.counted known recorded)
      refine ⟨t, ?_, ?_⟩
      · rw [withdrawShares_eq owned (sound.consistent.deposits _ _ recorded).valid known recorded]
        refine bind_eq_ok.mpr ⟨u, ?_, finished⟩
        unfold settleWithdrawal
        rw [pool]
        exact settled
      · have received := handed.received
        rw [amm, spared _ _ distinct.symm] at received
        exact received

/-- In a run under the rules every recorded deposit leads to its pair, and while the
AMM pool of the pair exists its owner can withdraw it: the call succeeds and hands
back exactly the shares deposited. -/
theorem deposit_can_leave (checked : cfg.math.Checked)
    (reachable : ReachableUnder (Initial cfg) (Step cfg) (Obeys cfg exitRules) s)
    (recorded : s.depositData.lookup nftId = some deposit)
    (owned : s.nft.owner (cfg.nftClass, nftId) = some (.signer key)) :
    ∃ metadata, s.liquidityPoolMetadata.lookup (poolIdOf nftId) = some metadata ∧
      (s.amm.poolExists metadata.assetPair = true →
        Collectable cfg s (metadata.slot cfg) → LoyaltyDefinedAt cfg s (metadata.slot cfg) →
        RewardsFit s metadata →
        ∃ t, withdrawShares cfg s (.signer key) nftId = .ok t ∧
          t.ledger.free (.signer key) (s.amm.getShareToken metadata.assetPair) =
            s.ledger.free (.signer key) (s.amm.getShareToken metadata.assetPair) +
              deposit.shares) := by
  have consistent := consistent_of_reachable reachable.reachable
  obtain ⟨metadata, known, -⟩ := (consistent.deposits _ _ recorded).known
  refine ⟨metadata, known, ?_⟩
  intro present collectable defined fits
  exact withdrawShares_succeeds checked (reachable_moves reachable) known recorded owned present
    collectable defined fits

/-- After a hundred blocks with a second pool the first deposit leaves. -/
theorem deposit_can_leave_rewarded :
    ∃ s t deposit,
      simulateObeying exitRules [.call (.addLiquidityPool 0 1 ⟨1, 3⟩ FixedU128.one none),
        .call (.depositShares 2 1 ⟨1, 3⟩ 500), .blocks 100] = .ok s ∧
      s.depositData.lookup (encodeNftId 2 1) = some deposit ∧ deposit.shares = 1000 ∧
      withdrawShares .reference s (.signer 1) (encodeNftId 2 1) = .ok t ∧
      t.ledger.free (.signer 1) 100 = s.ledger.free (.signer 1) 100 + 1000 := by
  have computed : succeedsWith
      (simulateObeying exitRules [.call (.addLiquidityPool 0 1 ⟨1, 3⟩ FixedU128.one none),
        .call (.depositShares 2 1 ⟨1, 3⟩ 500), .blocks 100])
      (fun s => ((s.depositData.lookup (encodeNftId 2 1)).any fun deposit =>
          deposit.shares = 1000) &&
        decide (s.nft.owner (1, encodeNftId 2 1) = some (.signer 1)) &&
        ((s.liquidityPoolMetadata.lookup 2).any fun metadata =>
          s.amm.poolExists metadata.assetPair &&
            decide (s.amm.getShareToken metadata.assetPair = 100) &&
            decide (RewardsFit s metadata) &&
            decide (Funded .reference s metadata.farmId) &&
            decide (CurveScaled s (metadata.slot .reference)))) = true := by
    decide +kernel
  simp only [succeedsWith_iff, Bool.and_eq_true, Option.any_eq_true, decide_eq_true_eq]
    at computed
  obtain ⟨s, run, ⟨⟨deposit, recorded, shares⟩, owned⟩, found, stored,
    ⟨⟨⟨present, token⟩, fits⟩, funded⟩, scaled⟩ := computed
  have reachable := reachableUnder_of_simulate run
  obtain ⟨metadata, known, leaves⟩ := deposit_can_leave Math.reference_checked reachable recorded
    owned
  obtain rfl := Option.some.inj (stored.symm.trans known)
  have collectable : Collectable .reference s (found.slot .reference) := fun _ => .inl funded
  have defined : LoyaltyDefinedAt .reference s (found.slot .reference) :=
    scaled.defined Math.reference_checked (consistent_of_reachable reachable.reachable)
  obtain ⟨t, withdrawn, received⟩ := leaves present collectable defined fits
  rw [token, shares] at received
  exact ⟨s, t, deposit, run, recorded, shares, withdrawn, received⟩

/-- A farm that has promised the same coins twice keeps its depositor in. -/
theorem deposit_cannot_leave :
    ¬ ∀ cfg s, cfg.math.Checked → Reachable (Initial cfg) (Step cfg) s →
      ∀ nftId key metadata deposit,
        s.liquidityPoolMetadata.lookup (poolIdOf nftId) = some metadata →
        s.depositData.lookup nftId = some deposit →
        s.nft.owner (cfg.nftClass, nftId) = some (.signer key) →
        s.amm.poolExists metadata.assetPair = true →
        LoyaltyDefinedAt cfg s (metadata.slot cfg) →
        ∃ t, withdrawShares cfg s (.signer key) nftId = .ok t ∧
          t.ledger.free (.signer key) (s.amm.getShareToken metadata.assetPair) =
            s.ledger.free (.signer key) (s.amm.getShareToken metadata.assetPair) +
              deposit.shares := by
  intro claim
  have computed : succeedsWith
      (simulate [.blocks 1000, .call (.addLiquidityPool 0 1 ⟨1, 3⟩ FixedU128.one none),
        .blocks 1000, .call (.cancelLiquidityPool 0 1 ⟨1, 3⟩),
        .call (.resumeLiquidityPool 0 1 ⟨1, 3⟩ FixedU128.one)])
      (fun s => (s.liquidityPoolMetadata.lookup 2).any (fun metadata =>
          s.amm.poolExists metadata.assetPair &&
            decide (CurveScaled s (metadata.slot .reference))) &&
        (s.depositData.lookup (encodeNftId 2 1)).isSome &&
        decide (s.nft.owner (1, encodeNftId 2 1) = some (.signer 1)) &&
        failsWith (withdrawShares .reference s (.signer 1) (encodeNftId 2 1))
          .insufficientBalanceInGlobalPool) = true := by
    decide +kernel
  simp only [succeedsWith_iff, Bool.and_eq_true, Option.any_eq_true, decide_eq_true_eq,
    Option.isSome_iff_exists, failsWith_iff] at computed
  obtain ⟨s, run, ⟨⟨⟨metadata, known, present, scaled⟩, deposit, recorded⟩, owned⟩, stuck⟩ :=
    computed
  have reachable := reachable_of_simulate run
  have defined : LoyaltyDefinedAt .reference s (metadata.slot .reference) :=
    scaled.defined Math.reference_checked (consistent_of_reachable reachable)
  obtain ⟨t, withdrawn, -⟩ := claim .reference s Math.reference_checked reachable
    (encodeNftId 2 1) 1 metadata deposit known recorded owned present defined
  rw [stuck] at withdrawn
  cases withdrawn

end Leaving

end Basilisk.LiquidityMining
