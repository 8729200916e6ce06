/-
# Booked and transferred rewards

Before a farm pays a pool it books what the stake of the pool earned, and the pool
then decides whether to take it: a pool without valued shares does not.  A call
brings at most one pool up to date, and leaves the booked rewards alone otherwise.
So the rewards a farm has booked as paid are those it transferred exactly if no
call ever found such a pool with something to collect.
-/

import Basilisk.LiquidityMining.Pace

namespace Basilisk.LiquidityMining

open Basilisk.Math

variable {cfg : Config} {s s' t : State} {label : Label} {farmId : ℕ} {slot : Slot}
variable {globalPool globalPool' : GlobalPool} {liqPool liqPool' : LiquidityPoolYieldFarm}

/-- The farm's reward per share once it is brought up to date. -/
def rpzNow (cfg : Config) (s : State) (globalPool : GlobalPool) : ℕ :=
  match refreshGlobalPool cfg s globalPool (s.period globalPool) with
  | .ok (_, globalPool') => globalPool'.accumulatedRpz
  | .error _ => globalPool.accumulatedRpz

theorem rpzNow_eq
    (refreshed : refreshGlobalPool cfg s globalPool (s.period globalPool) =
      .ok (s', globalPool')) : rpzNow cfg s globalPool = globalPool'.accumulatedRpz := by
  rw [rpzNow, refreshed]

/-- The call brings a pool of the farm up to date that has something to collect, but no valued
shares to distribute it over. -/
def Call.Forfeits (cfg : Config) (s : State) (farmId : ℕ) (call : Call) : Prop :=
  ∃ slot ∈ call.slot cfg s, slot.1 = farmId ∧
    ∃ globalPool ∈ s.globalPoolData.lookup slot.1,
      ∃ liqPool ∈ s.liquidityPoolData.lookup slot,
        liqPool.IsDue (s.period globalPool) ∧ liqPool.totalValuedShares = 0 ∧
          liqPool.stakeInGlobalPool ≠ 0 ∧ liqPool.accumulatedRpz < rpzNow cfg s globalPool

instance (call : Call) : Decidable (call.Forfeits cfg s farmId) :=
  inferInstanceAs (Decidable (∃ slot ∈ call.slot cfg s, slot.1 = farmId ∧
    ∃ globalPool ∈ s.globalPoolData.lookup slot.1,
      ∃ liqPool ∈ s.liquidityPoolData.lookup slot,
        liqPool.IsDue (s.period globalPool) ∧ liqPool.totalValuedShares = 0 ∧
          liqPool.stakeInGlobalPool ≠ 0 ∧ liqPool.accumulatedRpz < rpzNow cfg s globalPool))

/-- The step is such a call. -/
def Forfeits (cfg : Config) (farmId : ℕ) (event : State × Label) : Prop :=
  match event.2 with
  | .call call => call.Forfeits cfg event.1 farmId
  | .external _ => False

section Farms

variable {who : AccountId} {nftId amount multiplier : ℕ} {assetPair : AssetPair}

/-- After the pool in the slot was brought up to date, only the stake of its farm changes. -/
def SettlesFarm (cfg : Config) (s : State) (slot : Slot) (liqPool : LiquidityPoolYieldFarm)
    (t : State) : Prop :=
  ∃ globalPool s' globalPool' liqPool' totalSharesZ,
    s.globalPoolData.lookup slot.1 = some globalPool ∧
    maybeUpdatePools cfg s globalPool liqPool (s.period globalPool) =
      .ok (s', globalPool', liqPool') ∧
    t.globalPoolData = s.globalPoolData.insert slot.1 { globalPool' with totalSharesZ }

theorem maybeUpdatePools_farms {now : ℕ}
    (called : maybeUpdatePools cfg s globalPool liqPool now = .ok (s', globalPool', liqPool')) :
    s'.globalPoolData = s.globalPoolData := by
  obtain ⟨ledger, reports, -, rfl⟩ := (updated_of_maybeUpdatePools called).shape
  rfl

theorem doClaimRewards_farms {deposit deposit' : Deposit} {now reward unclaimable : ℕ}
    {currency : AssetId}
    (called : doClaimRewards cfg s who deposit liqPool now currency =
      .ok (s', deposit', reward, unclaimable)) : s'.globalPoolData = s.globalPoolData := by
  obtain ⟨-, ⟨-, rfl, -⟩ | ⟨_, _, -, -, -, -, rfl, -⟩⟩ := doClaimRewards_ok called
  · rfl
  · rfl

/-- A call that brings the pool up to date and then writes its farm back, with another
stake at most. -/
theorem settlesFarm_of_settling (totalSharesZ : ℕ)
    (settling : Settling cfg s slot globalPool liqPool s' globalPool' liqPool')
    (written : t.globalPoolData = s'.globalPoolData.insert slot.1
      { globalPool' with totalSharesZ }) :
    SettlesFarm cfg s slot liqPool t := by
  refine ⟨globalPool, s', globalPool', liqPool', totalSharesZ, settling.farm,
    settling.updated, ?_⟩
  rw [← maybeUpdatePools_farms settling.updated]
  exact written

theorem updateLiquidityPool_farm
    (called : updateLiquidityPool cfg s who farmId assetPair multiplier = .ok t)
    (pool : s.liquidityPoolData.lookup (farmId, cfg.getPairId assetPair) = some liqPool) :
    SettlesFarm cfg s (farmId, cfg.getPairId assetPair) liqPool t := by
  obtain ⟨_, _, _, _, _, _, settling, -, -, -, -, -, rfl⟩ := updateLiquidityPool_ok called
  obtain rfl := Option.some.inj (settling.pool.symm.trans pool)
  exact settlesFarm_of_settling _ settling rfl

theorem cancelLiquidityPool_farm
    (called : cancelLiquidityPool cfg s who farmId assetPair = .ok t)
    (pool : s.liquidityPoolData.lookup (farmId, cfg.getPairId assetPair) = some liqPool) :
    SettlesFarm cfg s (farmId, cfg.getPairId assetPair) liqPool t := by
  obtain ⟨_, _, _, _, _, settling, -, -, -, rfl⟩ := cancelLiquidityPool_ok called
  obtain rfl := Option.some.inj (settling.pool.symm.trans pool)
  exact settlesFarm_of_settling _ settling rfl

theorem depositShares_farm
    (called : depositShares cfg s who farmId assetPair amount = .ok t)
    (pool : s.liquidityPoolData.lookup (farmId, cfg.getPairId assetPair) = some liqPool) :
    SettlesFarm cfg s (farmId, cfg.getPairId assetPair) liqPool t := by
  obtain ⟨_, _, _, _, _, _, _, _, _, entered, rfl⟩ := depositShares_ok called
  obtain rfl := Option.some.inj (entered.pool.symm.trans pool)
  exact settlesFarm_of_settling _ entered.toSettling rfl

theorem claimRewards_farm {metadata : Metadata} (called : claimRewards cfg s who nftId = .ok t)
    (known : s.liquidityPoolMetadata.lookup (poolIdOf nftId) = some metadata)
    (pool : s.liquidityPoolData.lookup (metadata.slot cfg) = some liqPool) :
    SettlesFarm cfg s (metadata.slot cfg) liqPool t := by
  obtain ⟨_, _, _, _, _, globalPool', _, _, _, _, _, done, rfl⟩ :=
    claimRewards_eq_ok.mp called
  obtain rfl := Option.some.inj (done.known.symm.trans known)
  obtain rfl := Option.some.inj (done.pool.symm.trans pool)
  apply settlesFarm_of_settling globalPool'.totalSharesZ done.toSettling
  rw [← doClaimRewards_farms done.claimed]
  rfl

theorem withdrawFromLiqPool_farm {deposit : Deposit}
    (called : withdrawFromLiqPool cfg s who slot liqPool deposit = .ok t) :
    SettlesFarm cfg s slot liqPool t := by
  obtain ⟨globalPool, s', globalPool', liqPool', _, _, _, _, stake, _, left, rfl⟩ :=
    withdrawFromLiqPool_ok called
  refine ⟨globalPool, s', globalPool', liqPool', globalPool'.totalSharesZ - stake, left.farm,
    left.updated, ?_⟩
  rw [← maybeUpdatePools_farms left.updated, ← doClaimRewards_farms left.claimed]
  rfl

theorem withdrawShares_farm {metadata : Metadata}
    (called : withdrawShares cfg s who nftId = .ok t)
    (known : s.liquidityPoolMetadata.lookup (poolIdOf nftId) = some metadata) :
    (∀ liqPool, s.liquidityPoolData.lookup (metadata.slot cfg) = some liqPool →
      SettlesFarm cfg s (metadata.slot cfg) liqPool t) ∧
    (s.liquidityPoolData.lookup (metadata.slot cfg) = none →
      t.globalPoolData = s.globalPoolData) := by
  obtain ⟨_, _, u, _, _, done, rfl⟩ := withdrawShares_ok called
  obtain rfl := Option.some.inj (done.known.symm.trans known)
  obtain ⟨_, _, -, -, rfl⟩ := returnLpShares_ok done.handed
  obtain ⟨vacant, rfl⟩ | ⟨_, pool, settled⟩ := settleWithdrawal_ok done.settled
  · constructor
    · intro liqPool pool
      cases vacant.symm.trans pool
    · intro _
      rfl
  · constructor
    · intro liqPool pool'
      obtain rfl := Option.some.inj (pool.symm.trans pool')
      obtain ⟨globalPool, _, _, _, _, farm, updated, written⟩ := withdrawFromLiqPool_farm settled
      exact ⟨globalPool, _, _, _, _, farm, updated, written⟩
    · intro vacant
      cases pool.symm.trans vacant

/-- A call that brings a pool up to date changes the booked rewards nowhere else. -/
theorem settlesFarm_of_dispatch {call : Call} (called : dispatch cfg s call = .ok t)
    (first : call.slot cfg s = some slot)
    (pool : s.liquidityPoolData.lookup slot = some liqPool) :
    SettlesFarm cfg s slot liqPool t := by
  cases call with
  | updateLiquidityPool =>
      obtain rfl := Option.some.inj first
      exact updateLiquidityPool_farm called pool
  | cancelLiquidityPool =>
      obtain rfl := Option.some.inj first
      exact cancelLiquidityPool_farm called pool
  | depositShares =>
      obtain rfl := Option.some.inj first
      exact depositShares_farm called pool
  | claimRewards =>
      rw [Call.slot, Option.map_eq_some_iff] at first
      obtain ⟨metadata, known, rfl⟩ := first
      exact claimRewards_farm called known pool
  | withdrawShares =>
      rw [Call.slot, Option.map_eq_some_iff] at first
      obtain ⟨metadata, known, rfl⟩ := first
      exact (withdrawShares_farm called known).1 liqPool pool
  | _ => cases first

/-- The farm was there with the same booked rewards. -/
def KeepsPaid (s : State) (farmId : ℕ) (globalPool' : GlobalPool) : Prop :=
  ∃ globalPool, s.globalPoolData.lookup farmId = some globalPool ∧
    globalPool'.paidAccumulatedRewards = globalPool.paidAccumulatedRewards

theorem keepsPaid_of_insert {other : ℕ} {written : GlobalPool}
    (stored : s.globalPoolData.lookup farmId = some globalPool)
    (farm : (s.globalPoolData.insert farmId written).lookup other = some globalPool')
    (same : written.paidAccumulatedRewards = globalPool.paidAccumulatedRewards) :
    KeepsPaid s other globalPool' := by
  rw [AList.lookup_insert_eq_ite] at farm
  split_ifs at farm with here
  · obtain rfl := Option.some.inj farm
    exact ⟨globalPool, here ▸ stored, same⟩
  · exact ⟨globalPool', farm, rfl⟩

/-- A call that brings no pool up to date keeps the booked rewards. -/
theorem keepsPaid_of_dispatch {call : Call} (called : dispatch cfg s call = .ok t)
    (idle : ∀ slot ∈ call.slot cfg s, s.liquidityPoolData.lookup slot = none)
    (creates : (Label.call call).owner = none)
    (farm : t.globalPoolData.lookup farmId = some globalPool') :
    KeepsPaid s farmId globalPool' := by
  cases call with
  | createFarm => cases creates
  | destroyFarm =>
      obtain ⟨_, -, -, -, -, rfl⟩ := destroyFarm_ok called
      change (s.globalPoolData.erase _).lookup _ = _ at farm
      rw [AList.lookup_erase_eq_ite] at farm
      split_ifs at farm
      exact ⟨_, farm, rfl⟩
  | withdrawUndistributedRewards =>
      obtain ⟨_, _, -, -, -, -, rfl⟩ := withdrawUndistributedRewards_ok called
      exact ⟨_, farm, rfl⟩
  | addLiquidityPool =>
      obtain ⟨_, _, _, -, -, stored, -, -, refreshed, -, rfl⟩ := addLiquidityPool_ok called
      obtain ⟨⟨_, -, rfl⟩, _, _, _, rfl⟩ := refreshGlobalPool_frame refreshed
      exact keepsPaid_of_insert stored farm rfl
  | resumeLiquidityPool =>
      obtain ⟨_, _, _, _, _, stored, -, -, -, refreshed, -, -, rfl⟩ :=
        resumeLiquidityPool_ok called
      obtain ⟨⟨_, -, rfl⟩, _, _, _, rfl⟩ := refreshGlobalPool_frame refreshed
      exact keepsPaid_of_insert stored farm rfl
  | removeLiquidityPool =>
      obtain ⟨_, _, _, stored, -, -, -, -, -, rfl⟩ := removeLiquidityPool_ok called
      exact keepsPaid_of_insert stored farm rfl
  | updateLiquidityPool =>
      obtain ⟨_, _, _, _, _, _, settling, -⟩ := updateLiquidityPool_ok called
      cases settling.pool.symm.trans (idle _ rfl)
  | cancelLiquidityPool =>
      obtain ⟨_, _, _, _, _, settling, -⟩ := cancelLiquidityPool_ok called
      cases settling.pool.symm.trans (idle _ rfl)
  | depositShares =>
      obtain ⟨_, _, _, _, _, _, _, _, _, entered, -⟩ := depositShares_ok called
      cases entered.pool.symm.trans (idle _ rfl)
  | claimRewards =>
      obtain ⟨metadata, _, _, _, _, _, _, _, _, _, _, done, -⟩ := claimRewards_eq_ok.mp called
      have vacant := idle (metadata.slot cfg) (by rw [Call.slot, done.known]; rfl)
      cases done.pool.symm.trans vacant
  | withdrawShares key nftId =>
      obtain ⟨metadata, _, _, _, _, done, -⟩ := withdrawShares_ok called
      have vacant := idle (metadata.slot cfg) (by rw [Call.slot, done.known]; rfl)
      rw [(withdrawShares_farm called done.known).2 vacant] at farm
      exact ⟨_, farm, rfl⟩

end Farms

section Booked

/-- A farm and its pools have different numbers. -/
theorem Consistent.ids_ne (consistent : Consistent cfg s.blockNumber s.toStorage)
    (farm : s.globalPoolData.lookup slot.1 = some globalPool)
    (pool : s.liquidityPoolData.lookup slot = some liqPool) : globalPool.id ≠ liqPool.id := by
  rw [(consistent.farms _ _ farm).id]
  exact (consistent.liqPool_ne_farm pool farm).symm

/-- What bringing a pool up to date books beyond what it transfers: nothing, unless the pool
has something to collect and no valued shares. -/
theorem maybeUpdatePools_books (apart : globalPool.id ≠ liqPool.id)
    (called : maybeUpdatePools cfg s globalPool liqPool (s.period globalPool) =
      .ok (s', globalPool', liqPool')) :
    ∃ extra, globalPool'.paidAccumulatedRewards =
        globalPool.paidAccumulatedRewards +
          (s.ledger.free (.palletSubAccount globalPool.id) globalPool.rewardCurrency -
            s'.ledger.free (.palletSubAccount globalPool.id) globalPool.rewardCurrency) +
          extra ∧
      (extra = 0 ↔ ¬ (liqPool.IsDue (s.period globalPool) ∧ liqPool.totalValuedShares = 0 ∧
        liqPool.stakeInGlobalPool ≠ 0 ∧ liqPool.accumulatedRpz < rpzNow cfg s globalPool)) := by
  cases broughtUp_of_maybeUpdatePools called with
  | idle undue =>
      refine ⟨0, by omega, ?_⟩
      simp [undue]
  | @unvalued _ _ reward due refreshed behind earned _ worthless =>
      have now := rpzNow_eq refreshed
      obtain ⟨⟨_, -, rfl⟩, _, _, _, rfl⟩ := refreshGlobalPool_frame refreshed
      refine ⟨reward, by dsimp only; omega, ?_⟩
      rw [now, earned, Nat.mul_eq_zero, Nat.sub_eq_zero_iff_le]
      simp only [due, worthless, true_and, not_and_or, not_not, not_lt]
      exact or_comm
  | @paid _ _ reward _ ledger due refreshed _ _ _ valued _ moved =>
      obtain ⟨⟨_, -, rfl⟩, _, _, _, rfl⟩ := refreshGlobalPool_frame refreshed
      have accounts : AccountId.palletSubAccount globalPool.id ≠ .palletSubAccount liqPool.id :=
        fun same => apart (AccountId.palletSubAccount.inj same)
      have spent := Ledger.free_transfer_sender moved accounts
      refine ⟨0, ?_, by simp [valued]⟩
      dsimp only at spent ⊢
      omega

/-- A call whose slot is vacant pays nothing and gives nothing up. -/
theorem silent_of_vacant (farmId : ℕ) {call : Call}
    (vacant : ∀ slot ∈ call.slot cfg s, s.liquidityPoolData.lookup slot = none) :
    call.paidToPools cfg s farmId = 0 ∧ ¬ call.Forfeits cfg s farmId := by
  constructor
  · unfold Call.paidToPools
    cases first : call.slot cfg s with
    | none => rfl
    | some slot =>
        dsimp only
        rw [vacant slot first]
        split_ifs
        · cases s.globalPoolData.lookup slot.1 <;> rfl
        · rfl
  · rintro ⟨slot, listed, -, _, -, _, found, -⟩
    rw [vacant slot listed] at found
    cases found

/-- What a call gives up that brings a pool up to date. -/
theorem forfeits_iff (farmId : ℕ) {call : Call} (first : call.slot cfg s = some slot)
    (farm : s.globalPoolData.lookup slot.1 = some globalPool)
    (pool : s.liquidityPoolData.lookup slot = some liqPool) :
    call.Forfeits cfg s farmId ↔ slot.1 = farmId ∧
      liqPool.IsDue (s.period globalPool) ∧ liqPool.totalValuedShares = 0 ∧
        liqPool.stakeInGlobalPool ≠ 0 ∧
        liqPool.accumulatedRpz < rpzNow cfg s globalPool := by
  unfold Call.Forfeits
  simp [first, farm, pool]

/-- What a call books as paid by a farm is what it transfers to a pool of the farm, and more
exactly if it forfeits. -/
theorem paid_of_dispatch (consistent : Consistent cfg s.blockNumber s.toStorage) {call : Call}
    (called : dispatch cfg s call = .ok t) (creates : (Label.call call).owner = none)
    (farm : t.globalPoolData.lookup farmId = some globalPool') :
    ∃ globalPool extra, s.globalPoolData.lookup farmId = some globalPool ∧
      globalPool'.paidAccumulatedRewards =
        globalPool.paidAccumulatedRewards + call.paidToPools cfg s farmId + extra ∧
      (extra = 0 ↔ ¬ call.Forfeits cfg s farmId) := by
  by_cases vacant : ∀ slot ∈ call.slot cfg s, s.liquidityPoolData.lookup slot = none
  · obtain ⟨globalPool, stored, same⟩ := keepsPaid_of_dispatch called vacant creates farm
    obtain ⟨unpaid, kept⟩ := silent_of_vacant farmId vacant
    exact ⟨globalPool, 0, stored, by omega, iff_of_true rfl kept⟩
  · push Not at vacant
    obtain ⟨slot, first, present⟩ := vacant
    obtain ⟨liqPool, pool⟩ := Option.ne_none_iff_exists'.mp present
    obtain ⟨globalPool, s', settled, _, totalSharesZ, stored, updated, written⟩ :=
      settlesFarm_of_dispatch called first pool
    have forfeits := forfeits_iff farmId first stored pool
    rw [written, AList.lookup_insert_eq_ite] at farm
    split_ifs at farm with here
    · obtain rfl := Option.some.inj farm
      subst here
      obtain ⟨extra, books, exactly⟩ :=
        maybeUpdatePools_books (consistent.ids_ne stored pool) updated
      rw [(consistent.farms _ _ stored).id] at books
      have paid : call.paidToPools cfg s slot.1 =
          s.ledger.free (.palletSubAccount slot.1) globalPool.rewardCurrency -
            s'.ledger.free (.palletSubAccount slot.1) globalPool.rewardCurrency := by
        simp only [Call.paidToPools, Option.mem_def.mp first, stored, pool, updated, if_true]
      refine ⟨globalPool, extra, stored, ?_, ?_⟩
      · rw [paid]
        exact books
      · rw [exactly, forfeits, and_iff_right rfl]
    · have unpaid : call.paidToPools cfg s farmId = 0 := by
        simp only [Call.paidToPools, Option.mem_def.mp first, if_neg (Ne.symm here)]
      refine ⟨globalPool', 0, farm, by omega, iff_of_true rfl ?_⟩
      rw [forfeits]
      rintro ⟨same, -⟩
      exact here same.symm

end Booked

/-- What a farm has booked as paid against what it transferred. -/
structure Accounted (cfg : Config) (past : List (State × Label)) (s : State) : Prop where
  farms : ∀ farmId globalPool, s.globalPoolData.lookup farmId = some globalPool →
    everPaid cfg farmId past ≤ globalPool.paidAccumulatedRewards ∧
      (globalPool.paidAccumulatedRewards = everPaid cfg farmId past ↔
        ∀ event ∈ past, ¬ Forfeits cfg farmId event)
  unborn : ∀ farmId, s.poolIdSequencer < farmId → everPaid cfg farmId past = 0 ∧
    ∀ event ∈ past, ¬ Forfeits cfg farmId event

section Run

variable {past : List (State × Label)}

theorem not_forfeits_of_unborn (consistent : Consistent cfg s.blockNumber s.toStorage)
    (unborn : s.poolIdSequencer < farmId) : ¬ Forfeits cfg farmId (s, label) := by
  cases label with
  | external => exact False.elim
  | call call =>
      rintro ⟨slot, -, rfl, globalPool, farm, -⟩
      exact absurd (consistent.farms _ _ farm).numbered unborn.not_ge

/-- A farm that was there before the step. -/
theorem Accounted.keep (accounted : Accounted cfg past s) {extra : ℕ}
    (stored : s.globalPoolData.lookup farmId = some globalPool)
    (paid : globalPool'.paidAccumulatedRewards =
      globalPool.paidAccumulatedRewards + paidInStep cfg farmId (s, label) + extra)
    (exactly : extra = 0 ↔ ¬ Forfeits cfg farmId (s, label)) :
    everPaid cfg farmId ((s, label) :: past) ≤ globalPool'.paidAccumulatedRewards ∧
      (globalPool'.paidAccumulatedRewards = everPaid cfg farmId ((s, label) :: past) ↔
        ∀ event ∈ (s, label) :: past, ¬ Forfeits cfg farmId event) := by
  obtain ⟨covered, before⟩ := accounted.farms _ _ stored
  rw [everPaid_cons, List.forall_mem_cons, ← exactly, ← before]
  constructor
  · omega
  · omega

theorem Accounted.step (consistent : Consistent cfg s.blockNumber s.toStorage)
    (accounted : Accounted cfg past s) (taken : Step cfg s label t) :
    Accounted cfg ((s, label) :: past) t := by
  constructor
  · intro farmId globalPool' farm
    cases label with
    | external env =>
        obtain ⟨-, rfl⟩ := taken
        exact accounted.keep farm rfl (iff_of_true rfl id)
    | call call =>
        by_cases creating : (Label.call call).owner = none
        · obtain ⟨globalPool, extra, stored, paid, exactly⟩ :=
            paid_of_dispatch consistent taken creating farm
          exact accounted.keep stored paid exactly
        · cases call with
          | createFarm =>
              obtain ⟨maxRewardPerPeriod, farms⟩ := createFarm_farms taken
              rw [farms, AList.lookup_insert_eq_ite] at farm
              split_ifs at farm with new
              · -- the farm was just created, and nothing was booked or paid for it
                obtain rfl := Option.some.inj farm
                have fresh : s.poolIdSequencer < farmId := new ▸ Nat.lt_succ_self _
                obtain ⟨nothing, never⟩ := accounted.unborn farmId fresh
                rw [everPaid_cons, nothing, paidInStep_eq_zero consistent fresh]
                refine ⟨Nat.zero_le _, iff_of_true rfl ?_⟩
                rw [List.forall_mem_cons]
                exact ⟨not_forfeits_of_unborn consistent fresh, never⟩
              · refine accounted.keep farm rfl (iff_of_true rfl ?_)
                rintro ⟨slot, listed, -⟩
                cases listed
          | _ => exact absurd rfl creating
  · intro farmId unborn
    have before := (poolIdSequencer_le_of_step consistent taken).trans_lt unborn
    obtain ⟨nothing, never⟩ := accounted.unborn farmId before
    rw [everPaid_cons, nothing, paidInStep_eq_zero consistent before, List.forall_mem_cons]
    exact ⟨rfl, not_forfeits_of_unborn consistent before, never⟩

/-- The rewards a farm has booked as paid are those it transferred to its pools exactly if no
call of the run forfeits. -/
theorem accounted_of_run (run : Run (Initial cfg) (Step cfg) past s) :
    Accounted cfg past s := by
  induction run with
  | start initial =>
      constructor
      · intro farmId globalPool farm
        rw [initial.globalPoolData] at farm
        cases farm
      · intro farmId _
        exact ⟨rfl, fun event listed => absurd listed List.not_mem_nil⟩
  | extend prior taken ih => exact ih.step (consistent_of_reachable ⟨_, prior⟩) taken

end Run

end Basilisk.LiquidityMining
