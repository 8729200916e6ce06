/-
# The pace of a farm

A farm books at most its maximal reward for every period since its creation,
however irregularly it is updated and whatever comes back to its account.  What it
has booked is either still owed to its pools or was paid to them, so the pools
together never received more than that.
-/

import Basilisk.LiquidityMining.Reference

namespace Basilisk.LiquidityMining

open Basilisk.Math

/-- What a farm may have done between two of its records: it paid what it had accrued,
and accrued no more than its maximal reward for every period in between. -/
structure Paces (before after : GlobalPool) : Prop where
  rate : after.maxRewardPerPeriod = before.maxRewardPerPeriod
  later : before.updatedAt ≤ after.updatedAt
  paid : before.paidAccumulatedRewards ≤ after.paidAccumulatedRewards
  booked : after.accumulatedRewards + after.paidAccumulatedRewards ≤
    before.accumulatedRewards + before.paidAccumulatedRewards +
      before.maxRewardPerPeriod * (after.updatedAt - before.updatedAt)

section Paces

variable {cfg : Config} {s t : State} {kind : MoveKind} {label : Label}
variable {before middle after : GlobalPool}

theorem Paces.refl (globalPool : GlobalPool) : Paces globalPool globalPool :=
  ⟨rfl, le_rfl, le_rfl, Nat.le_add_right _ _⟩

theorem Paces.trans (first : Paces before middle) (second : Paces middle after) :
    Paces before after := by
  refine ⟨second.rate.trans first.rate, first.later.trans second.later,
    first.paid.trans second.paid, ?_⟩
  have split : after.updatedAt - before.updatedAt =
      (middle.updatedAt - before.updatedAt) + (after.updatedAt - middle.updatedAt) := by
    have earlier := first.later
    have later := second.later
    omega
  have booked := second.booked
  rw [first.rate] at booked
  rw [split, Nat.mul_add]
  exact booked.trans (by have bound := first.booked; omega)

/-- A farm that only pays what it has accrued. -/
theorem paces_of_eq (rate : after.maxRewardPerPeriod = before.maxRewardPerPeriod)
    (same : after.updatedAt = before.updatedAt)
    (paid : before.paidAccumulatedRewards ≤ after.paidAccumulatedRewards)
    (booked : after.accumulatedRewards + after.paidAccumulatedRewards =
      before.accumulatedRewards + before.paidAccumulatedRewards) : Paces before after :=
  ⟨rate, same.ge, paid, booked.le.trans (Nat.le_add_right _ _)⟩

/-- A farm that is written keeps the pace if its record does. -/
theorem paces_of_insert {farms : AList fun _ : ℕ => GlobalPool} {farmId other : ℕ}
    {globalPool' : GlobalPool}
    (farm : (farms.insert farmId after).lookup other = some globalPool')
    (stored : farms.lookup farmId = some before) (paces : Paces before after) :
    ∃ globalPool, farms.lookup other = some globalPool ∧ Paces globalPool globalPool' := by
  rw [AList.lookup_insert_eq_ite] at farm
  split_ifs at farm with same
  · obtain rfl := Option.some.inj farm
    exact ⟨before, same ▸ stored, paces⟩
  · exact ⟨globalPool', farm, .refl _⟩

/-- Every farm was there and kept the pace, or it was just created. -/
theorem paces_of_move (lawful : cfg.math.Lawful) (move : Move cfg s kind t) {farmId : ℕ}
    (farm : t.globalPoolData.lookup farmId = some after) :
    (∃ owner, kind = .createFarm owner) ∨
      ∃ before, s.globalPoolData.lookup farmId = some before ∧ Paces before after := by
  have kept : s.globalPoolData.lookup farmId = some after →
      ∃ before, s.globalPoolData.lookup farmId = some before ∧ Paces before after :=
    fun stored => ⟨after, stored, .refl _⟩
  cases move with
  | @accrue _ globalPool rewardPerPeriod reward _ stored numbered staked later rate capped =>
      refine .inr (paces_of_insert farm stored ⟨rfl, later.le, le_rfl, ?_⟩)
      have due : reward ≤ globalPool.maxRewardPerPeriod *
          (s.period globalPool - globalPool.updatedAt) := by
        calc reward
            ≤ (s.period globalPool - globalPool.updatedAt) * rewardPerPeriod :=
              capped.le.trans (min_le_left _ _)
          _ ≤ (s.period globalPool - globalPool.updatedAt) * globalPool.maxRewardPerPeriod := by
              rw [lawful.rewardPerPeriod rate]
              exact Nat.mul_le_mul_left _ (min_le_right _ _)
          _ = _ := Nat.mul_comm _ _
      dsimp only
      omega
  | collect stored pool active stale valued behind earned covered =>
      refine .inr (paces_of_insert farm stored (paces_of_eq rfl rfl (Nat.le_add_right _ _) ?_))
      dsimp only
      omega
  | forfeit stored pool active unvalued behind earned covered =>
      refine .inr (paces_of_insert farm stored (paces_of_eq rfl rfl (Nat.le_add_right _ _) ?_))
      dsimp only
      omega
  | update stored => exact .inr (paces_of_insert farm stored (paces_of_eq rfl rfl le_rfl rfl))
  | cancel stored => exact .inr (paces_of_insert farm stored (paces_of_eq rfl rfl le_rfl rfl))
  | resume stored => exact .inr (paces_of_insert farm stored (paces_of_eq rfl rfl le_rfl rfl))
  | enter stored => exact .inr (paces_of_insert farm stored (paces_of_eq rfl rfl le_rfl rfl))
  | pay reports known recorded stored =>
      exact .inr (paces_of_insert farm stored (paces_of_eq rfl rfl le_rfl rfl))
  | leave reports known recorded stored =>
      exact .inr (paces_of_insert farm stored (paces_of_eq rfl rfl le_rfl rfl))
  | depart => exact .inr (kept farm)
  | createFarm => exact .inl ⟨_, rfl⟩
  | destroyFarm =>
      change (s.globalPoolData.erase _).lookup _ = _ at farm
      rw [AList.lookup_erase_eq_ite] at farm
      split_ifs at farm
      exact .inr (kept farm)
  | drain => exact .inr (kept farm)
  | addPool multiplier stored =>
      exact .inr (paces_of_insert farm stored (paces_of_eq rfl rfl le_rfl rfl))
  | removePool who assetPair stored =>
      exact .inr (paces_of_insert farm stored (paces_of_eq rfl rfl le_rfl rfl))
  | external => exact .inr (kept farm)

/-- Over the moves of a step that creates no farm every farm keeps the pace. -/
theorem paces_of_path (lawful : cfg.math.Lawful) {u v : State}
    (path : Path cfg s label u v) (creates : label.owner = none) {farmId : ℕ}
    (farm : v.globalPoolData.lookup farmId = some after) :
    ∃ before, u.globalPoolData.lookup farmId = some before ∧ Paces before after := by
  induction path generalizing after with
  | refl => exact ⟨after, farm, .refl _⟩
  | tail _ moved ih =>
      obtain ⟨kind, inherits, move⟩ := moved
      obtain ⟨owner, rfl⟩ | ⟨middle, stored, paces⟩ := paces_of_move lawful move farm
      · obtain ⟨_, _, _, _, _, _, rfl⟩ := inherits.origin
        exact absurd creates nofun
      · obtain ⟨before, found, earlier⟩ := ih stored
        exact ⟨before, found, earlier.trans paces⟩

end Paces

/-- What the account of a farm pays to the account of a pool in a call: the calls that
bring a pool up to date do so first, in the state they are made in, and no other part of
a call moves funds from a farm to its pools. -/
def Call.paidToPools (cfg : Config) (s : State) (farmId : ℕ) (call : Call) : ℕ :=
  match call.slot cfg s with
  | none => 0
  | some slot =>
      if slot.1 = farmId then
        match s.globalPoolData.lookup slot.1, s.liquidityPoolData.lookup slot with
        | some globalPool, some liqPool =>
            match maybeUpdatePools cfg s globalPool liqPool (s.period globalPool) with
            | .ok (s', _, _) =>
                s.ledger.free (.palletSubAccount farmId) globalPool.rewardCurrency -
                  s'.ledger.free (.palletSubAccount farmId) globalPool.rewardCurrency
            | .error _ => 0
        | _, _ => 0
      else 0

/-- What the account of a farm paid to its pools in one step. -/
def paidInStep (cfg : Config) (farmId : ℕ) (event : State × Label) : ℕ :=
  match event.2 with
  | .call call => call.paidToPools cfg event.1 farmId
  | .external _ => 0

/-- What the account of a farm ever paid to its pools. -/
def everPaid (cfg : Config) (farmId : ℕ) (past : List (State × Label)) : ℕ :=
  (past.map (paidInStep cfg farmId)).sum

/-- The period in which a step creates a farm. -/
def creates (farmId : ℕ) (event : State × Label) : Option ℕ :=
  match event.2 with
  | .call (.createFarm _ _ blocksPerPeriod _ _ _ _) =>
      if event.1.poolIdSequencer + 1 = farmId then
        some (event.1.blockNumber / blocksPerPeriod)
      else none
  | _ => none

/-- The period in which a farm was created. -/
def createdIn (farmId : ℕ) (past : List (State × Label)) : Option ℕ :=
  past.findSome? (creates farmId)

section Payments

variable {cfg : Config} {s s' t : State} {label : Label} {farmId : ℕ}
variable {globalPool globalPool' : GlobalPool} {liqPool liqPool' : LiquidityPoolYieldFarm}
variable {past : List (State × Label)}

/-- What leaves the account of a farm while a pool is brought up to date is booked as
paid. -/
theorem maybeUpdatePools_paid {now : ℕ}
    (called : maybeUpdatePools cfg s globalPool liqPool now = .ok (s', globalPool', liqPool')) :
    s.ledger.free (.palletSubAccount globalPool.id) globalPool.rewardCurrency +
        globalPool.paidAccumulatedRewards ≤
      s'.ledger.free (.palletSubAccount globalPool.id) globalPool.rewardCurrency +
        globalPool'.paidAccumulatedRewards := by
  cases broughtUp_of_maybeUpdatePools called with
  | idle => exact le_rfl
  | unvalued _ refreshed =>
      obtain ⟨⟨reports, -, rfl⟩, _, _, _, rfl⟩ := refreshGlobalPool_frame refreshed
      dsimp only
      omega
  | paid _ refreshed _ _ _ _ _ moved =>
      obtain ⟨⟨reports, -, rfl⟩, _, _, _, rfl⟩ := refreshGlobalPool_frame refreshed
      have spent := Ledger.free_le_transfer_add moved (.palletSubAccount globalPool.id)
      dsimp only at spent ⊢
      omega

/-- What a call pays to the pools of a farm is booked as paid. -/
theorem paidToPools_le (lawful : cfg.math.Lawful)
    (consistent : Consistent cfg s.blockNumber s.toStorage) {call : Call}
    (called : dispatch cfg s call = .ok t) (creates : (Label.call call).owner = none)
    (farm : t.globalPoolData.lookup farmId = some globalPool') :
    ∃ globalPool, s.globalPoolData.lookup farmId = some globalPool ∧
      Paces globalPool globalPool' ∧
      globalPool.paidAccumulatedRewards + call.paidToPools cfg s farmId ≤
        globalPool'.paidAccumulatedRewards := by
  have path : Path cfg s (.call call) s t := path_of_step consistent called
  obtain ⟨globalPool, stored, paces⟩ := paces_of_path lawful path creates farm
  refine ⟨globalPool, stored, paces, ?_⟩
  unfold Call.paidToPools
  split
  · exact paces.paid
  · next slot first =>
      split_ifs with same
      · subst same
        split
        · next found liqPool lookup pool =>
            obtain rfl := Option.some.inj (lookup.symm.trans stored)
            obtain vacant | settles := settlesFirst_of_dispatch called first
            · exact absurd (vacant.symm.trans pool) nofun
            · obtain ⟨_, _, _, _, _, _, _, lookup', pool', updated, settled, acts⟩ := settles
              obtain rfl := Option.some.inj (lookup'.symm.trans stored)
              obtain rfl := Option.some.inj (pool'.symm.trans pool)
              obtain ⟨_, settledFarm, later⟩ := paces_of_path lawful acts creates farm
              obtain rfl := Option.some.inj (settled.farm.symm.trans settledFarm)
              obtain ⟨_, again, earlier⟩ :=
                paces_of_path lawful settled.path creates settled.farm
              obtain rfl := Option.some.inj (again.symm.trans stored)
              have booked := maybeUpdatePools_paid updated
              rw [(consistent.farms _ _ stored).id] at booked
              have paidFirst := earlier.paid
              have paidThen := later.paid
              rw [updated]
              dsimp only
              omega
        · exact paces.paid
      · exact paces.paid

/-- A farm that does not exist pays nothing. -/
theorem paidToPools_eq_zero {call : Call} (absent : s.globalPoolData.lookup farmId = none) :
    call.paidToPools cfg s farmId = 0 := by
  unfold Call.paidToPools
  split
  · rfl
  · split_ifs with same
    · rw [same, absent]
    · rfl

theorem everPaid_cons (farmId : ℕ) (event : State × Label) (past : List (State × Label)) :
    everPaid cfg farmId (event :: past) =
      everPaid cfg farmId past + paidInStep cfg farmId event := by
  unfold everPaid
  rw [List.map_cons, List.sum_cons, Nat.add_comm]

/-- Only a call that creates a farm dates one. -/
theorem createdIn_cons_of_none (creates : label.owner = none) (farmId : ℕ)
    (past : List (State × Label)) :
    createdIn farmId ((s, label) :: past) = createdIn farmId past := by
  unfold createdIn
  rw [List.findSome?_cons]
  cases label with
  | external => rfl
  | call call =>
      cases call with
      | createFarm => exact absurd creates nofun
      | _ => rfl

theorem createFarm_farms {totalRewards plannedYieldingPeriods blocksPerPeriod : ℕ}
    {incentivizedAsset rewardCurrency : AssetId} {owner : AccountId} {yieldPerPeriod : Permill}
    (called : createFarm cfg s totalRewards plannedYieldingPeriods blocksPerPeriod
      incentivizedAsset rewardCurrency owner yieldPerPeriod = .ok t) :
    ∃ maxRewardPerPeriod, t.globalPoolData = s.globalPoolData.insert (s.poolIdSequencer + 1)
      (GlobalPool.new (s.poolIdSequencer + 1) (s.blockNumber / blocksPerPeriod) rewardCurrency
        yieldPerPeriod plannedYieldingPeriods blocksPerPeriod owner incentivizedAsset
        maxRewardPerPeriod) := by
  obtain ⟨-, -, -, _, -, rfl⟩ := createFarm_ok called
  exact ⟨_, rfl⟩

/-- Ids are never given back. -/
theorem poolIdSequencer_le_of_step (consistent : Consistent cfg s.blockNumber s.toStorage)
    (taken : Step cfg s label t) : s.poolIdSequencer ≤ t.poolIdSequencer := by
  have path := path_of_step consistent taken
  clear taken
  induction path with
  | refl => exact le_rfl
  | tail _ moved ih =>
      obtain ⟨kind, -, move⟩ := moved
      apply ih.trans
      cases move with
      | createFarm => exact Nat.le_succ _
      | addPool => exact Nat.le_succ _
      | _ => exact le_rfl

end Payments

/-- Every farm keeps the pace since its creation, and books at least what it paid. -/
structure Paced (cfg : Config) (past : List (State × Label)) (s : State) : Prop where
  farms : ∀ farmId globalPool, s.globalPoolData.lookup farmId = some globalPool →
    ∃ created, createdIn farmId past = some created ∧ created ≤ globalPool.updatedAt ∧
      globalPool.accumulatedRewards + globalPool.paidAccumulatedRewards ≤
        globalPool.maxRewardPerPeriod * (globalPool.updatedAt - created) ∧
      everPaid cfg farmId past ≤ globalPool.paidAccumulatedRewards
  unborn : ∀ farmId, s.poolIdSequencer < farmId → everPaid cfg farmId past = 0

section Run

variable {cfg : Config} {s t : State} {label : Label} {past : List (State × Label)}

theorem paidInStep_eq_zero (consistent : Consistent cfg s.blockNumber s.toStorage)
    {farmId : ℕ} (unborn : s.poolIdSequencer < farmId) :
    paidInStep cfg farmId (s, label) = 0 := by
  have absent : s.globalPoolData.lookup farmId = none := by
    apply Option.eq_none_iff_forall_ne_some.mpr
    intro globalPool farm
    exact absurd (consistent.farms _ _ farm).numbered unborn.not_ge
  cases label with
  | call call => exact paidToPools_eq_zero absent
  | external => rfl

/-- A farm that was there before the step. -/
theorem Paced.keep (paced : Paced cfg past s) {farmId : ℕ} {globalPool globalPool' : GlobalPool}
    (dated : createdIn farmId ((s, label) :: past) = createdIn farmId past)
    (stored : s.globalPoolData.lookup farmId = some globalPool)
    (paces : Paces globalPool globalPool')
    (paid : globalPool.paidAccumulatedRewards + paidInStep cfg farmId (s, label) ≤
      globalPool'.paidAccumulatedRewards) :
    ∃ created, createdIn farmId ((s, label) :: past) = some created ∧
      created ≤ globalPool'.updatedAt ∧
      globalPool'.accumulatedRewards + globalPool'.paidAccumulatedRewards ≤
        globalPool'.maxRewardPerPeriod * (globalPool'.updatedAt - created) ∧
      everPaid cfg farmId ((s, label) :: past) ≤ globalPool'.paidAccumulatedRewards := by
  obtain ⟨created, date, since, booked, covered⟩ := paced.farms _ _ stored
  refine ⟨created, dated.trans date, since.trans paces.later, ?_, ?_⟩
  · have later := paces.later
    have split : globalPool'.updatedAt - created =
        (globalPool.updatedAt - created) + (globalPool'.updatedAt - globalPool.updatedAt) := by
      omega
    rw [paces.rate, split, Nat.mul_add]
    exact paces.booked.trans (Nat.add_le_add_right booked _)
  · rw [everPaid_cons]
    omega

theorem Paced.step (lawful : cfg.math.Lawful)
    (consistent : Consistent cfg s.blockNumber s.toStorage) (paced : Paced cfg past s)
    (taken : Step cfg s label t) : Paced cfg ((s, label) :: past) t := by
  refine ⟨?_, ?_⟩
  · intro farmId globalPool' farm
    cases label with
    | external env =>
        obtain ⟨-, rfl⟩ := taken
        exact paced.keep (createdIn_cons_of_none rfl _ _) farm (.refl _) le_rfl
    | call call =>
        by_cases creating : (Label.call call).owner = none
        · obtain ⟨globalPool, stored, paces, paid⟩ :=
            paidToPools_le lawful consistent taken creating farm
          exact paced.keep (createdIn_cons_of_none creating _ _) stored paces paid
        · cases call with
          | @createFarm _ _ blocksPerPeriod =>
              obtain ⟨maxRewardPerPeriod, farms⟩ := createFarm_farms taken
              rw [farms, AList.lookup_insert_eq_ite] at farm
              split_ifs at farm with new
              · -- the farm was just created: it has booked nothing, and paid nothing
                obtain rfl := Option.some.inj farm
                have unborn : s.poolIdSequencer < farmId := new ▸ Nat.lt_succ_self _
                refine ⟨s.blockNumber / blocksPerPeriod, ?_, le_rfl, Nat.zero_le _, ?_⟩
                · simp only [createdIn, List.findSome?_cons, creates, if_pos new.symm]
                · rw [everPaid_cons, paced.unborn _ unborn,
                    paidInStep_eq_zero consistent unborn]
                  exact Nat.zero_le _
              · refine paced.keep ?_ farm (.refl _) le_rfl
                simp only [createdIn, List.findSome?_cons, creates, if_neg (Ne.symm new)]
          | _ => exact absurd rfl creating
  · intro farmId unborn
    have before := (poolIdSequencer_le_of_step consistent taken).trans_lt unborn
    rw [everPaid_cons, paced.unborn farmId before, paidInStep_eq_zero consistent before]

theorem paced_of_run (lawful : cfg.math.Lawful) (run : Run (Initial cfg) (Step cfg) past s) :
    Paced cfg past s := by
  induction run with
  | start initial =>
      refine ⟨?_, fun _ _ => rfl⟩
      intro farmId globalPool farm
      rw [initial.globalPoolData] at farm
      exact absurd farm nofun
  | extend prior taken ih =>
      exact ih.step lawful (consistent_of_reachable ⟨_, prior⟩) taken

/-- What a farm has accrued and paid, and what its pools were ever given out of its
account, is at most its maximal reward for every period since it was created. -/
theorem rewards_paced (lawful : cfg.math.Lawful) (run : Run (Initial cfg) (Step cfg) past s)
    {farmId : ℕ} {globalPool : GlobalPool}
    (farm : s.globalPoolData.lookup farmId = some globalPool) :
    ∃ created, createdIn farmId past = some created ∧ created ≤ globalPool.updatedAt ∧
      globalPool.accumulatedRewards + globalPool.paidAccumulatedRewards ≤
        globalPool.maxRewardPerPeriod * (globalPool.updatedAt - created) ∧
      everPaid cfg farmId past ≤
        globalPool.maxRewardPerPeriod * (globalPool.updatedAt - created) := by
  obtain ⟨created, date, since, booked, covered⟩ := (paced_of_run lawful run).farms _ _ farm
  exact ⟨created, date, since, booked,
    covered.trans ((Nat.le_add_left _ _).trans booked)⟩

/-- Two pools collect, and the first one is removed and returns what it was paid. -/
theorem rewards_paced_returned :
    ∃ past s globalPool, simulateRecording [
        .call (.addLiquidityPool 0 1 ⟨1, 3⟩ FixedU128.one none),
        .call (.depositShares 2 1 ⟨1, 3⟩ 500), .blocks 100,
        .call (.updateLiquidityPool 0 1 ⟨1, 3⟩ FixedU128.one),
        .call (.cancelLiquidityPool 0 1 ⟨1, 2⟩), .call (.removeLiquidityPool 0 1 ⟨1, 2⟩),
        .blocks 100, .call (.updateLiquidityPool 0 1 ⟨1, 3⟩ FixedU128.one)] = .ok (past, s) ∧
      s.globalPoolData.lookup 1 = some globalPool ∧
      everPaid .reference 1 past ≠ 0 ∧
      ∃ created, createdIn 1 past = some created ∧ everPaid .reference 1 past ≤
        globalPool.maxRewardPerPeriod * (globalPool.updatedAt - created) := by
  have computed : succeedsWith
      (simulateRecording [.call (.addLiquidityPool 0 1 ⟨1, 3⟩ FixedU128.one none),
        .call (.depositShares 2 1 ⟨1, 3⟩ 500), .blocks 100,
        .call (.updateLiquidityPool 0 1 ⟨1, 3⟩ FixedU128.one),
        .call (.cancelLiquidityPool 0 1 ⟨1, 2⟩), .call (.removeLiquidityPool 0 1 ⟨1, 2⟩),
        .blocks 100, .call (.updateLiquidityPool 0 1 ⟨1, 3⟩ FixedU128.one)])
      (fun (past, s) => (s.globalPoolData.lookup 1).isSome &&
        decide (everPaid .reference 1 past ≠ 0)) = true := by
    decide +kernel
  simp only [succeedsWith_iff, Bool.and_eq_true, Option.isSome_iff_exists, decide_eq_true_eq]
    at computed
  obtain ⟨⟨past, s⟩, run, ⟨globalPool, farm⟩, paid⟩ := computed
  obtain ⟨created, date, -, -, covered⟩ :=
    rewards_paced Math.reference_lawful (run_of_simulate run) farm
  exact ⟨past, s, globalPool, run, farm, paid, created, date, covered⟩

end Run

end Basilisk.LiquidityMining
