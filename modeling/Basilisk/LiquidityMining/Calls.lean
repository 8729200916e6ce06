/-
# Calls are sequences of moves

Every successful call is carried out by elementary moves, and a rule that allows
the call allows each of them.  So whatever holds in every state the moves can
reach under some rules holds in every state the pallet can reach under them.
-/

import Basilisk.LiquidityMining.Consistency
import Basilisk.LiquidityMining.Effects

namespace Basilisk.LiquidityMining

open Basilisk.Math

variable {cfg : Config} {s s' t u : State} {label : Label}

/-- The step a move comes from, for the moves that only one kind of step makes. -/
def MoveKind.ComesFrom (label : Label) : MoveKind → Prop
  | .createFarm owner => ∃ totalRewards plannedYieldingPeriods blocksPerPeriod
      incentivizedAsset rewardCurrency yieldPerPeriod,
      label = .call (.createFarm totalRewards plannedYieldingPeriods blocksPerPeriod
        incentivizedAsset rewardCurrency owner yieldPerPeriod)
  | .addPool farmId assetPair => ∃ who multiplier loyaltyCurve,
      label = .call (.addLiquidityPool who farmId assetPair multiplier loyaltyCurve)
  | .external env => label = .external env
  | _ => True

/-- The account a farm is created on behalf of. -/
def Label.owner : Label → Option AccountId
  | .call (.createFarm _ _ _ _ _ owner _) => some owner
  | _ => none

/-- Every rule that allows the labelled step allows the move, and the step is one the
move comes from. -/
structure Inherits (cfg : Config) (s : State) (label : Label) (u : State)
    (kind : MoveKind) : Prop where
  rules : ∀ rule : Rule, rule.Allows cfg s label → rule.AllowsMove cfg u kind
  origin : kind.ComesFrom label

/-- A sequence of moves that inherit the rules of a step. -/
abbrev Path (cfg : Config) (s : State) (label : Label) : State → State → Prop :=
  Relation.ReflTransGen fun u v =>
    ∃ kind, Inherits cfg s label u kind ∧ Move cfg u kind v

theorem inherits_accrue {farmId : ℕ}
    (funded : Rule.fundedAccrual.Allows cfg s label → Funded cfg u farmId) :
    Inherits cfg s label u (.accrue farmId) := by
  refine ⟨?_, trivial⟩
  intro rule allowed
  cases rule with
  | fundedAccrual => exact funded allowed
  | _ => trivial

section Prefix

variable {globalPool globalPool' : GlobalPool} {liqPool liqPool' : LiquidityPoolYieldFarm}
variable {now : ℕ}

theorem accrueReward_ok {reward : ℕ}
    (called : accrueReward cfg globalPool reward = .ok globalPool') :
    ∃ accumulatedRpz,
      cfg.math.Books globalPool.accumulatedRpz globalPool.totalSharesZ reward
        accumulatedRpz ∧
      globalPool' = { globalPool with
        accumulatedRpz
        accumulatedRewards := globalPool.accumulatedRewards + reward } := by
  unfold accrueReward at called
  split_ifs at called with zero
  · rw [return_eq_ok] at called
    subst called zero
    exact ⟨_, .inr ⟨rfl, rfl⟩, rfl⟩
  · simp only [bind_eq_ok, okOr_eq_ok, checkedAdd_eq_some, return_eq_ok] at called
    obtain ⟨accumulatedRpz, computed, _, ⟨-, rfl⟩, rfl⟩ := called
    exact ⟨_, .inl computed, rfl⟩

/-- The farm is left alone, or it accrues. -/
theorem refreshGlobalPool_ok
    (called : refreshGlobalPool cfg s globalPool now = .ok (s', globalPool')) :
    (s' = s ∧ globalPool' = globalPool ∧
      (globalPool.totalSharesZ = 0 ∨ globalPool.updatedAt = now)) ∨
    ∃ rewardPerPeriod reward accumulatedRpz,
      globalPool.id ≠ 0 ∧ globalPool.totalSharesZ ≠ 0 ∧ globalPool.updatedAt < now ∧
      cfg.math.calculateGlobalPoolRewardPerPeriod globalPool.yieldPerPeriod.toFixed
        globalPool.totalSharesZ globalPool.maxRewardPerPeriod = some rewardPerPeriod ∧
      reward = min ((now - globalPool.updatedAt) * rewardPerPeriod)
        (s.ledger.free (.palletSubAccount globalPool.id) globalPool.rewardCurrency) ∧
      cfg.math.Books globalPool.accumulatedRpz globalPool.totalSharesZ reward
        accumulatedRpz ∧
      s' = s.depositEvent (.farmAccRPZUpdated globalPool.id accumulatedRpz
        globalPool.totalSharesZ) ∧
      globalPool' = { globalPool with
        accumulatedRpz
        accumulatedRewards := globalPool.accumulatedRewards + reward
        updatedAt := now } := by
  unfold refreshGlobalPool at called
  split_ifs at called with due
  · obtain ⟨staked, stale⟩ := due
    simp only [updateGlobalPool, if_neg stale, if_neg staked, bind_eq_ok, okOr_eq_ok,
      checkedSub_eq_some, checkedMul_eq_some, poolAccountId_eq_ok, return_eq_ok] at called
    obtain ⟨rewardPerPeriod, rate, _, ⟨ordered, rfl⟩, _, ⟨numbered, rfl⟩, _, ⟨-, rfl⟩,
      accrued, booked, written⟩ := called
    obtain ⟨accumulatedRpz, books, rfl⟩ := accrueReward_ok booked
    obtain ⟨rfl, rfl⟩ := Prod.mk.inj written
    exact .inr ⟨rewardPerPeriod, _, accumulatedRpz, numbered, staked,
      lt_of_le_of_ne ordered stale, rate, rfl, books, rfl, rfl⟩
  · rw [return_eq_ok, Prod.mk.injEq] at called
    refine .inl ⟨called.1.symm, called.2.symm, ?_⟩
    by_contra untouched
    rw [not_or] at untouched
    exact due untouched

/-- The farm `farmId` was brought up to date by moves: the working copies `s'` and
`globalPool'` of a call stand for the state in which `farms` is stored. -/
structure Refreshed (cfg : Config) (s : State) (label : Label) (farmId : ℕ)
    (globalPool : GlobalPool) (s' : State) (globalPool' : GlobalPool)
    (farms : AList fun _ : ℕ => GlobalPool) : Prop where
  path : Path cfg s label s { s' with globalPoolData := farms }
  farm : farms.lookup farmId = some globalPool'
  overFarm : ∀ written,
    farms.insert farmId written = s'.globalPoolData.insert farmId written
  shape : ∃ events, s' = { s with events }
  kept : ∃ accumulatedRpz accumulatedRewards updatedAt, globalPool' =
    { globalPool with accumulatedRpz, accumulatedRewards, updatedAt }
  current : globalPool.totalSharesZ ≠ 0 ∨ globalPool.updatedAt = s.period globalPool →
    globalPool'.updatedAt = s.period globalPool

theorem refreshed_of_refreshGlobalPool (label : Label) {farmId : ℕ}
    (farm : s.globalPoolData.lookup farmId = some globalPool)
    (funded : Rule.fundedAccrual.Allows cfg s label → Funded cfg s farmId)
    (called : refreshGlobalPool cfg s globalPool (s.period globalPool) =
      .ok (s', globalPool')) :
    ∃ farms, Refreshed cfg s label farmId globalPool s' globalPool' farms := by
  obtain ⟨rfl, rfl, idle⟩ | ⟨rewardPerPeriod, reward, accumulatedRpz, numbered, staked,
    later, rate, capped, booked, rfl, rfl⟩ := refreshGlobalPool_ok called
  · refine ⟨s'.globalPoolData, .refl, farm, fun _ => rfl, ⟨_, rfl⟩, ⟨_, _, _, rfl⟩, ?_⟩
    rintro (staked | current)
    · exact idle.resolve_left staked
    · exact current
  · refine ⟨s.globalPoolData.insert farmId _, ?_, AList.lookup_insert _,
      fun _ => AList.insert_insert _, ⟨_, rfl⟩, ⟨_, _, _, rfl⟩, fun _ => rfl⟩
    exact .single ⟨.accrue farmId, inherits_accrue funded,
      .accrue farm numbered staked later rate capped booked⟩

/-- What bringing a pool and its farm up to date leaves alone. -/
structure Updated (s : State) (globalPool : GlobalPool) (liqPool : LiquidityPoolYieldFarm)
    (s' : State) (globalPool' : GlobalPool) (liqPool' : LiquidityPoolYieldFarm) : Prop where
  shape : ∃ ledger reports, claimedIn reports = 0 ∧
    s' = { s with ledger, events := s.events ++ reports }
  currencies : ∀ account currency, currency ≠ globalPool.rewardCurrency →
    s'.ledger.free account currency = s.ledger.free account currency
  farmKept : ∃ accumulatedRpz accumulatedRewards paidAccumulatedRewards updatedAt,
    globalPool' = { globalPool with
      accumulatedRpz, accumulatedRewards, paidAccumulatedRewards, updatedAt }
  poolKept : ∃ accumulatedRpz accumulatedRpvs updatedAt,
    liqPool' = { liqPool with accumulatedRpz, accumulatedRpvs, updatedAt }

theorem Updated.refl : Updated s globalPool liqPool s globalPool liqPool := by
  refine ⟨⟨s.ledger, [], rfl, ?_⟩, fun _ _ _ => rfl, ⟨_, _, _, _, rfl⟩, ⟨_, _, _, rfl⟩⟩
  rw [List.append_nil]

/-- The pool is active, has shares and was not updated in the period. -/
def LiquidityPoolYieldFarm.IsDue (liqPool : LiquidityPoolYieldFarm) (now : ℕ) : Prop :=
  liqPool.canceled = false ∧ liqPool.totalShares ≠ 0 ∧ liqPool.updatedAt ≠ now

instance (liqPool : LiquidityPoolYieldFarm) (now : ℕ) : Decidable (liqPool.IsDue now) :=
  inferInstanceAs (Decidable (_ ∧ _ ∧ _))

theorem due_iff {slot : Slot} (farm : s.globalPoolData.lookup slot.1 = some globalPool)
    (pool : s.liquidityPoolData.lookup slot = some liqPool) :
    Due s slot ↔ liqPool.IsDue (s.period globalPool) := by
  constructor
  · rintro ⟨_, _, lookup, lookup', due⟩
    rw [farm, Option.some.injEq] at lookup
    rw [pool, Option.some.injEq] at lookup'
    subst lookup lookup'
    exact due
  · intro due
    exact ⟨_, _, farm, pool, due⟩

/-- How a pool is brought up to date: there is nothing to do; or the farm accrues and books
what the stake of the pool earned as paid, which is transferred only if the pool has valued
shares. -/
inductive BroughtUp (cfg : Config) (s : State) (globalPool : GlobalPool)
    (liqPool : LiquidityPoolYieldFarm) (now : ℕ) :
    State → GlobalPool → LiquidityPoolYieldFarm → Prop
  | idle (undue : ¬ liqPool.IsDue now) : BroughtUp cfg s globalPool liqPool now s globalPool liqPool
  | unvalued {mid : State} {midPool : GlobalPool} {reward : ℕ} (due : liqPool.IsDue now)
      (refreshed : refreshGlobalPool cfg s globalPool now = .ok (mid, midPool))
      (behind : liqPool.accumulatedRpz ≤ midPool.accumulatedRpz)
      (earned : reward =
        (midPool.accumulatedRpz - liqPool.accumulatedRpz) * liqPool.stakeInGlobalPool)
      (covered : reward ≤ midPool.accumulatedRewards)
      (worthless : liqPool.totalValuedShares = 0) :
      BroughtUp cfg s globalPool liqPool now mid
        { midPool with
          paidAccumulatedRewards := midPool.paidAccumulatedRewards + reward
          accumulatedRewards := midPool.accumulatedRewards - reward }
        { liqPool with accumulatedRpz := midPool.accumulatedRpz }
  | paid {mid : State} {midPool : GlobalPool} {reward accumulatedRpvs : ℕ}
      {ledger : Currencies} (due : liqPool.IsDue now)
      (refreshed : refreshGlobalPool cfg s globalPool now = .ok (mid, midPool))
      (behind : liqPool.accumulatedRpz ≤ midPool.accumulatedRpz)
      (earned : reward =
        (midPool.accumulatedRpz - liqPool.accumulatedRpz) * liqPool.stakeInGlobalPool)
      (covered : reward ≤ midPool.accumulatedRewards)
      (valued : liqPool.totalValuedShares ≠ 0)
      (booked : cfg.math.calculateAccumulatedRps liqPool.accumulatedRpvs
        liqPool.totalValuedShares reward = some accumulatedRpvs)
      (moved : mid.ledger.transfer midPool.rewardCurrency (.palletSubAccount midPool.id)
        (.palletSubAccount liqPool.id) reward = some ledger) :
      BroughtUp cfg s globalPool liqPool now
        { mid with
          ledger
          events := mid.events ++ [.liquidityPoolAccRPVSUpdated midPool.id liqPool.id
            accumulatedRpvs liqPool.totalValuedShares] }
        { midPool with
          paidAccumulatedRewards := midPool.paidAccumulatedRewards + reward
          accumulatedRewards := midPool.accumulatedRewards - reward }
        { liqPool with
          accumulatedRpz := midPool.accumulatedRpz
          accumulatedRpvs
          updatedAt := now }

theorem broughtUp_of_maybeUpdatePools
    (called : maybeUpdatePools cfg s globalPool liqPool now = .ok (s', globalPool', liqPool')) :
    BroughtUp cfg s globalPool liqPool now s' globalPool' liqPool' := by
  unfold maybeUpdatePools at called
  split_ifs at called with canceled working
  · rw [return_eq_ok, Prod.mk.injEq, Prod.mk.injEq] at called
    obtain ⟨rfl, rfl, rfl⟩ := called
    refine .idle fun due => ?_
    rw [due.1] at canceled
    cases canceled
  · have due : liqPool.IsDue now := ⟨Bool.eq_false_of_not_eq_true canceled, working⟩
    simp only [bind_eq_ok, return_eq_ok, claimFromGlobalPool, okOr_eq_ok, checkedSub_eq_some,
      checkedMul_eq_some, checkedAdd_eq_some, Prod.mk.injEq] at called
    obtain ⟨⟨mid, midPool⟩, refreshed, ⟨_, _, _⟩, ⟨_, ⟨behind, rfl⟩, _, ⟨-, rfl⟩, _, ⟨-, rfl⟩, _,
      ⟨covered, rfl⟩, rfl, rfl, rfl⟩, ⟨_, _⟩, updated, rfl, rfl, rfl⟩ := called
    dsimp only at behind covered updated ⊢
    unfold updateLiqPool at updated
    split_ifs at updated with again worthless
    · exact absurd again due.2.2
    · rw [return_eq_ok, Prod.mk.injEq] at updated
      obtain ⟨rfl, rfl⟩ := updated
      exact .unvalued due refreshed behind rfl covered worthless
    · simp only [bind_eq_ok, okOr_eq_ok, poolAccountId_eq_ok, return_eq_ok, State.transfer_eq_ok,
        Prod.mk.injEq] at updated
      obtain ⟨accumulatedRpvs, booked, _, ⟨-, rfl⟩, _, -, _, ⟨-, rfl⟩, _, ⟨ledger, moved, rfl⟩,
        rfl, rfl⟩ := updated
      exact .paid due refreshed behind rfl covered worthless booked moved
  · rw [return_eq_ok, Prod.mk.injEq, Prod.mk.injEq] at called
    obtain ⟨rfl, rfl, rfl⟩ := called
    exact .idle fun due => working due.2

/-- Bringing the farm up to date moves no funds and changes three of its fields. -/
theorem refreshGlobalPool_frame {mid : State} {midPool : GlobalPool}
    (called : refreshGlobalPool cfg s globalPool now = .ok (mid, midPool)) :
    (∃ reports, claimedIn reports = 0 ∧ mid = { s with events := s.events ++ reports }) ∧
      ∃ accumulatedRpz accumulatedRewards updatedAt,
        midPool = { globalPool with accumulatedRpz, accumulatedRewards, updatedAt } := by
  obtain ⟨rfl, rfl, -⟩ | ⟨_, _, _, -, -, -, -, -, -, rfl, rfl⟩ := refreshGlobalPool_ok called
  · exact ⟨⟨[], rfl, by rw [List.append_nil]⟩, _, _, _, rfl⟩
  · exact ⟨⟨[_], rfl, rfl⟩, _, _, _, rfl⟩

theorem updated_of_maybeUpdatePools
    (called : maybeUpdatePools cfg s globalPool liqPool now = .ok (s', globalPool', liqPool')) :
    Updated s globalPool liqPool s' globalPool' liqPool' := by
  cases broughtUp_of_maybeUpdatePools called with
  | idle => exact .refl
  | unvalued _ refreshed =>
      obtain ⟨⟨reports, quiet, rfl⟩, _, _, _, rfl⟩ := refreshGlobalPool_frame refreshed
      exact ⟨⟨_, reports, quiet, rfl⟩, fun _ _ _ => rfl, ⟨_, _, _, _, rfl⟩, ⟨_, _, _, rfl⟩⟩
  | paid _ refreshed _ _ _ _ _ moved =>
      obtain ⟨⟨reports, quiet, rfl⟩, _, _, _, rfl⟩ := refreshGlobalPool_frame refreshed
      refine ⟨⟨_, reports ++ [_], ?_, by rw [← List.append_assoc]⟩, ?_, ⟨_, _, _, _, rfl⟩,
        ⟨_, _, _, rfl⟩⟩
      · rw [claimedIn_append, quiet]
        rfl
      · intro account currency distinct
        exact Ledger.free_transfer_of_ne_currency moved account distinct

/-- The pool in `slot` and its farm were brought up to date by moves. -/
structure Settled (cfg : Config) (s : State) (label : Label) (slot : Slot)
    (globalPool : GlobalPool) (liqPool : LiquidityPoolYieldFarm) (s' : State)
    (globalPool' : GlobalPool) (liqPool' : LiquidityPoolYieldFarm)
    (farms : AList fun _ : ℕ => GlobalPool)
    (pools : AList fun _ : Slot => LiquidityPoolYieldFarm) : Prop where
  path : Path cfg s label s { s' with globalPoolData := farms, liquidityPoolData := pools }
  farm : farms.lookup slot.1 = some globalPool'
  pool : pools.lookup slot = some liqPool'
  overFarm : ∀ written,
    farms.insert slot.1 written = s'.globalPoolData.insert slot.1 written
  overPool : ∀ written,
    pools.insert slot written = s'.liquidityPoolData.insert slot written
  shape : ∃ events ledger, s' = { s with events, ledger }
  farmKept : ∃ accumulatedRpz accumulatedRewards paidAccumulatedRewards updatedAt,
    globalPool' = { globalPool with
      accumulatedRpz, accumulatedRewards, paidAccumulatedRewards, updatedAt }
  poolKept : ∃ accumulatedRpz accumulatedRpvs updatedAt,
    liqPool' = { liqPool with accumulatedRpz, accumulatedRpvs, updatedAt }
  idle : ¬ Due s slot → farms = s.globalPoolData ∧ pools = s.liquidityPoolData
  checkpoint : Due s slot → liqPool'.accumulatedRpz = globalPool'.accumulatedRpz
  current : Due s slot →
    globalPool.totalSharesZ ≠ 0 ∨ globalPool.updatedAt = s.period globalPool →
    globalPool'.updatedAt = s.period globalPool

theorem inherits_collect {slot : Slot} : Inherits cfg s label u (.collect slot) := by
  refine ⟨?_, trivial⟩
  intro rule _
  cases rule <;> trivial

theorem inherits_forfeit {slot : Slot} : Inherits cfg s label u (.forfeit slot) := by
  refine ⟨?_, trivial⟩
  intro rule _
  cases rule <;> trivial

theorem settled_of_maybeUpdatePools (label : Label) (slot : Slot)
    (farm : s.globalPoolData.lookup slot.1 = some globalPool)
    (pool : s.liquidityPoolData.lookup slot = some liqPool)
    (funded : Rule.fundedAccrual.Allows cfg s label → Due s slot → Funded cfg s slot.1)
    (called : maybeUpdatePools cfg s globalPool liqPool (s.period globalPool) =
      .ok (s', globalPool', liqPool')) :
    ∃ farms pools, Settled cfg s label slot globalPool liqPool s' globalPool' liqPool'
      farms pools := by
  have isDue := due_iff farm pool
  cases broughtUp_of_maybeUpdatePools called with
  | idle undue =>
      rw [← isDue] at undue
      exact ⟨s.globalPoolData, s.liquidityPoolData, .refl, farm, pool, fun _ => rfl,
        fun _ => rfl, ⟨_, _, rfl⟩, ⟨_, _, _, _, rfl⟩, ⟨_, _, _, rfl⟩, fun _ => ⟨rfl, rfl⟩,
        fun now => absurd now undue, fun now => absurd now undue⟩
  | unvalued due refreshed behind earned covered worthless =>
      have due' := isDue.mpr due
      obtain ⟨farms, up⟩ := refreshed_of_refreshGlobalPool label farm
        (fun allowed => funded allowed due') refreshed
      obtain ⟨events, rfl⟩ := up.shape
      obtain ⟨accumulatedRpz, accumulatedRewards, updatedAt, rfl⟩ := up.kept
      refine ⟨_, _, up.path.tail ⟨.forfeit slot, inherits_forfeit,
        .forfeit up.farm pool due.1 worthless behind earned covered⟩, AList.lookup_insert _,
        AList.lookup_insert _, ?_, fun _ => AList.insert_insert _, ⟨_, _, rfl⟩,
        ⟨_, _, _, _, rfl⟩, ⟨_, _, _, rfl⟩, absurd due', fun _ => rfl, fun _ => up.current⟩
      intro written
      exact (AList.insert_insert _).trans (up.overFarm written)
  | paid due refreshed behind earned covered valued booked moved =>
      have due' := isDue.mpr due
      obtain ⟨farms, up⟩ := refreshed_of_refreshGlobalPool label farm
        (fun allowed => funded allowed due') refreshed
      obtain ⟨events, rfl⟩ := up.shape
      obtain ⟨accumulatedRpz, accumulatedRewards, updatedAt, rfl⟩ := up.kept
      have collected : Move cfg { s with events, globalPoolData := farms } (.collect slot) _ :=
        .collect up.farm pool due.1 (by exact due.2.2) valued behind earned covered
          (.inl booked) moved
      refine ⟨_, _, up.path.tail ⟨_, inherits_collect, collected⟩, AList.lookup_insert _,
        AList.lookup_insert _, ?_, fun _ => AList.insert_insert _, ⟨_, _, rfl⟩,
        ⟨_, _, _, _, rfl⟩, ⟨_, _, _, rfl⟩, absurd due', fun _ => rfl, fun _ => up.current⟩
      intro written
      exact (AList.insert_insert _).trans (up.overFarm written)

/-- A settled pool is up to date with its farm. -/
theorem Settled.checkpointCurrent {slot : Slot} {farms : AList fun _ : ℕ => GlobalPool}
    {pools : AList fun _ : Slot => LiquidityPoolYieldFarm}
    (settled : Settled cfg s label slot globalPool liqPool s' globalPool' liqPool' farms
      pools)
    (current : Due s slot ∨ CheckpointCurrent s slot) :
    CheckpointCurrent { s' with globalPoolData := farms, liquidityPoolData := pools }
      slot := by
  intro found found' lookup lookup'
  by_cases due : Due s slot
  · rw [settled.farm, Option.some.injEq] at lookup
    rw [settled.pool, Option.some.injEq] at lookup'
    subst lookup lookup'
    exact settled.checkpoint due
  · obtain ⟨rfl, rfl⟩ := settled.idle due
    exact current.resolve_left due found found' lookup lookup'

/-- The farm of a settled pool is up to date. -/
theorem Settled.farmCurrent {slot : Slot} {farms : AList fun _ : ℕ => GlobalPool}
    {pools : AList fun _ : Slot => LiquidityPoolYieldFarm}
    (settled : Settled cfg s label slot globalPool liqPool s' globalPool' liqPool' farms
      pools)
    (farm : s.globalPoolData.lookup slot.1 = some globalPool)
    (current : (Due s slot ∧ FarmStaked s slot.1) ∨ FarmCurrent s slot.1) :
    FarmCurrent { s' with globalPoolData := farms, liquidityPoolData := pools }
      slot.1 := by
  intro found lookup
  have block : s'.blockNumber = s.blockNumber := by
    obtain ⟨_, _, rfl⟩ := settled.shape
    rfl
  have periods : globalPool'.blocksPerPeriod = globalPool.blocksPerPeriod := by
    obtain ⟨_, _, _, _, kept⟩ := settled.farmKept
    rw [kept]
  have updated : globalPool'.updatedAt = s.period globalPool := by
    by_cases due : Due s slot
    · refine settled.current due ?_
      obtain ⟨-, staked⟩ | fresh := current
      · exact .inl (staked _ farm)
      · exact .inr (fresh _ farm)
    · have lookup := settled.farm
      rw [(settled.idle due).1, farm, Option.some.injEq] at lookup
      subst lookup
      exact (current.resolve_left fun both => due both.1) _ farm
  rw [settled.farm, Option.some.injEq] at lookup
  subst lookup
  rw [updated]
  simp only [State.period, block, periods]

end Prefix

/-- A call that brings the pool in `slot` and its farm up to date before it acts. -/
def SettlesFirst (cfg : Config) (s : State) (label : Label) (slot : Slot) (t : State) : Prop :=
  ∃ globalPool liqPool s' globalPool' liqPool' farms pools,
    s.globalPoolData.lookup slot.1 = some globalPool ∧
    s.liquidityPoolData.lookup slot = some liqPool ∧
    maybeUpdatePools cfg s globalPool liqPool (s.period globalPool) =
      .ok (s', globalPool', liqPool') ∧
    Settled cfg s label slot globalPool liqPool s' globalPool' liqPool' farms pools ∧
    Path cfg s label { s' with globalPoolData := farms, liquidityPoolData := pools } t

theorem SettlesFirst.path {slot : Slot} (settles : SettlesFirst cfg s label slot t) :
    Path cfg s label s t := by
  obtain ⟨_, _, _, _, _, _, _, -, -, -, settled, acts⟩ := settles
  exact settled.path.trans acts

/-- Writing a slot twice is writing it once. -/
theorem State.put_over (s : State) (slot : Slot)
    {farms : AList fun _ : ℕ => GlobalPool}
    {pools : AList fun _ : Slot => LiquidityPoolYieldFarm}
    (overFarm : ∀ written,
      farms.insert slot.1 written = s.globalPoolData.insert slot.1 written)
    (overPool : ∀ written,
      pools.insert slot written = s.liquidityPoolData.insert slot written)
    (globalPool : GlobalPool) (liqPool : LiquidityPoolYieldFarm) :
    State.put { s with globalPoolData := farms, liquidityPoolData := pools } slot
      globalPool liqPool = s.put slot globalPool liqPool := by
  simp only [State.put, State.setGlobalPool, State.setLiqPool, overFarm, overPool]

theorem Move.over {kind : MoveKind} {t' : State} (move : Move cfg u kind t)
    (same : t = t') : Move cfg u kind t' :=
  same ▸ move

section Calls

variable {key farmId nftId multiplier : ℕ} {assetPair : AssetPair}

theorem updateLiquidityPool_settles
    (called : updateLiquidityPool cfg s (.signer key) farmId assetPair multiplier =
      .ok t) :
    SettlesFirst cfg s (.call (.updateLiquidityPool key farmId assetPair multiplier))
      (farmId, cfg.getPairId assetPair) t := by
  obtain ⟨globalPool, liqPool, s', globalPool', liqPool', stake, ⟨farm, pool, updated⟩, -,
    active, weighed, held, fits, rfl⟩ := updateLiquidityPool_ok called
  obtain ⟨farms, pools, settled⟩ := settled_of_maybeUpdatePools
    (.call (.updateLiquidityPool key farmId assetPair multiplier)) (farmId, cfg.getPairId assetPair)
    farm pool (fun allowed due => allowed farmId ⟨_, rfl, rfl, due⟩) updated
  have active' : liqPool'.canceled = false := by
    obtain ⟨_, _, _, kept⟩ := settled.poolKept
    rw [kept, active]
  refine ⟨_, _, _, _, _, _, _, farm, pool, updated, settled, ?_⟩
  refine .single ⟨.update (farmId, cfg.getPairId assetPair), ?_, ?_⟩
  · refine ⟨?_, trivial⟩
    intro rule allowed
    cases rule with
    | currentStake => exact settled.checkpointCurrent allowed
    | _ => trivial
  · refine Move.over ?_ (State.put_over (s'.depositEvent _) _ settled.overFarm
      settled.overPool _ _)
    exact .update settled.farm settled.pool active' weighed held fits

theorem cancelLiquidityPool_settles
    (called : cancelLiquidityPool cfg s (.signer key) farmId assetPair = .ok t) :
    SettlesFirst cfg s (.call (.cancelLiquidityPool key farmId assetPair))
      (farmId, cfg.getPairId assetPair) t := by
  obtain ⟨globalPool, liqPool, s', globalPool', liqPool', ⟨farm, pool, updated⟩, -, active,
    held, rfl⟩ := cancelLiquidityPool_ok called
  obtain ⟨farms, pools, settled⟩ := settled_of_maybeUpdatePools
    (.call (.cancelLiquidityPool key farmId assetPair)) (farmId, cfg.getPairId assetPair)
    farm pool (fun allowed due => allowed farmId ⟨_, rfl, rfl, due⟩) updated
  have active' : liqPool'.canceled = false := by
    obtain ⟨_, _, _, kept⟩ := settled.poolKept
    rw [kept, active]
  refine ⟨_, _, _, _, _, _, _, farm, pool, updated, settled, ?_⟩
  refine .single ⟨.cancel (farmId, cfg.getPairId assetPair), ?_, ?_⟩
  · refine ⟨?_, trivial⟩
    intro rule allowed
    cases rule <;> trivial
  · refine Move.over ?_ (State.put_over (s'.depositEvent _) _ settled.overFarm
      settled.overPool _ _)
    exact .cancel settled.farm settled.pool active' held

theorem resumeLiquidityPool_path
    (called : resumeLiquidityPool cfg s (.signer key) farmId assetPair multiplier =
      .ok t) :
    Path cfg s (.call (.resumeLiquidityPool key farmId assetPair multiplier)) s t := by
  obtain ⟨globalPool, liqPool, s', globalPool', stake, farm, -, pool, idle, refreshed,
    weighed, fits, rfl⟩ := resumeLiquidityPool_ok called
  obtain ⟨farms, up⟩ := refreshed_of_refreshGlobalPool
    (.call (.resumeLiquidityPool key farmId assetPair multiplier)) farm
    (fun allowed => allowed farmId rfl) refreshed
  obtain ⟨events, rfl⟩ := up.shape
  obtain ⟨accumulatedRpz, accumulatedRewards, updatedAt, rfl⟩ := up.kept
  refine up.path.tail ⟨.resume (farmId, cfg.getPairId assetPair), ?_, ?_⟩
  · refine ⟨?_, trivial⟩
    intro rule allowed
    cases rule <;> trivial
  · refine Move.over ?_ (State.put_over (State.depositEvent { s with events } _)
      (farmId, cfg.getPairId assetPair) up.overFarm (fun _ => rfl) _ _)
    exact .resume up.farm pool idle weighed fits

theorem depositShares_settles {amount : ℕ}
    (called : depositShares cfg s (.signer key) farmId assetPair amount = .ok t) :
    SettlesFirst cfg s (.call (.depositShares key farmId assetPair amount))
      (farmId, cfg.getPairId assetPair) t := by
  obtain ⟨globalPool, liqPool, s', globalPool', liqPool', stake, ledger, nft, metadata,
    ⟨⟨farm, pool, updated⟩, nonzero, active, weighed, fits, locked, numbered, sequenced,
      minted, known⟩, rfl⟩ := depositShares_ok called
  obtain ⟨farms, pools, settled⟩ := settled_of_maybeUpdatePools
    (.call (.depositShares key farmId assetPair amount)) (farmId, cfg.getPairId assetPair)
    farm pool (fun allowed due => allowed farmId ⟨_, rfl, rfl, due⟩) updated
  obtain ⟨events, funds, rfl⟩ := settled.shape
  obtain ⟨accumulatedRpz, accumulatedRewards, paid, updatedAt, rfl⟩ := settled.farmKept
  obtain ⟨accumulatedRpz', accumulatedRpvs, updatedAt', rfl⟩ := settled.poolKept
  refine ⟨_, _, _, _, _, _, _, farm, pool, updated, settled, ?_⟩
  refine .single ⟨.enter (farmId, cfg.getPairId assetPair) assetPair, ?_, ?_⟩
  · refine ⟨?_, trivial⟩
    intro rule allowed
    cases rule with
    | currentStake => exact settled.checkpointCurrent allowed
    | currentFarm => exact settled.farmCurrent farm allowed
    | listedDeposit => exact allowed
    | _ => trivial
  · have entered : Move cfg
        { s with
          events, ledger := funds, globalPoolData := farms, liquidityPoolData := pools }
        (.enter (farmId, cfg.getPairId assetPair) assetPair) _ :=
      .enter settled.farm settled.pool (by exact active) rfl nonzero rfl (by exact weighed)
        (by exact locked) (by exact numbered) (by exact sequenced) (by exact minted)
        (by exact known) (by exact fits)
    refine entered.over ?_
    simp only [State.put, State.setGlobalPool, State.setLiqPool, State.period,
      settled.overFarm, settled.overPool]

theorem inherits_pay {nftId : ℕ} : Inherits cfg s label u (.pay nftId) := by
  refine ⟨?_, trivial⟩
  intro rule _
  cases rule <;> trivial

/-- The payment of a settled deposit. -/
theorem Settled.pay {metadata : Metadata} {globalPool globalPool' : GlobalPool}
    {liqPool liqPool' : LiquidityPoolYieldFarm} {deposit : Deposit}
    {farms : AList fun _ : ℕ => GlobalPool}
    {pools : AList fun _ : Slot => LiquidityPoolYieldFarm}
    {loyalty reward unclaimable : ℕ} {ledger : Currencies}
    (settled : Settled cfg s label (metadata.slot cfg) globalPool liqPool s' globalPool'
      liqPool' farms pools)
    (known : s.liquidityPoolMetadata.lookup (poolIdOf nftId) = some metadata)
    (recorded : s.depositData.lookup nftId = some deposit)
    (entered : deposit.enteredAt ≤ s.period globalPool)
    (unpaid : deposit.updatedAt ≠ s.period globalPool)
    (loyal : getLoyaltyMultiplier cfg (s.period globalPool - deposit.enteredAt)
      liqPool'.loyaltyCurve = .ok loyalty)
    (priced : cfg.math.calculateUserReward deposit.accumulatedRpvs deposit.valuedShares
      deposit.accumulatedClaimedRewards liqPool'.accumulatedRpvs loyalty =
        some (reward, unclaimable))
    (moved : s'.ledger.transfer globalPool'.rewardCurrency (.palletSubAccount liqPool'.id)
      (.signer key) reward = some ledger)
    (reports : List Event) (reported : claimedIn reports = reward) :
    Move cfg { s' with globalPoolData := farms, liquidityPoolData := pools } (.pay nftId)
      (State.put
        { s' with
          ledger
          events := s'.events ++ reports
          depositData := s'.depositData.insert nftId
            { deposit with
              accumulatedClaimedRewards := deposit.accumulatedClaimedRewards + reward
              updatedAt := s.period globalPool } }
        (metadata.slot cfg) globalPool' liqPool') := by
  obtain ⟨events, funds, rfl⟩ := settled.shape
  obtain ⟨accumulatedRpz, accumulatedRewards, paid, updatedAt, rfl⟩ := settled.farmKept
  have pays : Move cfg
      { s with
        events, ledger := funds, globalPoolData := farms, liquidityPoolData := pools }
      (.pay nftId) _ :=
    .pay reports known recorded settled.farm settled.pool (by exact entered)
      (by exact unpaid) (by exact loyal) (by exact priced) (by exact moved) reported
  refine pays.over ?_
  simp only [State.put, State.setGlobalPool, State.setLiqPool, State.period,
    settled.overPool]
  -- the farm's key is the first component of the slot
  rw [settled.overFarm]

/-- A call for a deposit accrues in the farm the deposit leads to. -/
theorem funded_of_claimRewards {metadata : Metadata}
    (known : s.liquidityPoolMetadata.lookup (poolIdOf nftId) = some metadata)
    (allowed : Rule.fundedAccrual.Allows cfg s (.call (.claimRewards key nftId)))
    (due : Due s (metadata.slot cfg)) : Funded cfg s metadata.farmId :=
  allowed metadata.farmId ⟨metadata.slot cfg, by simp [Call.slot, known], rfl, due⟩

theorem funded_of_withdrawShares {metadata : Metadata}
    (known : s.liquidityPoolMetadata.lookup (poolIdOf nftId) = some metadata)
    (allowed : Rule.fundedAccrual.Allows cfg s (.call (.withdrawShares key nftId)))
    (due : Due s (metadata.slot cfg)) : Funded cfg s metadata.farmId :=
  allowed metadata.farmId ⟨metadata.slot cfg, by simp [Call.slot, known], rfl, due⟩

theorem claimRewards_settles
    (called : claimRewards cfg s (.signer key) nftId = .ok t) :
    ∃ metadata, s.liquidityPoolMetadata.lookup (poolIdOf nftId) = some metadata ∧
      SettlesFirst cfg s (.call (.claimRewards key nftId)) (metadata.slot cfg) t := by
  obtain ⟨metadata, deposit, globalPool, liqPool, s', globalPool', liqPool', s'', deposit',
    reward, unclaimable, done, rfl⟩ := claimRewards_eq_ok.mp called
  obtain ⟨farms, pools, settled⟩ := settled_of_maybeUpdatePools
    (.call (.claimRewards key nftId)) (metadata.slot cfg) done.farm done.pool
    (funded_of_claimRewards done.known) done.updated
  obtain ⟨entered, ⟨paid, -⟩ | ⟨loyalty, ledger, -, loyal, priced, moved, rfl, rfl⟩⟩ :=
    doClaimRewards_ok done.claimed
  · exact absurd paid done.unpaid
  · refine ⟨metadata, done.known, _, _, _, _, _, _, _, done.farm, done.pool, done.updated,
      settled, ?_⟩
    exact .single ⟨.pay nftId, inherits_pay, settled.pay done.known done.recorded entered
      done.unpaid loyal priced moved [_] (Nat.add_zero _)⟩

theorem Returned.congr {who : AccountId} {shares : ℕ} {before after : Currencies}
    (returned : Returned s assetPair who shares before after) (same : u.amm = s.amm) :
    Returned u assetPair who shares before after := by
  cases returned with
  | listed present moved =>
      exact .listed (by rw [same, present]) (by rw [same, moved])
  | unlisted absent kept => exact .unlisted (by rw [same, absent]) kept

theorem inherits_leave : Inherits cfg s label u (.leave nftId) := by
  refine ⟨?_, trivial⟩
  intro rule _
  cases rule <;> trivial

/-- After `u` the deposit was paid, unless it already was in this period: the working
copies `s'` and `deposit'` of a call stand for the state in which `deposits`, `farms` and
`pools` are stored and `claims` are reported. -/
structure Paid (cfg : Config) (s : State) (label : Label) (u : State) (slot : Slot) (nftId : ℕ)
    (deposit : Deposit) (globalPool : GlobalPool) (liqPool : LiquidityPoolYieldFarm)
    (s' : State) (deposit' : Deposit) (unclaimable : ℕ) (claims : List Event)
    (deposits : AList fun _ : ℕ => Deposit) (farms : AList fun _ : ℕ => GlobalPool)
    (pools : AList fun _ : Slot => LiquidityPoolYieldFarm) : Prop where
  path : Path cfg s label u
    { s' with
      events := s'.events ++ claims
      depositData := deposits
      globalPoolData := farms
      liquidityPoolData := pools }
  recorded : deposits.lookup nftId = some deposit'
  farm : farms.lookup slot.1 = some globalPool
  pool : pools.lookup slot = some liqPool
  forgotten : deposits.erase nftId = s'.depositData.erase nftId
  overFarm : ∀ written,
    farms.insert slot.1 written = s'.globalPoolData.insert slot.1 written
  overPool : ∀ written,
    pools.insert slot written = s'.liquidityPoolData.insert slot written
  shape : ∃ events ledger, s' = { s with events, ledger }
  kept : ∃ accumulatedClaimedRewards updatedAt,
    deposit' = { deposit with accumulatedClaimedRewards, updatedAt }
  leftover : unclaimable = 0 ∨ ∃ claimed reward loyalty,
    cfg.math.calculateUserReward deposit'.accumulatedRpvs deposit'.valuedShares claimed
        liqPool.accumulatedRpvs loyalty = some (reward, unclaimable) ∧
      deposit'.accumulatedClaimedRewards = claimed + reward

theorem paid_of_doClaimRewards {metadata : Metadata} {globalPool globalPool' : GlobalPool}
    {liqPool liqPool' : LiquidityPoolYieldFarm} {deposit deposit' : Deposit}
    {farms : AList fun _ : ℕ => GlobalPool}
    {pools : AList fun _ : Slot => LiquidityPoolYieldFarm}
    {reward unclaimable : ℕ} {s'' : State} (claims : List Event)
    (settled : Settled cfg s label (metadata.slot cfg) globalPool liqPool s' globalPool'
      liqPool' farms pools)
    (known : s.liquidityPoolMetadata.lookup (poolIdOf nftId) = some metadata)
    (recorded : s.depositData.lookup nftId = some deposit)
    (claimed : doClaimRewards cfg s' (.signer key) deposit liqPool' (s.period globalPool)
      globalPool'.rewardCurrency = .ok (s'', deposit', reward, unclaimable))
    (reported : claimedIn claims = reward) (quiet : reward = 0 → claims = []) :
    ∃ deposits farms' pools', Paid cfg s label
      { s' with globalPoolData := farms, liquidityPoolData := pools } (metadata.slot cfg)
      nftId deposit globalPool' liqPool' s'' deposit' unclaimable claims deposits farms'
      pools' := by
  obtain ⟨events, funds, shape⟩ := settled.shape
  obtain ⟨entered, ⟨-, rfl, rfl, rfl, rfl⟩ | ⟨loyalty, ledger, unpaid, loyal, priced,
    moved, rfl, rfl⟩⟩ := doClaimRewards_ok claimed
  · subst shape
    refine ⟨s.depositData, farms, pools, ?_, recorded, settled.farm, settled.pool, rfl,
      settled.overFarm, settled.overPool, ⟨_, _, rfl⟩, ⟨_, _, rfl⟩, .inl rfl⟩
    rw [quiet rfl, List.append_nil]
  · have pays := settled.pay known recorded entered unpaid loyal priced moved claims
      reported
    subst shape
    exact ⟨_, _, _, .single ⟨_, inherits_pay, pays⟩, AList.lookup_insert _,
      AList.lookup_insert _, AList.lookup_insert _, AList.erase_insert _ _ _,
      fun _ => AList.insert_insert _, fun _ => AList.insert_insert _, ⟨_, _, rfl⟩,
      ⟨_, _, rfl⟩, .inr ⟨_, _, _, priced, rfl⟩⟩

/-- A deposit that finds a pool in its slot is settled, paid unless it already was,
and leaves. -/
theorem withdrawFromLiqPool_settles {metadata : Metadata} {liqPool : LiquidityPoolYieldFarm}
    {deposit : Deposit} {ledger : Currencies} {nft : Nft.State} {reports : List Event}
    (label : Label)
    (known : s.liquidityPoolMetadata.lookup (poolIdOf nftId) = some metadata)
    (recorded : s.depositData.lookup nftId = some deposit)
    (pool : s.liquidityPoolData.lookup (metadata.slot cfg) = some liqPool)
    (funded : Rule.fundedAccrual.Allows cfg s label → Due s (metadata.slot cfg) →
      Funded cfg s metadata.farmId)
    (called : withdrawFromLiqPool cfg s (.signer key) (metadata.slot cfg) liqPool deposit =
      .ok t)
    (returned : Returned t metadata.assetPair (.signer key) deposit.shares t.ledger ledger)
    (burned : Nft.doBurn t.nft (.signer key) (cfg.nftClass, nftId) = .ok nft)
    (counted : 1 ≤ metadata.nftsCount) (reported : claimedIn reports = 0) :
    SettlesFirst cfg s label (metadata.slot cfg)
      { t with
        ledger
        nft
        events := t.events ++ reports
        depositData := t.depositData.erase nftId
        liquidityPoolMetadata := t.liquidityPoolMetadata.insert (poolIdOf nftId)
          { metadata with nftsCount := metadata.nftsCount - 1 } } := by
  obtain ⟨globalPool, s', globalPool', liqPool', s'', deposit', reward, unclaimable, stake,
    refunded, ⟨farm, updated, claimed, shares, valuedShares, released, held, heldFarm,
      refund⟩, rfl⟩ := withdrawFromLiqPool_ok called
  obtain ⟨farms, pools, settled⟩ := settled_of_maybeUpdatePools label (metadata.slot cfg)
    farm pool funded updated
  obtain ⟨deposits, farms', pools', paid⟩ := paid_of_doClaimRewards
    (claimReports globalPool' liqPool' (.signer key) reward) settled known recorded claimed
    claimedIn_claimReports (fun nothing => if_pos nothing)
  obtain ⟨accumulatedClaimedRewards, updatedAt, rfl⟩ := paid.kept
  obtain ⟨events, funds, rfl⟩ := paid.shape
  refine ⟨_, _, _, _, _, _, _, farm, pool, updated, settled, ?_⟩
  refine paid.path.tail ⟨.leave nftId, inherits_leave, ?_⟩
  have leaves : Move cfg
      { s with
        events := events ++ claimReports globalPool' liqPool' (.signer key) reward
        ledger := funds, depositData := deposits
        globalPoolData := farms', liquidityPoolData := pools' }
      (.leave nftId) _ :=
    .leave reports known paid.recorded paid.farm paid.pool shares valuedShares released
      held heldFarm paid.leftover refund (returned.congr rfl) burned counted reported
  refine leaves.over ?_
  simp only [State.put, State.setGlobalPool, State.setLiqPool, paid.overPool,
    paid.forgotten]
  rw [paid.overFarm]

theorem inherits_depart : Inherits cfg s label u (.depart nftId) := by
  refine ⟨?_, trivial⟩
  intro rule _
  cases rule <;> trivial

/-- A withdrawal settles its deposit, unless there is no pool in its slot. -/
theorem withdrawShares_settles
    (called : withdrawShares cfg s (.signer key) nftId = .ok t) :
    ∃ metadata, s.liquidityPoolMetadata.lookup (poolIdOf nftId) = some metadata ∧
      ((s.liquidityPoolData.lookup (metadata.slot cfg) = none ∧
          Path cfg s (.call (.withdrawShares key nftId)) s t) ∨
        SettlesFirst cfg s (.call (.withdrawShares key nftId)) (metadata.slot cfg) t) := by
  obtain ⟨metadata, deposit, u, v, nft, ⟨-, -, known, recorded, settled, handed, burned,
    counted⟩, rfl⟩ := withdrawShares_ok called
  obtain ⟨ledger, reports, returned, reported, rfl⟩ := returnLpShares_ok handed
  refine ⟨metadata, known, ?_⟩
  obtain ⟨vacant, rfl⟩ | ⟨liqPool, pool, left⟩ := settleWithdrawal_ok settled
  · refine .inl ⟨vacant, .single ⟨.depart nftId, inherits_depart, ?_⟩⟩
    refine (Move.depart reports known recorded vacant returned burned counted
      reported).over ?_
    simp only [vacant, Option.isNone_none, and_true]
  · have settles := withdrawFromLiqPool_settles (.call (.withdrawShares key nftId)) known
      recorded pool (funded_of_withdrawShares known) left returned burned counted reported
    simp only [pool, Option.isNone_some, Bool.false_eq_true, and_false, if_false]
    exact .inr settles

theorem createFarm_path {totalRewards plannedYieldingPeriods blocksPerPeriod : ℕ}
    {incentivizedAsset rewardCurrency : AssetId} {owner : AccountId}
    {yieldPerPeriod : Permill}
    (called : createFarm cfg s totalRewards plannedYieldingPeriods blocksPerPeriod
      incentivizedAsset rewardCurrency owner yieldPerPeriod = .ok t) :
    Path cfg s (.call (.createFarm totalRewards plannedYieldingPeriods blocksPerPeriod
      incentivizedAsset rewardCurrency owner yieldPerPeriod)) s t := by
  obtain ⟨-, proper, numbered, ledger, funded, rfl⟩ := createFarm_ok called
  refine .single ⟨.createFarm owner, ?_, .createFarm _ proper numbered funded rfl⟩
  refine ⟨?_, ⟨_, _, _, _, _, _, rfl⟩⟩
  intro rule allowed
  cases rule with
  | outsideOwner => exact allowed
  | _ => trivial

theorem destroyFarm_path (called : destroyFarm s (.signer key) farmId = .ok t) :
    Path cfg s (.call (.destroyFarm key farmId)) s t := by
  obtain ⟨globalPool, farm, -, empty, -, rfl⟩ := destroyFarm_ok called
  refine .single ⟨.destroyFarm farmId, ?_, .destroyFarm farm empty⟩
  refine ⟨?_, trivial⟩
  intro rule _
  cases rule <;> trivial

theorem withdrawUndistributedRewards_path
    (called : withdrawUndistributedRewards s (.signer key) farmId = .ok t) :
    Path cfg s (.call (.withdrawUndistributedRewards key farmId)) s t := by
  obtain ⟨globalPool, ledger, farm, -, empty, moved, rfl⟩ :=
    withdrawUndistributedRewards_ok called
  refine .single ⟨.drain farmId, ?_, .drain farm empty moved⟩
  refine ⟨?_, trivial⟩
  intro rule allowed
  cases rule with
  | settledDrain => exact allowed
  | _ => trivial

theorem addLiquidityPool_path {loyaltyCurve : Option LoyaltyCurve}
    (consistent : Consistent cfg s.blockNumber s.toStorage)
    (called : addLiquidityPool cfg s (.signer key) farmId assetPair multiplier
      loyaltyCurve = .ok t) :
    Path cfg s (.call (.addLiquidityPool key farmId assetPair multiplier loyaltyCurve))
      s t := by
  obtain ⟨globalPool, s', globalPool', curve, -, farm, -, vacant, refreshed, numbered, rfl⟩ :=
    addLiquidityPool_ok called
  obtain ⟨farms, up⟩ := refreshed_of_refreshGlobalPool
    (.call (.addLiquidityPool key farmId assetPair multiplier loyaltyCurve)) farm
    (fun allowed => allowed farmId rfl) refreshed
  obtain ⟨events, rfl⟩ := up.shape
  obtain ⟨accumulatedRpz, accumulatedRewards, updatedAt, rfl⟩ := up.kept
  have same : globalPool.id = farmId := (consistent.farms _ _ farm).id
  refine up.path.tail ⟨.addPool farmId assetPair, ?_, ?_⟩
  · refine ⟨?_, ⟨_, _, _, rfl⟩⟩
    intro rule allowed
    cases rule with
    | unusedSlot => exact allowed
    | _ => trivial
  · have added : Move cfg { s with events, globalPoolData := farms }
        (.addPool farmId assetPair) _ :=
      .addPool multiplier up.farm same curve vacant numbered
    refine added.over ?_
    simp only [State.put, State.setGlobalPool, State.setLiqPool, State.period,
      LiquidityPoolYieldFarm.new, same, up.overFarm]

theorem removeLiquidityPool_path
    (called : removeLiquidityPool cfg s (.signer key) farmId assetPair = .ok t) :
    Path cfg s (.call (.removeLiquidityPool key farmId assetPair)) s t := by
  obtain ⟨globalPool, liqPool, ledger, farm, -, pool, idle, counted, moved, rfl⟩ :=
    removeLiquidityPool_ok called
  refine .single ⟨.removePool (farmId, cfg.getPairId assetPair), ?_, ?_⟩
  · refine ⟨?_, trivial⟩
    intro rule _
    cases rule <;> trivial
  · exact .removePool (.signer key) assetPair farm pool idle counted moved

end Calls

/-- Every step is a sequence of moves that inherit its rules. -/
theorem path_of_step (consistent : Consistent cfg s.blockNumber s.toStorage)
    (taken : Step cfg s label t) : Path cfg s label s t := by
  cases label with
  | external env =>
      obtain ⟨follows, rfl⟩ := taken
      refine .single ⟨.external env, ?_, .external follows⟩
      refine ⟨?_, rfl⟩
      intro rule _
      cases rule <;> trivial
  | call call =>
      cases call with
      | createFarm => exact createFarm_path taken
      | destroyFarm => exact destroyFarm_path taken
      | withdrawUndistributedRewards => exact withdrawUndistributedRewards_path taken
      | addLiquidityPool => exact addLiquidityPool_path consistent taken
      | updateLiquidityPool => exact (updateLiquidityPool_settles taken).path
      | cancelLiquidityPool => exact (cancelLiquidityPool_settles taken).path
      | resumeLiquidityPool => exact resumeLiquidityPool_path taken
      | removeLiquidityPool => exact removeLiquidityPool_path taken
      | depositShares => exact (depositShares_settles taken).path
      | claimRewards =>
          obtain ⟨_, -, settles⟩ := claimRewards_settles taken
          exact settles.path
      | withdrawShares =>
          obtain ⟨_, -, ⟨-, path⟩ | settles⟩ := withdrawShares_settles taken
          · exact path
          · exact settles.path

/-- A call that is to bring a pool up to date does so, unless there is none. -/
theorem settlesFirst_of_dispatch {call : Call} {slot : Slot}
    (called : dispatch cfg s call = .ok t) (first : call.slot cfg s = some slot) :
    s.liquidityPoolData.lookup slot = none ∨ SettlesFirst cfg s (.call call) slot t := by
  cases call with
  | updateLiquidityPool =>
      obtain rfl := Option.some.inj first
      exact .inr (updateLiquidityPool_settles called)
  | cancelLiquidityPool =>
      obtain rfl := Option.some.inj first
      exact .inr (cancelLiquidityPool_settles called)
  | depositShares =>
      obtain rfl := Option.some.inj first
      exact .inr (depositShares_settles called)
  | claimRewards =>
      obtain ⟨metadata, known, settles⟩ := claimRewards_settles called
      rw [Call.slot, known, Option.map_some, Option.some.injEq] at first
      exact .inr (first ▸ settles)
  | withdrawShares =>
      obtain ⟨metadata, known, ⟨vacant, -⟩ | settles⟩ := withdrawShares_settles called
      · rw [Call.slot, known, Option.map_some, Option.some.injEq] at first
        exact .inl (first ▸ vacant)
      · rw [Call.slot, known, Option.map_some, Option.some.injEq] at first
        exact .inr (first ▸ settles)
  | _ => exact absurd first nofun

/-- The storage is consistent in every state the moves can reach. -/
theorem consistent_of_moves {guard : State → MoveKind → Prop}
    (reachable : ReachableUnder (Initial cfg) (Move cfg) guard s) :
    Consistent cfg s.blockNumber s.toStorage := by
  refine ReachableUnder.invariant (fun s => Consistent cfg s.blockNumber s.toStorage) ?_ ?_
    reachable
  · intro s initial
    exact initial.consistent
  · intro s kind t consistent _ move
    exact consistent.move move

/-- The moves of a step that obeys some rules obey them. -/
theorem Path.obeys {rules : List Rule} (path : Path cfg s label u t)
    (obeyed : Obeys cfg rules s label) :
    Relation.ReflTransGen (fun u v => ∃ kind, MoveObeys cfg rules u kind ∧ Move cfg u kind v)
      u t := by
  refine Relation.ReflTransGen.mono ?_ _ _ path
  rintro u v ⟨kind, inherits, move⟩
  exact ⟨kind, fun rule member => inherits.rules rule (obeyed rule member), move⟩

/-- A step keeps the storage consistent. -/
theorem consistent_of_step (consistent : Consistent cfg s.blockNumber s.toStorage)
    (taken : Step cfg s label t) : Consistent cfg t.blockNumber t.toStorage := by
  have path := path_of_step consistent taken
  clear taken
  induction path with
  | refl => exact consistent
  | tail _ moved ih =>
      obtain ⟨kind, -, move⟩ := moved
      exact ih.move move

/-- A call leaves the AMM to the rest of the chain. -/
theorem dispatch_amm (consistent : Consistent cfg s.blockNumber s.toStorage) {call : Call}
    (called : dispatch cfg s call = .ok t) : t.amm = s.amm := by
  have path : Path cfg s (.call call) s t := path_of_step consistent called
  clear called
  induction path with
  | refl => rfl
  | tail _ moved ih =>
      obtain ⟨kind, inherits, move⟩ := moved
      rw [← ih]
      cases move with
      | external => exact absurd inherits.origin nofun
      | _ => rfl

/-- What the pallet can reach under some rules, the moves can reach under them. -/
theorem reachable_moves {rules : List Rule}
    (reachable : ReachableUnder (Initial cfg) (Step cfg) (Obeys cfg rules) s) :
    ReachableUnder (Initial cfg) (Move cfg) (MoveObeys cfg rules) s := by
  refine reachable.refine ?_
  intro s label t before obeyed taken
  have path := path_of_step (consistent_of_moves before) taken
  exact path.obeys obeyed

/-- What the moves reach under some rules, they reach under fewer. -/
theorem moves_of_subset {rules fewer : List Rule} (subset : fewer ⊆ rules)
    (reachable : ReachableUnder (Initial cfg) (Move cfg) (MoveObeys cfg rules) s) :
    ReachableUnder (Initial cfg) (Move cfg) (MoveObeys cfg fewer) s :=
  reachable.mono fun _ _ obeyed rule member => obeyed rule (subset member)

/-- The storage is consistent in every reachable state. -/
theorem consistent_of_reachable (reachable : Reachable (Initial cfg) (Step cfg) s) :
    Consistent cfg s.blockNumber s.toStorage := by
  obtain ⟨past, run⟩ := reachable
  have unruled : Guarded (Obeys cfg []) past := fun _ _ _ member => nomatch member
  exact consistent_of_moves (reachable_moves ⟨past, run, unruled⟩)

end Basilisk.LiquidityMining
