/-
# Deposits earn from the period they enter

A deposit is paid out of what its pool collects, and a pool collects out of what
its farm accrues.  Three checkpoints decide from when on a deposit earns: the
period of the farm, the pool's reward per share of the farm, and the deposit's
reward per share of the pool.  If all three are current when the deposit enters,
everything it is ever paid was accrued in later periods, at most
`maxRewardPerPeriod` in each.  The code brings the first two up to date only for
a pool that already has shares, in a farm that already has stake.
-/

import Basilisk.LiquidityMining.PoolChanges

namespace Basilisk.LiquidityMining

open Basilisk.Math

/-- What a pool would collect from its farm. -/
def collectable (globalPool : GlobalPool) (liqPool : LiquidityPoolYieldFarm) : ℕ :=
  Share.entitlement globalPool.accumulatedRpz
    ⟨liqPool.stakeInGlobalPool, liqPool.accumulatedRpz⟩

/-- The farm was updated in the period `start` or later, and what somebody got out of a pool
with all the pool would still collect was accrued since. -/
structure AccruedSince (start got : ℕ) (globalPool : GlobalPool)
    (liqPool : LiquidityPoolYieldFarm) : Prop where
  started : start ≤ globalPool.updatedAt
  bounded : got + collectable globalPool liqPool ≤
    (globalPool.updatedAt - start) * globalPool.maxRewardPerPeriod

/-- A deposit entered before the farm was last updated, and what it earned with all
its pool would still collect was accrued since. -/
structure EarnsSinceEntry (globalPool : GlobalPool) (liqPool : LiquidityPoolYieldFarm)
    (deposit : Deposit) : Prop where
  entered : deposit.enteredAt ≤ globalPool.updatedAt
  bounded : earned liqPool deposit + collectable globalPool liqPool ≤
    (globalPool.updatedAt - deposit.enteredAt) * globalPool.maxRewardPerPeriod

/-- So it is for all deposits of a pool. -/
def PoolEarnsSinceEntry (globalPool : GlobalPool) (liqPool : LiquidityPoolYieldFarm)
    (deposits : AList fun _ : ℕ => Deposit) : Prop :=
  ∀ nftId deposit, deposits.lookup nftId = some deposit → poolIdOf nftId = liqPool.id →
    EarnsSinceEntry globalPool liqPool deposit

section Entry

variable {cfg : Config} {s t : State} {kind : MoveKind} {slot : Slot}
variable {globalPool globalPool' : GlobalPool} {liqPool liqPool' : LiquidityPoolYieldFarm}
variable {deposit : Deposit}

/-- A farm that only passes on rewards keeps the bound. -/
theorem EarnsSinceEntry.aside {reward : ℕ} (since : EarnsSinceEntry globalPool liqPool deposit)
    (terms : SameTerms globalPool globalPool') (steady : Steady globalPool globalPool' reward)
    {deposit' : Deposit} (entered : deposit'.enteredAt = deposit.enteredAt)
    (less : earned liqPool' deposit' + collectable globalPool liqPool' ≤
      earned liqPool deposit + collectable globalPool liqPool) :
    EarnsSinceEntry globalPool' liqPool' deposit' := by
  refine ⟨?_, ?_⟩
  · rw [steady.updatedAt, entered]
    exact since.entered
  · have same : collectable globalPool' liqPool' = collectable globalPool liqPool' := by
      unfold collectable
      rw [steady.accumulatedRpz]
    rw [same, steady.updatedAt, terms.maxRewardPerPeriod, entered]
    exact less.trans since.bounded

/-- A pool that is up to date with its farm would collect nothing. -/
theorem collectable_of_current (current : liqPool.accumulatedRpz = globalPool.accumulatedRpz) :
    collectable globalPool liqPool = 0 :=
  Share.entitlement_of_current current

theorem collectable_of_unstaked (unstaked : liqPool.stakeInGlobalPool = 0) :
    collectable globalPool liqPool = 0 := by
  unfold collectable
  rw [unstaked]
  exact Nat.mul_zero _

/-- The stake of a pool is a part of its farm's. -/
theorem Consistent.stake_le (consistent : Consistent cfg s.blockNumber s.toStorage)
    (farm : s.globalPoolData.lookup slot.1 = some globalPool)
    (pool : s.liquidityPoolData.lookup slot = some liqPool) :
    liqPool.stakeInGlobalPool ≤ globalPool.totalSharesZ := by
  rw [(consistent.farms _ _ farm).staked]
  have counted := AList.weight_le_total (fun (place : Slot) (liqPool : LiquidityPoolYieldFarm) =>
    if place.1 = slot.1 then liqPool.stakeInGlobalPool else 0) pool
  rw [if_pos rfl] at counted
  exact counted

/-- A farm that accrues does so for later periods. -/
theorem AccruedSince.accrue {start got : ℕ} (since : AccruedSince start got globalPool liqPool)
    (lawful : cfg.math.Lawful) {rewardPerPeriod reward accumulatedRpz period : ℕ}
    (held : liqPool.stakeInGlobalPool ≤ globalPool.totalSharesZ)
    (later : globalPool.updatedAt < period)
    (rate : cfg.math.calculateGlobalPoolRewardPerPeriod
      globalPool.yieldPerPeriod.toFixed globalPool.totalSharesZ
      globalPool.maxRewardPerPeriod = some rewardPerPeriod)
    (capped : reward ≤ (period - globalPool.updatedAt) * rewardPerPeriod)
    (booked : cfg.math.Books globalPool.accumulatedRpz globalPool.totalSharesZ reward
      accumulatedRpz) {accumulatedRewards : ℕ} :
    AccruedSince start got
      { globalPool with accumulatedRpz, accumulatedRewards, updatedAt := period } liqPool := by
  refine ⟨since.started.trans later.le, ?_⟩
  have gained : collectable { globalPool with
      accumulatedRpz, accumulatedRewards, updatedAt := period } liqPool ≤
        collectable globalPool liqPool + reward := by
    unfold collectable
    dsimp only
    rw [booked.le_div lawful.accumulatedRps]
    exact Share.entitlement_distribute held _ _
  have atMost : rewardPerPeriod ≤ globalPool.maxRewardPerPeriod := by
    rw [lawful.rewardPerPeriod rate]
    exact min_le_right _ _
  have accrued := capped.trans (Nat.mul_le_mul_left _ atMost)
  have bounded := since.bounded
  have started := since.started
  calc got + collectable { globalPool with
        accumulatedRpz, accumulatedRewards, updatedAt := period } liqPool
      ≤ (globalPool.updatedAt - start) * globalPool.maxRewardPerPeriod +
        (period - globalPool.updatedAt) * globalPool.maxRewardPerPeriod := by omega
    _ = (period - start) * globalPool.maxRewardPerPeriod := by
        rw [← Nat.add_mul]
        congr 1
        omega

/-- A farm that accrues does so for periods after all entries. -/
theorem EarnsSinceEntry.accrue (since : EarnsSinceEntry globalPool liqPool deposit)
    (lawful : cfg.math.Lawful) {rewardPerPeriod reward accumulatedRpz period : ℕ}
    (held : liqPool.stakeInGlobalPool ≤ globalPool.totalSharesZ)
    (later : globalPool.updatedAt < period)
    (rate : cfg.math.calculateGlobalPoolRewardPerPeriod
      globalPool.yieldPerPeriod.toFixed globalPool.totalSharesZ
      globalPool.maxRewardPerPeriod = some rewardPerPeriod)
    (capped : reward ≤ (period - globalPool.updatedAt) * rewardPerPeriod)
    (booked : cfg.math.Books globalPool.accumulatedRpz globalPool.totalSharesZ reward
      accumulatedRpz) {accumulatedRewards : ℕ} :
    EarnsSinceEntry { globalPool with accumulatedRpz, accumulatedRewards, updatedAt := period }
      liqPool deposit := by
  have accrued : AccruedSince deposit.enteredAt (earned liqPool deposit) globalPool liqPool :=
    ⟨since.entered, since.bounded⟩
  obtain ⟨entered, bounded⟩ := accrued.accrue lawful held later rate capped booked
  exact ⟨entered, bounded⟩

/-- The conditions under which a deposit earns only from the period it enters. -/
def entryRules : List Rule := [.currentStake, .currentFarm, .unusedSlot]

/-- Every change of a pool keeps its deposits from earning for earlier periods. -/
theorem PoolEarnsSinceEntry.change (lawful : cfg.math.Lawful)
    (consistent : Consistent cfg s.blockNumber s.toStorage)
    (tallied : PoolTallied liqPool s.depositData)
    (since : PoolEarnsSinceEntry globalPool liqPool s.depositData)
    (farm : s.globalPoolData.lookup slot.1 = some globalPool)
    (pool : s.liquidityPoolData.lookup slot = some liqPool)
    (terms : SameTerms globalPool globalPool')
    (change : PoolChange cfg s t slot globalPool globalPool' liqPool kind liqPool')
    (obeyed : MoveObeys cfg entryRules s kind) :
    PoolEarnsSinceEntry globalPool' liqPool' t.depositData := by
  intro nftId deposit recorded own
  cases change with
  | idle untouched steady members =>
      rw [members.lookup nftId own] at recorded
      exact (since _ _ recorded own).aside terms steady rfl le_rfl
  | accrue later rate capped booked farm' deposits =>
      rw [deposits] at recorded
      subst farm'
      exact (since _ _ recorded own).accrue lawful (consistent.stake_le farm pool) later rate
        capped booked
  | collect gained booked moved steady deposits =>
      rw [deposits] at recorded
      refine (since _ _ recorded own).aside terms steady rfl ?_
      have held := tallied.valuedShares_le recorded own
      rw [collectable_of_current rfl, Nat.add_zero]
      refine le_trans ?_ (Nat.add_le_add_left gained.le _)
      unfold earned
      dsimp only
      rw [booked.le_div lawful.accumulatedRps]
      exact Share.entitlement_distribute held _ _
  | forfeit steady deposits =>
      rw [deposits] at recorded
      refine (since _ _ recorded own).aside terms steady rfl ?_
      rw [collectable_of_current rfl, Nat.add_zero]
      exact Nat.le_add_right _ _
  | update weighed steady deposits =>
      rw [deposits] at recorded
      have current : CheckpointCurrent s slot := obeyed .currentStake (by decide)
      have checkpoint := current _ _ farm pool
      refine (since _ _ recorded own).aside terms steady rfl ?_
      rw [collectable_of_current (by exact checkpoint), Nat.add_zero]
      exact Nat.le_add_right _ _
  | cancel steady deposits =>
      rw [deposits] at recorded
      refine (since _ _ recorded own).aside terms steady rfl ?_
      rw [collectable_of_unstaked rfl, Nat.add_zero]
      exact Nat.le_add_right _ _
  | resume weighed steady deposits =>
      rw [deposits] at recorded
      refine (since _ _ recorded own).aside terms steady rfl ?_
      rw [collectable_of_current rfl, Nat.add_zero]
      exact Nat.le_add_right _ _
  | @enter newId amount valuedShares stake assetPair mine fresh weighed active steady
      deposits =>
      have currentStake : CheckpointCurrent s slot := obeyed .currentStake (by decide)
      have currentFarm : FarmCurrent s slot.1 := obeyed .currentFarm (by decide)
      have checkpoint := currentStake _ _ farm pool
      rw [deposits, AList.lookup_insert_eq_ite] at recorded
      split_ifs at recorded
      · obtain rfl := Option.some.inj recorded
        refine ⟨?_, ?_⟩
        · rw [steady.updatedAt, currentFarm _ farm]
          exact le_rfl
        · have nothing : earned liqPool (Deposit.new amount valuedShares
              liqPool.accumulatedRpvs (s.period globalPool)) = 0 :=
            Share.entitlement_of_current rfl
          rw [collectable_of_current (by rw [steady.accumulatedRpz]; exact checkpoint)]
          exact nothing.le.trans (Nat.zero_le _)
      · refine (since _ _ recorded own).aside terms steady rfl ?_
        rw [collectable_of_current (by exact checkpoint), Nat.add_zero]
        exact Nat.le_add_right _ _
  | @pay paidId _ _ _ _ paidDeposit mine stored loyal priced moved steady deposits =>
      rw [deposits, AList.lookup_insert_eq_ite] at recorded
      split_ifs at recorded
      · obtain rfl := Option.some.inj recorded
        exact (since _ _ stored mine).aside terms steady rfl le_rfl
      · exact (since _ _ recorded own).aside terms steady rfl le_rfl
  | leave mine stored released leftover refund kept steady deposits =>
      rw [deposits, AList.lookup_erase_eq_ite] at recorded
      split_ifs at recorded
      refine (since _ _ recorded own).aside terms steady rfl (Nat.add_le_add_left ?_ _)
      exact Nat.mul_le_mul_left _ (Nat.sub_le _ _)

/-- No deposit of any pool earns for periods before it entered. -/
structure EntryBounded (cfg : Config) (s : State) : Prop extends Kept cfg s where
  since : ∀ slot globalPool liqPool, s.globalPoolData.lookup slot.1 = some globalPool →
    s.liquidityPoolData.lookup slot = some liqPool →
    PoolEarnsSinceEntry globalPool liqPool s.depositData

theorem EntryBounded.move (lawful : cfg.math.Lawful) (bounded : EntryBounded cfg s)
    (move : Move cfg s kind t) (obeyed : MoveObeys cfg entryRules s kind) :
    EntryBounded cfg t := by
  refine ⟨bounded.toKept.move lawful move (obeyed _ (by decide)), ?_⟩
  intro slot globalPool' liqPool' farm pool
  obtain added | ⟨globalPool, liqPool, stored, before, terms, change⟩ :=
    changed_of_move bounded.consistent (bounded.own.at _) move farm pool
  · intro nftId deposit recorded own
    exact absurd own (added.no_deposits bounded.consistent recorded)
  · exact (bounded.since _ _ _ stored before).change lawful bounded.consistent
      (bounded.tallied _ _ before) stored before terms change obeyed

theorem entryBounded_of_moves (lawful : cfg.math.Lawful)
    (reachable : ReachableUnder (Initial cfg) (Move cfg) (MoveObeys cfg entryRules) s) :
    EntryBounded cfg s := by
  refine ReachableUnder.invariant (EntryBounded cfg) ?_ ?_ reachable
  · intro s initial
    refine ⟨initial.kept, ?_⟩
    intro slot globalPool liqPool farm
    rw [initial.globalPoolData] at farm
    exact absurd farm nofun
  · intro s kind t bounded obeyed move
    exact bounded.move lawful move obeyed

end Entry

section Continuity

variable {cfg : Config} {s t u : State} {kind : MoveKind} {nftId : ℕ}

/-- Where a farm comes from: it was there on the same terms, or it was just created. -/
theorem farm_origin (move : Move cfg s kind t) {farmId : ℕ} {globalPool' : GlobalPool}
    (farm : t.globalPoolData.lookup farmId = some globalPool') :
    (∃ globalPool, s.globalPoolData.lookup farmId = some globalPool ∧
      SameTerms globalPool globalPool') ∨ farmId = s.poolIdSequencer + 1 := by
  have kept : s.globalPoolData.lookup farmId = some globalPool' →
      ∃ globalPool, s.globalPoolData.lookup farmId = some globalPool ∧
        SameTerms globalPool globalPool' :=
    fun stored => ⟨globalPool', stored, .refl _⟩
  have rewritten : ∀ {place : ℕ} {old new : GlobalPool},
      (s.globalPoolData.insert place new).lookup farmId = some globalPool' →
      s.globalPoolData.lookup place = some old → SameTerms old new →
      ∃ globalPool, s.globalPoolData.lookup farmId = some globalPool ∧
        SameTerms globalPool globalPool' := by
    intro place old new found stored terms
    rw [AList.lookup_insert_eq_ite] at found
    split_ifs at found with same
    · obtain rfl := Option.some.inj found
      exact ⟨old, same ▸ stored, terms⟩
    · exact kept found
  cases move with
  | accrue stored => exact .inl (rewritten farm stored ⟨rfl, rfl, rfl, rfl⟩)
  | collect stored => exact .inl (rewritten farm stored ⟨rfl, rfl, rfl, rfl⟩)
  | forfeit stored => exact .inl (rewritten farm stored ⟨rfl, rfl, rfl, rfl⟩)
  | update stored => exact .inl (rewritten farm stored ⟨rfl, rfl, rfl, rfl⟩)
  | cancel stored => exact .inl (rewritten farm stored ⟨rfl, rfl, rfl, rfl⟩)
  | resume stored => exact .inl (rewritten farm stored ⟨rfl, rfl, rfl, rfl⟩)
  | enter stored => exact .inl (rewritten farm stored ⟨rfl, rfl, rfl, rfl⟩)
  | pay reports known recorded stored =>
      exact .inl (rewritten farm stored ⟨rfl, rfl, rfl, rfl⟩)
  | leave reports known recorded stored =>
      exact .inl (rewritten farm stored ⟨rfl, rfl, rfl, rfl⟩)
  | addPool multiplier stored => exact .inl (rewritten farm stored ⟨rfl, rfl, rfl, rfl⟩)
  | removePool who assetPair stored =>
      exact .inl (rewritten farm stored ⟨rfl, rfl, rfl, rfl⟩)
  | createFarm =>
      change (s.globalPoolData.insert _ _).lookup _ = _ at farm
      rw [AList.lookup_insert_eq_ite] at farm
      split_ifs at farm with new
      · exact .inr new
      · exact .inl (kept farm)
  | destroyFarm =>
      change (s.globalPoolData.erase _).lookup _ = _ at farm
      rw [AList.lookup_erase_eq_ite] at farm
      split_ifs at farm
      exact .inl (kept farm)
  | _ => exact .inl (kept farm)

/-- Where a deposit comes from: it was there and was perhaps paid since, or it has the
next number. -/
theorem deposit_origin (move : Move cfg s kind t)
    (consistent : Consistent cfg s.blockNumber s.toStorage) {deposit' : Deposit}
    (recorded : t.depositData.lookup nftId = some deposit') :
    (∃ deposit, s.depositData.lookup nftId = some deposit ∧
      deposit'.enteredAt = deposit.enteredAt ∧
      deposit.accumulatedClaimedRewards ≤ deposit'.accumulatedClaimedRewards) ∨
    nftId / 2 ^ 32 = s.nftInstanceSequencer + 1 := by
  have kept : s.depositData.lookup nftId = some deposit' →
      ∃ deposit, s.depositData.lookup nftId = some deposit ∧
        deposit'.enteredAt = deposit.enteredAt ∧
        deposit.accumulatedClaimedRewards ≤ deposit'.accumulatedClaimedRewards :=
    fun stored => ⟨deposit', stored, rfl, le_rfl⟩
  cases move with
  | enter farm pool active account nonzero valued weighed locked numbered sequenced minted
      known =>
      change (s.depositData.insert _ _).lookup _ = _ at recorded
      rw [AList.lookup_insert_eq_ite] at recorded
      split_ifs at recorded with new
      · rw [new]
        exact .inr (encodeNftId_div (consistent.liqPoolId_lt known) sequenced)
      · exact .inl (kept recorded)
  | @pay _ _ _ _ _ _ _ _ deposit _ reports known stored =>
      change (s.depositData.insert _ _).lookup _ = _ at recorded
      rw [AList.lookup_insert_eq_ite] at recorded
      split_ifs at recorded with same
      · obtain rfl := Option.some.inj recorded
        exact .inl ⟨deposit, same ▸ stored, rfl, Nat.le_add_right _ _⟩
      · exact .inl (kept recorded)
  | leave =>
      change (s.depositData.erase _).lookup _ = _ at recorded
      rw [AList.lookup_erase_eq_ite] at recorded
      split_ifs at recorded
      exact .inl (kept recorded)
  | depart =>
      change (s.depositData.erase _).lookup _ = _ at recorded
      rw [AList.lookup_erase_eq_ite] at recorded
      split_ifs at recorded
      exact .inl (kept recorded)
  | _ => exact .inl (kept recorded)

/-- A deposit that was numbered before `s` and is still recorded in `t` was recorded
in `s`, in a farm on the same terms, and was perhaps paid since. -/
structure Continues (nftId : ℕ) (s t : State) : Prop where
  block : s.blockNumber ≤ t.blockNumber
  sequencer : s.nftInstanceSequencer ≤ t.nftInstanceSequencer
  deposit : nftId / 2 ^ 32 ≤ s.nftInstanceSequencer →
    ∀ deposit', t.depositData.lookup nftId = some deposit' →
    ∃ deposit, s.depositData.lookup nftId = some deposit ∧
      deposit'.enteredAt = deposit.enteredAt ∧
      deposit.accumulatedClaimedRewards ≤ deposit'.accumulatedClaimedRewards
  farm : nftId / 2 ^ 32 ≤ s.nftInstanceSequencer →
    ∀ deposit' metadata' globalPool', t.depositData.lookup nftId = some deposit' →
    t.liquidityPoolMetadata.lookup (poolIdOf nftId) = some metadata' →
    t.globalPoolData.lookup metadata'.farmId = some globalPool' →
    ∃ metadata globalPool, s.liquidityPoolMetadata.lookup (poolIdOf nftId) = some metadata ∧
      s.globalPoolData.lookup metadata.farmId = some globalPool ∧
      SameTerms globalPool globalPool'

theorem SameTerms.trans {first second third : GlobalPool} (terms : SameTerms first second)
    (terms' : SameTerms second third) : SameTerms first third :=
  ⟨terms'.id.trans terms.id, terms'.rewardCurrency.trans terms.rewardCurrency,
    terms'.blocksPerPeriod.trans terms.blocksPerPeriod,
    terms'.maxRewardPerPeriod.trans terms.maxRewardPerPeriod⟩

theorem Continues.refl (nftId : ℕ) (s : State) : Continues nftId s s where
  block := le_rfl
  sequencer := le_rfl
  deposit _ deposit recorded := ⟨deposit, recorded, rfl, le_rfl⟩
  farm _ _ metadata globalPool _ known farm := ⟨metadata, globalPool, known, farm, .refl _⟩

theorem Continues.trans (first : Continues nftId s t) (second : Continues nftId t u) :
    Continues nftId s u where
  block := first.block.trans second.block
  sequencer := first.sequencer.trans second.sequencer
  deposit numbered deposit'' recorded := by
    obtain ⟨deposit', between, entered', grown'⟩ :=
      second.deposit (numbered.trans first.sequencer) deposit'' recorded
    obtain ⟨deposit, before, entered, grown⟩ := first.deposit numbered deposit' between
    exact ⟨deposit, before, entered'.trans entered, grown.trans grown'⟩
  farm numbered deposit'' metadata'' globalPool'' recorded known farm := by
    obtain ⟨deposit', between, -⟩ :=
      second.deposit (numbered.trans first.sequencer) deposit'' recorded
    obtain ⟨metadata', globalPool', known', farm', terms'⟩ := second.farm
      (numbered.trans first.sequencer) deposit'' metadata'' globalPool'' recorded known farm
    obtain ⟨metadata, globalPool, known, farm, terms⟩ :=
      first.farm numbered deposit' metadata' globalPool' between known' farm'
    exact ⟨metadata, globalPool, known, farm, terms.trans terms'⟩

theorem Move.block_le (move : Move cfg s kind t) : s.blockNumber ≤ t.blockNumber := by
  cases move with
  | external follows => exact follows.block
  | _ => exact le_rfl

theorem Move.sequencer_le (move : Move cfg s kind t) :
    s.nftInstanceSequencer ≤ t.nftInstanceSequencer := by
  cases move with
  | enter => exact Nat.le_succ _
  | _ => exact le_rfl

theorem continues_of_move (consistent : Consistent cfg s.blockNumber s.toStorage)
    (move : Move cfg s kind t) (nftId : ℕ) : Continues nftId s t := by
  have origin : nftId / 2 ^ 32 ≤ s.nftInstanceSequencer →
      ∀ deposit', t.depositData.lookup nftId = some deposit' →
      ∃ deposit, s.depositData.lookup nftId = some deposit ∧
        deposit'.enteredAt = deposit.enteredAt ∧
        deposit.accumulatedClaimedRewards ≤ deposit'.accumulatedClaimedRewards := by
    intro numbered deposit' recorded
    obtain before | new := deposit_origin move consistent recorded
    · exact before
    · omega
  refine ⟨move.block_le, move.sequencer_le, origin, ?_⟩
  intro numbered deposit' metadata' globalPool' recorded known farm
  obtain ⟨deposit, before, -⟩ := origin numbered deposit' recorded
  obtain ⟨metadata, stored, -, sameFarm⟩ | ⟨_, _, -, new, -⟩ := metadata_origin move known
  · rw [sameFarm] at farm
    obtain ⟨globalPool, found, terms⟩ | created := farm_origin move farm
    · exact ⟨metadata, globalPool, stored, found, terms⟩
    · have numbered := (consistent.metadata _ _ stored).farmNumbered
      omega
  · have numbered := consistent.poolIdOf_le before
    omega

theorem continues_of_step {label : Label}
    (consistent : Consistent cfg s.blockNumber s.toStorage) (taken : Step cfg s label t)
    (nftId : ℕ) : Continues nftId s t := by
  have path := path_of_step consistent taken
  clear taken
  suffices Consistent cfg t.blockNumber t.toStorage ∧ Continues nftId s t from this.2
  induction path with
  | refl => exact ⟨consistent, .refl nftId s⟩
  | tail _ moved ih =>
      obtain ⟨kind, -, move⟩ := moved
      exact ⟨ih.1.move move, ih.2.trans (continues_of_move ih.1 move nftId)⟩

end Continuity

/-- The currency in which a deposit is rewarded. -/
def State.rewardCurrencyOf (s : State) (nftId : ℕ) : Option AssetId :=
  (s.liquidityPoolMetadata.lookup (poolIdOf nftId)).bind fun metadata =>
    (s.globalPoolData.lookup metadata.farmId).map GlobalPool.rewardCurrency

/-- What a withdrawal hands back of the LP shares in a currency. -/
def State.returnedIn (s : State) (nftId : ℕ) (currency : AssetId) : ℕ :=
  match s.liquidityPoolMetadata.lookup (poolIdOf nftId), s.depositData.lookup nftId with
  | some metadata, some deposit =>
      if s.amm.poolExists metadata.assetPair = true ∧
        currency = s.amm.getShareToken metadata.assetPair then deposit.shares else 0
  | _, _ => 0

/-- What a call that settles the deposit adds to the balance of its caller in the reward
currency, beyond the shares it hands back. -/
def Label.rewards (nftId : ℕ) (s t : State) (label : Label) : ℕ :=
  match s.rewardCurrencyOf nftId, label with
  | some currency, .call (.claimRewards key settled) =>
      if settled = nftId then
        t.ledger.free (.signer key) currency - s.ledger.free (.signer key) currency
      else 0
  | some currency, .call (.withdrawShares key settled) =>
      if settled = nftId then
        t.ledger.free (.signer key) currency -
          (s.ledger.free (.signer key) currency + s.returnedIn nftId currency)
      else 0
  | _, _ => 0

section Payments

variable {cfg : Config} {s s' t : State} {nftId key : ℕ} {who : AccountId} {label : Label}
variable {globalPool globalPool' : GlobalPool} {liqPool liqPool' : LiquidityPoolYieldFarm}

/-- Bringing the pools up to date reports no claims. -/
theorem maybeUpdatePools_claimedIn {now : ℕ}
    (called : maybeUpdatePools cfg s globalPool liqPool now = .ok (s', globalPool', liqPool')) :
    claimedIn s'.events = claimedIn s.events := by
  obtain ⟨ledger, reports, quiet, rfl⟩ := (updated_of_maybeUpdatePools called).shape
  rw [claimedIn_append, quiet, Nat.add_zero]

theorem signer_ne_subAccount (key poolId : ℕ) :
    AccountId.signer key ≠ .palletSubAccount poolId := nofun

/-- Bringing the pools up to date moves no funds of signers. -/
theorem maybeUpdatePools_signer {now : ℕ} (key : ℕ) (currency : AssetId)
    (called : maybeUpdatePools cfg s globalPool liqPool now = .ok (s', globalPool', liqPool')) :
    s'.ledger.free (.signer key) currency = s.ledger.free (.signer key) currency := by
  cases broughtUp_of_maybeUpdatePools called with
  | idle => rfl
  | unvalued _ refreshed =>
      obtain ⟨⟨reports, -, rfl⟩, -⟩ := refreshGlobalPool_frame refreshed
      rfl
  | paid _ refreshed _ _ _ _ _ moved =>
      obtain ⟨⟨reports, -, rfl⟩, -⟩ := refreshGlobalPool_frame refreshed
      exact Ledger.free_transfer_of_ne moved (signer_ne_subAccount _ _)
        (signer_ne_subAccount _ _) currency

/-- What claiming and withdrawing pay for a deposit, and report: the reward of a settled
deposit, or nothing if its pool is gone. -/
inductive Pays (cfg : Config) (s : State) (key nftId : ℕ) (label : Label) (t : State) : Prop
  | settled {metadata : Metadata} {globalPool globalPool' : GlobalPool}
      {liqPool liqPool' : LiquidityPoolYieldFarm} {deposit deposit' : Deposit}
      {s' s'' : State} {reward unclaimable : ℕ}
      (known : s.liquidityPoolMetadata.lookup (poolIdOf nftId) = some metadata)
      (recorded : s.depositData.lookup nftId = some deposit)
      (farm : s.globalPoolData.lookup metadata.farmId = some globalPool)
      (pool : s.liquidityPoolData.lookup (metadata.slot cfg) = some liqPool)
      (updated : maybeUpdatePools cfg s globalPool liqPool (s.period globalPool) =
        .ok (s', globalPool', liqPool'))
      (claimed : doClaimRewards cfg s' (.signer key) deposit liqPool' (s.period globalPool)
        globalPool'.rewardCurrency = .ok (s'', deposit', reward, unclaimable))
      (paid : label.rewards nftId s t = reward)
      (reported : claimedIn t.events = claimedIn s.events + reward)
      (after : ∀ found, t.depositData.lookup nftId = some found → found = deposit')
  | unsettled (paid : label.rewards nftId s t = 0)
      (reported : claimedIn t.events = claimedIn s.events)

theorem doClaimRewards_events {deposit deposit' : Deposit} {now reward unclaimable : ℕ}
    {currency : AssetId}
    (called : doClaimRewards cfg s who deposit liqPool now currency =
      .ok (s', deposit', reward, unclaimable)) : s'.events = s.events := by
  obtain ⟨-, ⟨-, rfl, -⟩ | ⟨_, _, -, -, -, -, rfl, -⟩⟩ := doClaimRewards_ok called
  · rfl
  · rfl

/-- What a settled deposit is paid arrives with the caller. -/
theorem free_of_settled {deposit deposit' : Deposit} {now reward unclaimable : ℕ} {s'' : State}
    (updated : maybeUpdatePools cfg s globalPool liqPool now = .ok (s', globalPool', liqPool'))
    (claimed : doClaimRewards cfg s' (.signer key) deposit liqPool' now
      globalPool'.rewardCurrency = .ok (s'', deposit', reward, unclaimable)) :
    s''.ledger.free (.signer key) globalPool.rewardCurrency =
      s.ledger.free (.signer key) globalPool.rewardCurrency + reward := by
  rw [← maybeUpdatePools_signer key globalPool.rewardCurrency updated]
  obtain ⟨_, _, _, _, rfl⟩ := (updated_of_maybeUpdatePools updated).farmKept
  obtain ⟨-, ⟨-, rfl, -, rfl, -⟩ | ⟨_, ledger, -, -, -, moved, rfl, -⟩⟩ :=
    doClaimRewards_ok claimed
  · rfl
  · exact Ledger.free_transfer_receiver moved nofun

theorem rewardCurrencyOf_eq {metadata : Metadata}
    (known : s.liquidityPoolMetadata.lookup (poolIdOf nftId) = some metadata)
    (farm : s.globalPoolData.lookup metadata.farmId = some globalPool) :
    s.rewardCurrencyOf nftId = some globalPool.rewardCurrency := by
  simp only [State.rewardCurrencyOf, known, Option.bind_some, farm, Option.map_some]

theorem claimRewards_pays (called : claimRewards cfg s (.signer key) nftId = .ok t) :
    Pays cfg s key nftId (.call (.claimRewards key nftId)) t := by
  obtain ⟨metadata, deposit, globalPool, liqPool, s', globalPool', liqPool', s'', deposit',
    reward, unclaimable, done, rfl⟩ := claimRewards_eq_ok.mp called
  refine .settled done.known done.recorded done.farm done.pool done.updated done.claimed ?_ ?_ ?_
  · simp only [Label.rewards, rewardCurrencyOf_eq done.known done.farm, if_true]
    have gained := free_of_settled done.updated done.claimed
    dsimp only [State.put, State.setGlobalPool, State.setLiqPool]
    omega
  · rw [← maybeUpdatePools_claimedIn done.updated, ← doClaimRewards_events done.claimed]
    exact claimedIn_append _ _
  · intro found stored
    exact (Option.some.inj ((AList.lookup_insert _).symm.trans stored)).symm

theorem amm_of_settleWithdrawal {slot : Slot} {deposit : Deposit}
    (settled : settleWithdrawal cfg s who slot deposit = .ok t) : t.amm = s.amm := by
  rcases settleWithdrawal_ok settled with ⟨-, rfl⟩ | ⟨_, -, withdrawn⟩
  · rfl
  · obtain ⟨_, _, _, _, _, _, _, _, _, _, left, rfl⟩ := withdrawFromLiqPool_ok withdrawn
    obtain ⟨⟨_, _, -, rfl⟩, -, -, -⟩ := updated_of_maybeUpdatePools left.updated
    obtain ⟨-, ⟨-, rfl, -⟩ | ⟨_, _, -, -, -, -, rfl, -⟩⟩ := doClaimRewards_ok left.claimed
    · rfl
    · rfl

/-- The shares handed back arrive with the caller. -/
theorem free_of_returned {metadata : Metadata} {deposit : Deposit} {before after : Currencies}
    (known : s.liquidityPoolMetadata.lookup (poolIdOf nftId) = some metadata)
    (recorded : s.depositData.lookup nftId = some deposit) (amm : t.amm = s.amm)
    (returned : Returned t metadata.assetPair (.signer key) deposit.shares before after)
    (currency : AssetId) :
    after.free (.signer key) currency =
      before.free (.signer key) currency + s.returnedIn nftId currency := by
  simp only [State.returnedIn, known, recorded]
  cases returned with
  | listed present moved =>
      rw [amm] at present moved
      have notSender : AccountId.signer key ≠ accountId := nofun
      rw [Ledger.free_transfer_of_ne_sender moved notSender]
      simp only [present, true_and]
  | unlisted absent same =>
      rw [amm] at absent
      subst same
      simp only [absent, Bool.false_eq_true, false_and, if_false, Nat.add_zero]

theorem withdrawShares_pays (called : withdrawShares cfg s (.signer key) nftId = .ok t) :
    Pays cfg s key nftId (.call (.withdrawShares key nftId)) t := by
  obtain ⟨metadata, deposit, u, v, nft, done, rfl⟩ := withdrawShares_ok called
  have amm := amm_of_settleWithdrawal done.settled
  obtain ⟨ledger, reports, returned, quiet, rfl⟩ := returnLpShares_ok done.handed
  have arrived := free_of_returned done.known done.recorded amm returned
  have silent : claimedIn (u.events ++ reports) = claimedIn u.events := by
    rw [claimedIn_append, quiet, Nat.add_zero]
  obtain ⟨-, rfl⟩ | ⟨liqPool, pool, settled⟩ := settleWithdrawal_ok done.settled
  · refine .unsettled ?_ silent
    cases currency : u.rewardCurrencyOf nftId with
    | none => simp only [Label.rewards, currency]
    | some found =>
        simp only [Label.rewards, currency, if_true]
        exact Nat.sub_eq_zero_of_le (arrived found).le
  · obtain ⟨globalPool, s', globalPool', liqPool', s'', deposit', reward, _, _, refunded, left,
      rfl⟩ := withdrawFromLiqPool_ok settled
    refine .settled done.known done.recorded left.farm pool left.updated left.claimed ?_ ?_ ?_
    · have gained := free_of_settled left.updated left.claimed
      rw [← Ledger.free_transfer_of_ne left.refund (signer_ne_subAccount _ _)
        (signer_ne_subAccount _ _)] at gained
      simp only [Label.rewards, rewardCurrencyOf_eq done.known left.farm, if_true]
      have total := arrived globalPool.rewardCurrency
      dsimp only [State.put, State.setGlobalPool, State.setLiqPool] at total gained ⊢
      omega
    · rw [← maybeUpdatePools_claimedIn left.updated, ← doClaimRewards_events left.claimed]
      refine silent.trans ((claimedIn_append _ _).trans ?_)
      rw [claimedIn_claimReports]
    · intro found stored
      rw [AList.lookup_erase] at stored
      cases stored

/-- What is reported as paid is paid. -/
theorem Pays.reported_eq (pays : Pays cfg s key nftId label t) :
    claimedIn t.events - claimedIn s.events = label.rewards nftId s t := by
  cases pays with
  | settled _ _ _ _ _ _ paid reported => rw [paid, reported, Nat.add_sub_cancel_left]
  | unsettled paid reported => rw [paid, reported, Nat.sub_self]

/-- The loyalty multiplier never exceeds one. -/
theorem getLoyaltyMultiplier_le_one (lawful : cfg.math.Lawful) {periods loyalty : ℕ}
    {curve : Option LoyaltyCurve}
    (computed : getLoyaltyMultiplier cfg periods curve = .ok loyalty) :
    loyalty ≤ FixedU128.one := by
  unfold getLoyaltyMultiplier at computed
  split at computed
  · exact (Except.ok.inj computed).ge
  · split_ifs at computed
    · exact (Except.ok.inj computed).ge
    · exact lawful.loyaltyMultiplier (okOr_eq_ok.mp computed)

/-- A settled deposit is paid nothing, or no more than the periods since it entered
allow. -/
theorem settled_within (lawful : cfg.math.Lawful)
    (reachable : ReachableUnder (Initial cfg) (Move cfg) (MoveObeys cfg entryRules) s)
    {metadata : Metadata} {deposit deposit' : Deposit} {s'' : State}
    {reward unclaimable : ℕ}
    (known : s.liquidityPoolMetadata.lookup (poolIdOf nftId) = some metadata)
    (recorded : s.depositData.lookup nftId = some deposit)
    (farm : s.globalPoolData.lookup metadata.farmId = some globalPool)
    (pool : s.liquidityPoolData.lookup (metadata.slot cfg) = some liqPool)
    (updated : maybeUpdatePools cfg s globalPool liqPool (s.period globalPool) =
      .ok (s', globalPool', liqPool'))
    (claimed : doClaimRewards cfg s' who deposit liqPool' (s.period globalPool)
      globalPool'.rewardCurrency = .ok (s'', deposit', reward, unclaimable)) :
    deposit'.accumulatedClaimedRewards = deposit.accumulatedClaimedRewards + reward ∧
      (reward = 0 ∨ deposit.accumulatedClaimedRewards + reward ≤
        (s.period globalPool - deposit.enteredAt) * globalPool.maxRewardPerPeriod) := by
  obtain ⟨entered, ⟨-, -, rfl, rfl, -⟩ |
    ⟨loyalty, ledger, unpaid, loyal, priced, -, -, rfl⟩⟩ := doClaimRewards_ok claimed
  · exact ⟨rfl, .inl rfl⟩
  refine ⟨rfl, .inr ?_⟩
  obtain ⟨farms, pools, settled⟩ := settled_of_maybeUpdatePools
    (.call (.claimRewards 0 nftId)) (metadata.slot cfg) farm pool
    (funded_of_claimRewards known) updated
  have obeyed : Obeys cfg entryRules s (.call (.claimRewards 0 nftId)) := by
    intro rule member
    simp only [entryRules, List.mem_cons, List.not_mem_nil, or_false] at member
    rcases member with rfl | rfl | rfl <;> trivial
  have bounded := entryBounded_of_moves lawful
    (reachable.steps (settled.path.obeys obeyed))
  obtain ⟨events, funds, rfl⟩ := settled.shape
  have own : liqPool'.id = poolIdOf nftId := bounded.own _ _ _ known settled.pool
  have since := bounded.since _ _ _ settled.farm settled.pool nftId deposit recorded own.symm
  have current := (bounded.consistent.farms _ _ settled.farm).updated
  obtain ⟨_, _, _, _, kept⟩ := settled.farmKept
  have periods : globalPool'.blocksPerPeriod = globalPool.blocksPerPeriod := by rw [kept]
  have most : globalPool'.maxRewardPerPeriod = globalPool.maxRewardPerPeriod := by rw [kept]
  rw [periods] at current
  obtain ⟨-, total, -⟩ := lawful.userReward priced
  have part : FixedU128.mulInt loyalty
      ((liqPool'.accumulatedRpvs - deposit.accumulatedRpvs) * deposit.valuedShares) ≤
        earned liqPool' deposit :=
    FixedU128.mulInt_le_of_le_one (getLoyaltyMultiplier_le_one lawful loyal) _
  calc deposit.accumulatedClaimedRewards + reward
      ≤ earned liqPool' deposit := total.le.trans part
    _ ≤ (globalPool'.updatedAt - deposit.enteredAt) * globalPool'.maxRewardPerPeriod :=
        (Nat.le_add_right _ _).trans since.bounded
    _ ≤ (s.period globalPool - deposit.enteredAt) * globalPool.maxRewardPerPeriod := by
        rw [most]
        exact Nat.mul_le_mul_right _ (Nat.sub_le_sub_right current _)

end Payments

/-- The calls that settle a deposit. -/
def Label.Settles (nftId : ℕ) : Label → Prop
  | .call (.claimRewards _ settled) => settled = nftId
  | .call (.withdrawShares _ settled) => settled = nftId
  | _ => False

instance (nftId : ℕ) (label : Label) : Decidable (label.Settles nftId) := by
  unfold Label.Settles
  split <;> infer_instance

/-- All that the calls of a run that settle a deposit paid to their callers. -/
def paidTo (nftId : ℕ) : List (State × Label) → State → ℕ
  | [], _ => 0
  | (s, label) :: past, t => label.rewards nftId s t + paidTo nftId past s

/-- All rewards reported for a deposit by the calls of a run that settle it. -/
def reportedTo (nftId : ℕ) : List (State × Label) → State → ℕ
  | [], _ => 0
  | (s, label) :: past, t =>
      (if label.Settles nftId then claimedIn t.events - claimedIn s.events else 0) +
        reportedTo nftId past s

section Trace

variable {cfg : Config} {s t u : State} {nftId entered blocksPerPeriod most : ℕ}
variable {past : List (State × Label)} {label : Label}

/-- The account of a deposit made in period `entered`, along a run. -/
structure PaidWithin (cfg : Config) (nftId entered blocksPerPeriod most : ℕ)
    (past : List (State × Label)) (s : State) : Prop where
  reachable : ReachableUnder (Initial cfg) (Step cfg) (Obeys cfg entryRules) s
  numbered : nftId / 2 ^ 32 ≤ s.nftInstanceSequencer
  bounded : paidTo nftId past s ≤ (s.blockNumber / blocksPerPeriod - entered) * most
  recorded : ∀ deposit, s.depositData.lookup nftId = some deposit →
    deposit.enteredAt = entered ∧ paidTo nftId past s ≤ deposit.accumulatedClaimedRewards
  terms : ∀ deposit metadata globalPool, s.depositData.lookup nftId = some deposit →
    s.liquidityPoolMetadata.lookup (poolIdOf nftId) = some metadata →
    s.globalPoolData.lookup metadata.farmId = some globalPool →
    globalPool.blocksPerPeriod = blocksPerPeriod ∧ globalPool.maxRewardPerPeriod = most

/-- A call that settles the deposit pays it within its bound. -/
theorem PaidWithin.settle (lawful : cfg.math.Lawful)
    (within : PaidWithin cfg nftId entered blocksPerPeriod most past s)
    (continues : Continues nftId s t) {key : ℕ} (pays : Pays cfg s key nftId label t) :
    label.rewards nftId s t + paidTo nftId past s ≤
        (t.blockNumber / blocksPerPeriod - entered) * most ∧
      ∀ deposit', t.depositData.lookup nftId = some deposit' →
        label.rewards nftId s t + paidTo nftId past s ≤
          deposit'.accumulatedClaimedRewards := by
  have longer : (s.blockNumber / blocksPerPeriod - entered) * most ≤
      (t.blockNumber / blocksPerPeriod - entered) * most :=
    Nat.mul_le_mul_right _
      (Nat.sub_le_sub_right (Nat.div_le_div_right continues.block) _)
  cases pays with
  | unsettled paid =>
      rw [paid, Nat.zero_add]
      refine ⟨within.bounded.trans longer, ?_⟩
      intro deposit' recorded
      obtain ⟨deposit, before, -, grown⟩ :=
        continues.deposit within.numbered deposit' recorded
      exact (within.recorded deposit before).2.trans grown
  | settled known recorded farm pool updated claimed paid _ after =>
      obtain ⟨total, small⟩ := settled_within lawful (reachable_moves within.reachable) known
        recorded farm pool updated claimed
      obtain ⟨since, already⟩ := within.recorded _ recorded
      obtain ⟨periods, max⟩ := within.terms _ _ _ recorded known farm
      rw [paid]
      constructor
      · obtain rfl | small := small
        · rw [Nat.zero_add]
          exact within.bounded.trans longer
        · rw [since, max, State.period, periods] at small
          refine le_trans ?_ longer
          omega
      · intro deposit' stored
        rw [after deposit' stored, total]
        omega

/-- A step settles the deposit and pays for it, or does neither. -/
theorem pays_of_step (taken : Step cfg s label t) (nftId : ℕ) :
    (label.Settles nftId ∧ ∃ key, Pays cfg s key nftId label t) ∨
      (¬ label.Settles nftId ∧ label.rewards nftId s t = 0) := by
  by_cases settles : label.Settles nftId
  · refine .inl ⟨settles, ?_⟩
    unfold Label.Settles at settles
    split at settles
    · subst settles
      exact ⟨_, claimRewards_pays taken⟩
    · subst settles
      exact ⟨_, withdrawShares_pays taken⟩
    · exact settles.elim
  · refine .inr ⟨settles, ?_⟩
    unfold Label.rewards
    split
    · exact if_neg settles
    · exact if_neg settles
    · rfl

/-- What the steps of a run report for a deposit is what they pay. -/
theorem reportedTo_eq_paidTo {start : State → Prop} (run : Run start (Step cfg) past s)
    (nftId : ℕ) : reportedTo nftId past s = paidTo nftId past s := by
  induction run with
  | start => rfl
  | extend _ taken ih =>
      unfold reportedTo paidTo
      rw [ih]
      obtain ⟨settles, key, pays⟩ | ⟨apart, nothing⟩ := pays_of_step taken nftId
      · rw [if_pos settles, pays.reported_eq]
      · rw [if_neg apart, nothing]

/-- The account along one more step. -/
theorem PaidWithin.step (lawful : cfg.math.Lawful)
    (within : PaidWithin cfg nftId entered blocksPerPeriod most past s)
    (obeyed : Obeys cfg entryRules s label) (taken : Step cfg s label t) :
    PaidWithin cfg nftId entered blocksPerPeriod most ((s, label) :: past) t := by
  have consistent := consistent_of_moves (reachable_moves within.reachable)
  have continues := continues_of_step consistent taken nftId
  have bounds : paidTo nftId ((s, label) :: past) t ≤
        (t.blockNumber / blocksPerPeriod - entered) * most ∧
      ∀ deposit', t.depositData.lookup nftId = some deposit' →
        paidTo nftId ((s, label) :: past) t ≤ deposit'.accumulatedClaimedRewards := by
    unfold paidTo
    obtain ⟨-, key, pays⟩ | ⟨-, nothing⟩ := pays_of_step taken nftId
    · exact within.settle lawful continues pays
    · rw [nothing, Nat.zero_add]
      constructor
      · refine within.bounded.trans (Nat.mul_le_mul_right _ ?_)
        exact Nat.sub_le_sub_right (Nat.div_le_div_right continues.block) _
      · intro deposit' recorded
        obtain ⟨deposit, before, -, grown⟩ :=
          continues.deposit within.numbered deposit' recorded
        exact (within.recorded deposit before).2.trans grown
  obtain ⟨earlier, run, guarded⟩ := within.reachable
  refine ⟨⟨_, run.extend taken, guarded_cons.mpr ⟨obeyed, guarded⟩⟩,
    within.numbered.trans continues.sequencer, bounds.1, ?_, ?_⟩
  · intro deposit' recorded
    obtain ⟨deposit, before, since, -⟩ :=
      continues.deposit within.numbered deposit' recorded
    exact ⟨since.trans (within.recorded deposit before).1, bounds.2 deposit' recorded⟩
  · intro deposit' metadata' globalPool' recorded known farm
    obtain ⟨deposit, before, -⟩ := continues.deposit within.numbered deposit' recorded
    obtain ⟨metadata, globalPool, known, farm, same⟩ :=
      continues.farm within.numbered deposit' metadata' globalPool' recorded known farm
    obtain ⟨periods, max⟩ := within.terms deposit metadata globalPool before known farm
    exact ⟨same.blocksPerPeriod.trans periods, same.maxRewardPerPeriod.trans max⟩

/-- The account of a new deposit. -/
theorem paidWithin_of_depositShares {key farmId amount : ℕ} {assetPair : AssetPair}
    {globalPool : GlobalPool}
    (reachable : ReachableUnder (Initial cfg) (Step cfg) (Obeys cfg entryRules) s)
    (obeyed : Obeys cfg entryRules s (.call (.depositShares key farmId assetPair amount)))
    (deposited : depositShares cfg s (.signer key) farmId assetPair amount = .ok t)
    (farm : s.globalPoolData.lookup farmId = some globalPool)
    (fresh : s.depositData.lookup nftId = none)
    (created : (t.depositData.lookup nftId).isSome = true) :
    PaidWithin cfg nftId (s.period globalPool) globalPool.blocksPerPeriod
      globalPool.maxRewardPerPeriod [] t := by
  have consistent := consistent_of_moves (reachable_moves reachable)
  have stepped : ReachableUnder (Initial cfg) (Step cfg) (Obeys cfg entryRules) t := by
    obtain ⟨past, run, guarded⟩ := reachable
    exact ⟨_, run.extend (by exact deposited), guarded_cons.mpr ⟨obeyed, guarded⟩⟩
  obtain ⟨_, liqPool, s', globalPool', liqPool', stake, ledger, nft, metadata,
    ⟨⟨stored, pool, updated⟩, -, -, -, -, -, -, sequenced, -, known⟩, rfl⟩ :=
    depositShares_ok deposited
  obtain rfl := Option.some.inj (farm.symm.trans stored)
  obtain ⟨farms, pools, settled⟩ := settled_of_maybeUpdatePools
    (.call (.depositShares key farmId assetPair amount)) (farmId, cfg.getPairId assetPair)
    farm pool (fun allowed due => allowed farmId ⟨_, rfl, rfl, due⟩) updated
  obtain ⟨events, funds, rfl⟩ := settled.shape
  obtain ⟨accumulatedRpz, accumulatedRewards, paid, updatedAt, rfl⟩ := settled.farmKept
  obtain ⟨accumulatedRpz', accumulatedRpvs, updatedAt', rfl⟩ := settled.poolKept
  have word := consistent.liqPoolId_lt known
  obtain ⟨leading, leads, place⟩ := (consistent.pools _ _ pool).known
  obtain rfl := Option.some.inj (known.symm.trans leads)
  have itself : nftId = encodeNftId liqPool.id (s.nftInstanceSequencer + 1) := by
    by_contra other
    obtain ⟨deposit, recorded⟩ := Option.isSome_iff_exists.mp created
    have kept : s.depositData.lookup nftId = some deposit :=
      (AList.lookup_insert_ne other).symm.trans recorded
    rw [fresh] at kept
    cases kept
  subst itself
  refine ⟨stepped, (encodeNftId_div word sequenced).le, Nat.zero_le _, ?_, ?_⟩
  · intro deposit recorded
    obtain rfl := Option.some.inj ((AList.lookup_insert _).symm.trans recorded)
    exact ⟨rfl, Nat.zero_le _⟩
  · intro deposit metadata' globalPool' recorded known' farm'
    rw [poolIdOf_encodeNftId word] at known'
    obtain rfl := Option.some.inj ((AList.lookup_insert _).symm.trans known')
    have same : metadata.farmId = farmId := congrArg Prod.fst place
    rw [show ({ metadata with nftsCount := metadata.nftsCount + 1 } : Metadata).farmId =
      farmId from same] at farm'
    obtain rfl := Option.some.inj ((AList.lookup_insert _).symm.trans farm')
    exact ⟨rfl, rfl⟩

/-- As long as deposits enter only pools and farms that are up to date, a deposit is
paid at most `maxRewardPerPeriod` for every period after the one it entered in, and what it
is paid is what is reported. -/
theorem deposit_paid_since_entry (lawful : cfg.math.Lawful) {key farmId amount : ℕ}
    {assetPair : AssetPair} {globalPool : GlobalPool}
    (reachable : ReachableUnder (Initial cfg) (Step cfg) (Obeys cfg entryRules) s)
    (obeyed : Obeys cfg entryRules s (.call (.depositShares key farmId assetPair amount)))
    (deposited : depositShares cfg s (.signer key) farmId assetPair amount = .ok t)
    (farm : s.globalPoolData.lookup farmId = some globalPool)
    (fresh : s.depositData.lookup nftId = none)
    (created : (t.depositData.lookup nftId).isSome = true)
    (run : Run (fun start => start = t) (Step cfg) past u)
    (guarded : Guarded (Obeys cfg entryRules) past) :
    paidTo nftId past u ≤
        (u.period globalPool - s.period globalPool) * globalPool.maxRewardPerPeriod ∧
      reportedTo nftId past u = paidTo nftId past u := by
  refine ⟨?_, reportedTo_eq_paidTo run nftId⟩
  refine (run.history_invariant (PaidWithin cfg nftId (s.period globalPool)
    globalPool.blocksPerPeriod globalPool.maxRewardPerPeriod) ?_ ?_ guarded).bounded
  · rintro start rfl
    exact paidWithin_of_depositShares reachable obeyed deposited farm fresh created
  · intro past s label t _ within obeyed taken
    exact within.step lawful obeyed taken

/-- A second deposit enters in the farm's first period and claims ten periods later. -/
theorem deposit_paid_since_entry_claimed :
    ∃ s t past u, simulateObeying entryRules [] = .ok s ∧
      depositShares .reference s (.signer 2) 1 ⟨1, 2⟩ 1000 = .ok t ∧
      Run (fun start => start = t) (Step .reference) past u ∧
      0 < paidTo (encodeNftId 2 2) past u ∧
      paidTo (encodeNftId 2 2) past u ≤ (10 - 0) * 10 ^ 13 := by
  have computed : succeedsWith
      (do
        let s ← simulateObeying entryRules []
        let t ← execObeying entryRules s (.call (.depositShares 2 1 ⟨1, 2⟩ 1000))
        let v ← execObeying entryRules t (.blocks 100)
        let u ← execObeying entryRules v (.call (.claimRewards 2 (encodeNftId 2 2)))
        return (s, t, v, u))
      (fun (s, t, v, u) => ((s.globalPoolData.lookup 1).any fun globalPool =>
          u.period globalPool = 10 && s.period globalPool = 0 &&
            globalPool.maxRewardPerPeriod = 10 ^ 13) &&
        decide (s.depositData.lookup (encodeNftId 2 2) = none) &&
        (t.depositData.lookup (encodeNftId 2 2)).isSome &&
        decide (0 < Label.rewards (encodeNftId 2 2) v u
          (.call (.claimRewards 2 (encodeNftId 2 2))))) = true := by
    decide +kernel
  simp only [succeedsWith_iff, bind_eq_ok, return_eq_ok, Prod.exists, Prod.mk.injEq,
    Bool.and_eq_true, Option.any_eq_true, decide_eq_true_eq] at computed
  obtain ⟨_, _, _, _, ⟨s, made, t, entered, v, waited, u, claimed, rfl, rfl, rfl, rfl⟩,
    ⟨⟨⟨globalPool, farm, ⟨late, early⟩, most⟩, fresh⟩, created⟩, paid⟩ := computed
  obtain ⟨obeyed, deposited⟩ := execObeying_ok entered
  obtain ⟨obeyed', waited⟩ := execObeying_ok waited
  obtain ⟨obeyed'', claimed⟩ := execObeying_ok claimed
  have start : Run (fun start => start = t) (Step .reference) [] t := .start rfl
  have run := (start.extend (step_of_exec waited)).extend (step_of_exec claimed)
  have guarded := guarded_cons.mpr ⟨obeyed'', guarded_cons.mpr ⟨obeyed', guarded_nil⟩⟩
  obtain ⟨bounded, -⟩ := deposit_paid_since_entry Math.reference_lawful
    (reachableUnder_of_simulate made) obeyed deposited farm fresh created run guarded
  rw [late, early, most] at bounded
  refine ⟨s, t, _, u, made, deposited, run, ?_, bounded⟩
  exact Nat.lt_of_lt_of_le paid (Nat.le_add_right _ _)

/-- A deposit in a pool that was added after a hundred periods is paid for all of
them, one period after it entered. -/
theorem deposit_paid_before_entry :
    ¬ ∀ (cfg : Config) (s t u : State) (key farmId amount nftId : ℕ)
        (assetPair : AssetPair) (globalPool : GlobalPool) (past : List (State × Label)),
      cfg.math.Lawful → Reachable (Initial cfg) (Step cfg) s →
      depositShares cfg s (.signer key) farmId assetPair amount = .ok t →
      s.globalPoolData.lookup farmId = some globalPool →
      s.depositData.lookup nftId = none →
      (t.depositData.lookup nftId).isSome = true →
      Run (fun start => start = t) (Step cfg) past u →
      paidTo nftId past u ≤
        (u.period globalPool - s.period globalPool) * globalPool.maxRewardPerPeriod := by
  intro claim
  have computed : succeedsWith
      (do
        let s ← simulate [.blocks 1000, .call (.addLiquidityPool 0 1 ⟨1, 3⟩ FixedU128.one none)]
        let t ← exec s (.call (.depositShares 2 1 ⟨1, 3⟩ 1000))
        let v ← exec t (.blocks 10)
        let u ← exec v (.call (.claimRewards 2 (encodeNftId 3 2)))
        return (s, t, v, u))
      (fun (s, t, v, u) => ((s.globalPoolData.lookup 1).any fun globalPool =>
          (u.period globalPool - s.period globalPool) * globalPool.maxRewardPerPeriod <
            Label.rewards (encodeNftId 3 2) v u
              (.call (.claimRewards 2 (encodeNftId 3 2)))) &&
        decide (s.depositData.lookup (encodeNftId 3 2) = none) &&
        (t.depositData.lookup (encodeNftId 3 2)).isSome) = true := by
    decide +kernel
  simp only [succeedsWith_iff, bind_eq_ok, return_eq_ok, Prod.exists, Prod.mk.injEq,
    Bool.and_eq_true, Option.any_eq_true, decide_eq_true_eq] at computed
  obtain ⟨_, _, _, _, ⟨s, made, t, entered, v, waited, u, claimed, rfl, rfl, rfl, rfl⟩,
    ⟨⟨globalPool, farm, tooMuch⟩, fresh⟩, created⟩ := computed
  have start : Run (fun start => start = t) (Step .reference) [] t := .start rfl
  have run := (start.extend (step_of_exec waited)).extend (step_of_exec claimed)
  have bounded := claim .reference s t u 2 1 1000 (encodeNftId 3 2) ⟨1, 3⟩ globalPool _
    Math.reference_lawful (reachable_of_simulate made) entered farm fresh created run
  exact absurd (Nat.lt_of_lt_of_le tooMuch (Nat.le_add_right _ _)) (not_lt.mpr bounded)

end Trace

end Basilisk.LiquidityMining
