/-
# Formulas and a reference chain

The formulas of `hydra_dx_math::liquidity_mining` are known to this development
only by laws: what a formula answers when it answers (`Math.Lawful`), and when it
has to answer (`Math.Checked`).  The reference instance satisfies both.

The second half is a small chain to run the pallet on: the runtime's constants,
the reference formulas and an AMM with two pools that are always there.
-/

import Basilisk.LiquidityMining.Calls
import Basilisk.Xyk.Model

namespace Basilisk.LiquidityMining

open Basilisk.Math

/-- Booking a reward adds its share to the reward per share, rounded down. -/
def Math.AccumulatesFloor (math : Math) : Prop :=
  ∀ {accumulatedRps totalShares reward result : ℕ},
    math.calculateAccumulatedRps accumulatedRps totalShares reward = some result →
      result = accumulatedRps + reward / totalShares

/-- Booking a reward never lowers the reward per share. -/
def Math.Accumulates (math : Math) : Prop :=
  ∀ {accumulatedRps totalShares reward result : ℕ},
    math.calculateAccumulatedRps accumulatedRps totalShares reward = some result →
      accumulatedRps ≤ result

theorem Math.AccumulatesFloor.accumulates {math : Math} (floors : math.AccumulatesFloor) :
    math.Accumulates := by
  intro accumulatedRps totalShares reward result computed
  rw [floors computed]
  exact Nat.le_add_right _ _

/-- The weight of valued shares is computed whenever it fits a machine word. -/
def Math.Weighs (math : Math) : Prop :=
  ∀ {valuedShares multiplier : ℕ}, FixedU128.mulInt multiplier valuedShares < u128Bound →
    (math.calculateGlobalPoolShares valuedShares multiplier).isSome = true

/-- What the formulas answer when they answer. -/
structure Math.Lawful (math : Math) : Prop where
  accumulatedRps : math.AccumulatesFloor
  globalPoolShares {valuedShares multiplier result : ℕ} :
    math.calculateGlobalPoolShares valuedShares multiplier = some result →
      result = FixedU128.mulInt multiplier valuedShares
  rewardPerPeriod {yieldPerPeriod totalSharesZ maxRewardPerPeriod result : ℕ} :
    math.calculateGlobalPoolRewardPerPeriod yieldPerPeriod totalSharesZ
        maxRewardPerPeriod = some result →
      result = min (FixedU128.mulInt yieldPerPeriod totalSharesZ) maxRewardPerPeriod
  userReward {before valuedShares claimed now loyalty reward unclaimable : ℕ} :
    math.calculateUserReward before valuedShares claimed now loyalty =
        some (reward, unclaimable) →
      before ≤ now ∧
        claimed + reward = FixedU128.mulInt loyalty ((now - before) * valuedShares) ∧
        unclaimable = (now - before) * valuedShares -
          FixedU128.mulInt loyalty ((now - before) * valuedShares)
  loyaltyMultiplier {periods initialRewardPercentage scaleCoef result : ℕ} :
    math.calculateLoyaltyMultiplier periods initialRewardPercentage scaleCoef =
      some result → result ≤ FixedU128.one

/-- When the formulas answer: whenever their checked arithmetic allows it.  The
loyalty multiplier grows with time, and is defined on an accepted curve unless its scale
coefficient is zero: `add_liquidity_pool` accepts such a curve, but the formula divides by
the coefficient. -/
structure Math.Checked (math : Math) : Prop extends math.Lawful where
  accumulatedRps_isSome {accumulatedRps totalShares reward : ℕ} :
    totalShares ≠ 0 → accumulatedRps + reward / totalShares < u128Bound →
      (math.calculateAccumulatedRps accumulatedRps totalShares reward).isSome = true
  globalPoolShares_isSome : math.Weighs
  rewardPerPeriod_isSome {yieldPerPeriod totalSharesZ maxRewardPerPeriod : ℕ} :
    FixedU128.mulInt yieldPerPeriod totalSharesZ < u128Bound →
      (math.calculateGlobalPoolRewardPerPeriod yieldPerPeriod totalSharesZ
        maxRewardPerPeriod).isSome = true
  userReward_isSome {before valuedShares claimed now loyalty : ℕ} :
    before ≤ now → (now - before) * valuedShares < u128Bound →
    loyalty ≤ FixedU128.one →
    claimed ≤ FixedU128.mulInt loyalty ((now - before) * valuedShares) →
      (math.calculateUserReward before valuedShares claimed now loyalty).isSome = true
  loyaltyMultiplier_isSome {periods initialRewardPercentage scaleCoef : ℕ} :
    initialRewardPercentage < FixedU128.one → scaleCoef ≠ 0 →
      (math.calculateLoyaltyMultiplier periods initialRewardPercentage scaleCoef).isSome =
        true
  loyaltyMultiplier_mono
      {earlier later initialRewardPercentage scaleCoef before after : ℕ} :
    earlier ≤ later →
    math.calculateLoyaltyMultiplier earlier initialRewardPercentage scaleCoef =
      some before →
    math.calculateLoyaltyMultiplier later initialRewardPercentage scaleCoef =
      some after → before ≤ after

/-- The formulas with checked arithmetic, and a loyalty multiplier that rises from
its initial percentage towards one. -/
def Math.reference : Math where
  calculateAccumulatedRps accumulatedRps totalShares reward :=
    if totalShares = 0 then none
    else checkedAdd u128Bound accumulatedRps (reward / totalShares)
  calculateGlobalPoolShares valuedShares multiplier :=
    FixedU128.checkedMulInt multiplier valuedShares
  calculateGlobalPoolRewardPerPeriod yieldPerPeriod totalSharesZ maxRewardPerPeriod :=
    (FixedU128.checkedMulInt yieldPerPeriod totalSharesZ).map (min · maxRewardPerPeriod)
  calculateUserReward before valuedShares claimed now loyalty := do
    let periodRewards ← checkedSub now before
    let maxRewards ← checkedMul u128Bound periodRewards valuedShares
    let rewards ← FixedU128.checkedMulInt loyalty maxRewards
    let unclaimable ← checkedSub maxRewards rewards
    let claimable ← checkedSub rewards claimed
    return (claimable, unclaimable)
  calculateLoyaltyMultiplier periods initialRewardPercentage scaleCoef :=
    if scaleCoef = 0 then none
    else some (FixedU128.one -
      (FixedU128.one - initialRewardPercentage) * scaleCoef / (scaleCoef + periods))

theorem checkedMulInt_eq_some {x n result : ℕ} :
    FixedU128.checkedMulInt x n = some result ↔
      FixedU128.mulInt x n < u128Bound ∧ FixedU128.mulInt x n = result := by
  unfold FixedU128.checkedMulInt
  split_ifs with fits <;> simp [fits]

theorem Math.reference_userReward {before valuedShares claimed now loyalty reward
    unclaimable : ℕ} :
    Math.reference.calculateUserReward before valuedShares claimed now loyalty =
        some (reward, unclaimable) ↔
      before ≤ now ∧ (now - before) * valuedShares < u128Bound ∧
        FixedU128.mulInt loyalty ((now - before) * valuedShares) < u128Bound ∧
        FixedU128.mulInt loyalty ((now - before) * valuedShares) ≤
          (now - before) * valuedShares ∧
        claimed ≤ FixedU128.mulInt loyalty ((now - before) * valuedShares) ∧
        FixedU128.mulInt loyalty ((now - before) * valuedShares) - claimed = reward ∧
        (now - before) * valuedShares -
          FixedU128.mulInt loyalty ((now - before) * valuedShares) = unclaimable := by
  simp only [Math.reference, Option.bind_eq_bind, Option.bind_eq_some_iff,
    checkedSub_eq_some, checkedMul_eq_some, checkedMulInt_eq_some, Option.pure_def,
    Option.some.injEq, Prod.mk.injEq, and_assoc, exists_and_left, exists_eq_left']

theorem Math.reference_lawful : Math.reference.Lawful where
  accumulatedRps computed := by
    simp only [Math.reference] at computed
    split_ifs at computed
    rw [checkedAdd_eq_some] at computed
    exact computed.2.symm
  globalPoolShares computed := (checkedMulInt_eq_some.mp computed).2.symm
  rewardPerPeriod computed := by
    simp only [Math.reference, Option.map_eq_some_iff, checkedMulInt_eq_some] at computed
    obtain ⟨_, ⟨-, rfl⟩, rfl⟩ := computed
    rfl
  userReward computed := by
    obtain ⟨ordered, -, -, -, covered, rfl, rfl⟩ := reference_userReward.mp computed
    exact ⟨ordered, Nat.add_sub_cancel' covered, rfl⟩
  loyaltyMultiplier computed := by
    simp only [Math.reference] at computed
    split_ifs at computed
    obtain rfl := Option.some.inj computed
    exact Nat.sub_le _ _

theorem Math.reference_checked : Math.reference.Checked where
  toLawful := Math.reference_lawful
  accumulatedRps_isSome shares fits := by
    simp only [Math.reference, if_neg shares]
    exact Option.isSome_iff_exists.mpr ⟨_, checkedAdd_eq_some.mpr ⟨fits, rfl⟩⟩
  globalPoolShares_isSome fits :=
    Option.isSome_iff_exists.mpr ⟨_, checkedMulInt_eq_some.mpr ⟨fits, rfl⟩⟩
  rewardPerPeriod_isSome fits := by
    simp only [Math.reference, Option.isSome_map]
    exact Option.isSome_iff_exists.mpr ⟨_, checkedMulInt_eq_some.mpr ⟨fits, rfl⟩⟩
  userReward_isSome ordered fits loyal covered := by
    have shrunk := FixedU128.mulInt_le_of_le_one loyal
    rw [Option.isSome_iff_exists]
    exact ⟨(_, _), reference_userReward.mpr ⟨ordered, fits,
      lt_of_le_of_lt (shrunk _) fits, shrunk _, covered, rfl, rfl⟩⟩
  loyaltyMultiplier_isSome _ scaled := by
    simp only [Math.reference, if_neg scaled]
    rfl
  loyaltyMultiplier_mono ordered before after := by
    simp only [Math.reference] at before after
    split_ifs at before after with unscaled
    obtain rfl := Option.some.inj before
    obtain rfl := Option.some.inj after
    exact Nat.sub_le_sub_left (Nat.div_le_div_left (Nat.add_le_add_left ordered _)
      (Nat.add_pos_left (Nat.pos_of_ne_zero unscaled) _)) _

/-- Share tokens 100 and 101, for the pairs of asset 1 with asset 2 and others. -/
def referenceToken (account : AccountId) : AssetId :=
  if account = Xyk.getPairId ⟨1, 2⟩ then 100 else 101

/-- The runtime's constants with the reference formulas. -/
def Config.reference : Config where
  minTotalFarmRewards := 10 ^ 15
  minPlannedYieldingPeriods := 100
  nftClass := 1
  getPairId := Xyk.getPairId
  shareTokenOf := referenceToken
  math := .reference

/-- An AMM in which every pool exists. -/
def Amm.reference : Amm where
  poolExists _ := true
  getShareToken pair := referenceToken (Xyk.getPairId pair)

theorem Amm.reference_lawful : Amm.reference.Lawful Config.reference := fun _ _ => rfl

/-- Signer 0 pays for farms in asset 7, signers 1 and 2 hold LP shares, and every
pool holds a reserve of asset 1. -/
def genesis : State where
  poolIdSequencer := 0
  nftInstanceSequencer := 0
  globalPoolData := ∅
  liquidityPoolData := ∅
  depositData := ∅
  liquidityPoolMetadata := ∅
  events := []
  blockNumber := 0
  ledger :=
    { free := fun who asset =>
        match who with
        | .signer key => if key = 0 then (if asset = 7 then 10 ^ 18 else 0)
            else if asset = 100 ∨ asset = 101 then 10 ^ 6 else 0
        | .hashed _ => if asset = 1 then 10 ^ 10 else 0
        | _ => 0
      reserved := fun _ _ => 0
      issuance := fun _ => 0 }
  amm := .reference
  nft :=
    { uniques := { classOwner := AList.singleton 1 .palletAccount, owner := ∅ }
      classes := AList.singleton 1 ⟨.liquidityMining, []⟩
      instances := ∅
      events := [] }

theorem genesis_initial : Initial Config.reference genesis :=
  ⟨rfl, rfl, rfl, rfl, rfl, rfl, Amm.reference_lawful⟩

/-- A call, or a number of blocks in which nothing else happens. -/
inductive Input
  | call (call : Call)
  | blocks (count : ℕ)

/-- A farm of `10 ^ 15` over a hundred periods of ten blocks, with a pool in which
signer 1 deposits a thousand shares. -/
def stakedFarm : List Input :=
  [.call (.createFarm (10 ^ 15) 100 10 1 7 (.signer 0) .one),
    .call (.addLiquidityPool 0 1 ⟨1, 2⟩ FixedU128.one none),
    .call (.depositShares 1 1 ⟨1, 2⟩ 1000)]

def exec (s : State) : Input → Except Error State
  | .call call => dispatch .reference s call
  | .blocks count => .ok (s.within ⟨s.blockNumber + count, s.ledger, .reference, s.nft⟩)

/-- The step an input is. -/
def Input.label (s : State) : Input → Label
  | .call made => .call made
  | .blocks count => .external ⟨s.blockNumber + count, s.ledger, .reference, s.nft⟩

theorem step_of_exec {s t : State} {input : Input} (executed : exec s input = .ok t) :
    Step .reference s (input.label s) t := by
  cases input with
  | call call => exact executed
  | blocks count =>
      refine ⟨⟨Nat.le_add_right _ _, fun _ _ _ => le_rfl, Amm.reference_lawful⟩, ?_⟩
      exact (Except.ok.inj executed).symm

/-- Run the reference chain, starting with the staked farm. -/
def simulate (inputs : List Input) : Except Error State :=
  (stakedFarm ++ inputs).foldlM exec genesis

theorem reachable_of_simulate {inputs : List Input} {s : State}
    (computed : simulate inputs = .ok s) :
    Reachable (Initial .reference) (Step .reference) s :=
  reachable_of_foldlM (fun s input _ executed => ⟨input.label s, step_of_exec executed⟩)
    ⟨[], .start genesis_initial⟩ computed

/-- Run the reference chain, starting with the staked farm, and record the steps. -/
def simulateRecording (inputs : List Input) : Except Error (List (State × Label) × State) :=
  (stakedFarm ++ inputs).foldlM (recording exec fun s input => input.label s) ([], genesis)

theorem run_of_simulate {inputs : List Input} {past : List (State × Label)} {s : State}
    (computed : simulateRecording inputs = .ok (past, s)) :
    Run (Initial .reference) (Step .reference) past s := by
  unfold simulateRecording at computed
  refine run_of_recording ?_ (.start genesis_initial) computed
  intro s input t executed
  exact step_of_exec executed

section Rules

variable {cfg : Config} {s : State}

instance (slot : Slot) : Decidable (Due s slot) :=
  decidable_of_iff (∃ globalPool ∈ s.globalPoolData.lookup slot.1,
    ∃ liqPool ∈ s.liquidityPoolData.lookup slot, liqPool.canceled = false ∧
      liqPool.totalShares ≠ 0 ∧ liqPool.updatedAt ≠ s.period globalPool) <| by
    constructor
    · rintro ⟨globalPool, farm, liqPool, pool, due⟩
      exact ⟨globalPool, liqPool, farm, pool, due⟩
    · rintro ⟨globalPool, liqPool, farm, pool, due⟩
      exact ⟨globalPool, farm, liqPool, pool, due⟩

instance (farmId : ℕ) : Decidable (Funded cfg s farmId) :=
  decidable_of_iff (∀ globalPool ∈ s.globalPoolData.lookup farmId,
    globalPool.totalSharesZ ≠ 0 → globalPool.updatedAt ≠ s.period globalPool →
    ∀ rewardPerPeriod ∈ cfg.math.calculateGlobalPoolRewardPerPeriod
      globalPool.yieldPerPeriod.toFixed globalPool.totalSharesZ
      globalPool.maxRewardPerPeriod,
    globalPool.accumulatedRewards = 0 ∨
      globalPool.accumulatedRewards +
          (s.period globalPool - globalPool.updatedAt) * rewardPerPeriod ≤
        s.ledger.free (.palletSubAccount globalPool.id) globalPool.rewardCurrency) <| by
    constructor
    · intro funded globalPool rewardPerPeriod farm staked stale rate
      exact funded globalPool farm staked stale rewardPerPeriod rate
    · intro funded globalPool farm staked stale rewardPerPeriod rate
      exact funded globalPool rewardPerPeriod farm staked stale rate

instance (slot : Slot) : Decidable (CheckpointCurrent s slot) :=
  decidable_of_iff (∀ globalPool ∈ s.globalPoolData.lookup slot.1,
    ∀ liqPool ∈ s.liquidityPoolData.lookup slot,
      liqPool.accumulatedRpz = globalPool.accumulatedRpz) <| by
    constructor
    · intro current globalPool liqPool farm pool
      exact current globalPool farm liqPool pool
    · intro current globalPool farm liqPool pool
      exact current globalPool liqPool farm pool

instance (farmId : ℕ) : Decidable (FarmCurrent s farmId) :=
  inferInstanceAs (Decidable (∀ globalPool ∈ s.globalPoolData.lookup farmId,
    globalPool.updatedAt = s.period globalPool))

instance (farmId : ℕ) : Decidable (FarmStaked s farmId) :=
  inferInstanceAs (Decidable (∀ globalPool ∈ s.globalPoolData.lookup farmId,
    globalPool.totalSharesZ ≠ 0))

instance (slot : Slot) : Decidable (SlotUnused cfg s slot) :=
  decidable_of_iff (∀ entry ∈ s.liquidityPoolMetadata.entries,
    entry.2.slot cfg ≠ slot) <| by
    constructor
    · intro unused liqPoolId metadata known
      exact unused ⟨liqPoolId, metadata⟩ (AList.mem_lookup_iff.mp known)
    · intro unused entry member
      exact unused entry.1 entry.2 (AList.mem_lookup_iff.mpr member)

/-- The farm a call updates without any pool. -/
def Call.refreshes : Call → Option ℕ
  | .addLiquidityPool _ farmId _ _ _ => some farmId
  | .resumeLiquidityPool _ farmId _ _ => some farmId
  | _ => none

/-- The accruals of a call, one by one. -/
theorem accruals_funded_iff {call : Call} :
    ((∀ farmId ∈ call.refreshes, Funded cfg s farmId) ∧
        ∀ slot ∈ call.slot cfg s, Due s slot → Funded cfg s slot.1) ↔
      ∀ farmId, call.Accrues cfg s farmId → Funded cfg s farmId := by
  have general : (∀ slot ∈ call.slot cfg s, Due s slot → Funded cfg s slot.1) ↔
      ∀ farmId, (∃ slot ∈ call.slot cfg s, slot.1 = farmId ∧ Due s slot) →
        Funded cfg s farmId := by
    constructor
    · rintro funded _ ⟨slot, touched, rfl, due⟩
      exact funded slot touched due
    · intro funded slot touched due
      exact funded slot.1 ⟨slot, touched, rfl, due⟩
  rw [general]
  cases call <;> simp [Call.Accrues, Call.refreshes, Call.slot]

instance (rule : Rule) (label : Label) : Decidable (rule.Allows cfg s label) := by
  unfold Rule.Allows
  split
  · exact decidable_of_iff _ accruals_funded_iff
  all_goals infer_instance

instance (rules : List Rule) (label : Label) : Decidable (Obeys cfg rules s label) :=
  inferInstanceAs (Decidable (∀ rule ∈ rules, rule.Allows cfg s label))

/-- Execute an input that obeys the rules. -/
def execObeying (rules : List Rule) (s : State) (input : Input) : Except Error State := do
  ensure (Obeys .reference rules s (input.label s)) .forbidden
  exec s input

theorem execObeying_ok {rules : List Rule} {s t : State} {input : Input}
    (executed : execObeying rules s input = .ok t) :
    Obeys .reference rules s (input.label s) ∧ exec s input = .ok t := by
  simpa only [execObeying, bind_eq_ok, ensure_eq_ok, exists_const] using executed

/-- Run the reference chain under the rules, starting with the staked farm. -/
def simulateObeying (rules : List Rule) (inputs : List Input) : Except Error State :=
  (stakedFarm ++ inputs).foldlM (execObeying rules) genesis

theorem reachableUnder_of_simulate {rules : List Rule} {inputs : List Input} {s : State}
    (computed : simulateObeying rules inputs = .ok s) :
    ReachableUnder (Initial .reference) (Step .reference) (Obeys .reference rules) s := by
  refine reachableUnder_of_foldlM ?_ ⟨[], .start genesis_initial, guarded_nil⟩ computed
  intro s input t executed
  obtain ⟨obeyed, done⟩ := execObeying_ok executed
  exact ⟨input.label s, obeyed, step_of_exec done⟩

end Rules

end Basilisk.LiquidityMining
