/-
# What the account of a pool covers

A pool collects rewards into its own account, pays its deposits from it as their
loyalty grows, and returns to the farm what a leaving deposit forfeits.  The
rewards are spread by a reward per share that is rounded down, so the account
always covers what the deposits earned and were not yet paid.
-/

import Basilisk.LiquidityMining.Entry

namespace Basilisk.LiquidityMining

open Basilisk.Math

/-- The loyalty multiplier has a value on the curve after any number of periods. -/
def LoyaltyDefined (cfg : Config) (curve : Option LoyaltyCurve) : Prop :=
  ∀ periods, ∃ loyalty, getLoyaltyMultiplier cfg periods curve = .ok loyalty

section Loyalty

variable {cfg : Config}

/-- The loyalty multiplier is defined on every accepted curve with a scale. -/
theorem loyaltyDefined_of_scaled (checked : cfg.math.Checked) {curve : Option LoyaltyCurve}
    (accepted : ∀ found ∈ curve, found.initialRewardPercentage < FixedU128.one)
    (scaled : ∀ found ∈ curve, found.scaleCoef ≠ 0) : LoyaltyDefined cfg curve := by
  intro periods
  cases curve with
  | none => exact ⟨_, rfl⟩
  | some found =>
      have below := accepted found rfl
      have defined : (cfg.math.calculateLoyaltyMultiplier periods
          found.initialRewardPercentage found.scaleCoef).isSome = true :=
        checked.loyaltyMultiplier_isSome below (scaled found rfl)
      obtain ⟨loyalty, computed⟩ := Option.isSome_iff_exists.mp defined
      refine ⟨loyalty, ?_⟩
      unfold getLoyaltyMultiplier
      dsimp only
      rw [if_neg below.ne]
      exact okOr_eq_ok.mpr computed

theorem getLoyaltyMultiplier_error {curve : Option LoyaltyCurve} {periods : ℕ} {e : Error}
    (failed : getLoyaltyMultiplier cfg periods curve = .error e) : e = .overflow := by
  unfold getLoyaltyMultiplier at failed
  cases curve with
  | none => cases failed
  | some found =>
      dsimp only at failed
      split_ifs at failed
      exact (okOr_eq_error.mp failed).2.symm

/-- Loyalty grows with time. -/
theorem getLoyaltyMultiplier_mono (checked : cfg.math.Checked)
    {curve : Option LoyaltyCurve} {earlier later before after : ℕ}
    (ordered : earlier ≤ later)
    (computed : getLoyaltyMultiplier cfg earlier curve = .ok before)
    (computed' : getLoyaltyMultiplier cfg later curve = .ok after) : before ≤ after := by
  unfold getLoyaltyMultiplier at computed computed'
  cases curve with
  | none => exact (Except.ok.inj (computed.symm.trans computed')).le
  | some found =>
      dsimp only at computed computed'
      split_ifs at computed computed'
      · exact (Except.ok.inj (computed.symm.trans computed')).le
      · exact checked.loyaltyMultiplier_mono ordered (okOr_eq_ok.mp computed)
          (okOr_eq_ok.mp computed')

end Loyalty

/-- The share of a deposit in what a pool collects. -/
def memberShare (liqPoolId nftId : ℕ) (deposit : Deposit) : Share :=
  if poolIdOf nftId = liqPoolId then ⟨deposit.valuedShares, deposit.accumulatedRpvs⟩
  else .none

/-- A deposit was paid no more than it earned, and no more of it than its loyalty allows,
now or later.  The second does not give the first on a curve without a multiplier. -/
structure ClaimsCovered (cfg : Config) (liqPool : LiquidityPoolYieldFarm)
    (deposit : Deposit) : Prop where
  le_earned : deposit.accumulatedClaimedRewards ≤ earned liqPool deposit
  allowed : ∀ periods loyalty, deposit.updatedAt - deposit.enteredAt ≤ periods →
    getLoyaltyMultiplier cfg periods liqPool.loyaltyCurve = .ok loyalty →
    deposit.accumulatedClaimedRewards ≤ FixedU128.mulInt loyalty (earned liqPool deposit)

/-- What a pool was paid covers what its deposits earned, and what is left of it covers
what they may still claim. -/
structure PoolReserved (cfg : Config) (ledger : Currencies) (globalPool : GlobalPool)
    (liqPool : LiquidityPoolYieldFarm) (deposits : AList fun _ : ℕ => Deposit) : Prop where
  rpvs : liqPool.accumulatedRpvs ≤ globalPool.paidAccumulatedRewards
  entitled : tally liqPool.id (earned liqPool) deposits ≤ globalPool.paidAccumulatedRewards
  covered : tally liqPool.id (earned liqPool) deposits ≤
    ledger.free (.palletSubAccount liqPool.id) globalPool.rewardCurrency +
      tally liqPool.id Deposit.accumulatedClaimedRewards deposits
  claimed : ∀ nftId deposit, deposits.lookup nftId = some deposit →
    poolIdOf nftId = liqPool.id → ClaimsCovered cfg liqPool deposit

section Reserves

variable {cfg : Config} {s t : State} {kind : MoveKind} {slot : Slot}
variable {globalPool globalPool' : GlobalPool} {liqPool liqPool' : LiquidityPoolYieldFarm}
variable {deposits : AList fun _ : ℕ => Deposit} {deposit : Deposit} {nftId : ℕ}

theorem tally_earned_eq (liqPool : LiquidityPoolYieldFarm) (liqPoolId : ℕ)
    (deposits : AList fun _ : ℕ => Deposit) :
    tally liqPoolId (earned liqPool) deposits =
      entitlements (memberShare liqPoolId) liqPool.accumulatedRpvs deposits := by
  apply AList.total_congr
  intro nftId deposit _
  unfold memberShare
  split_ifs
  · rfl
  · exact Share.entitlement_none.symm

theorem staked_memberShare (liqPoolId : ℕ) (deposits : AList fun _ : ℕ => Deposit) :
    staked (memberShare liqPoolId) deposits =
      tally liqPoolId Deposit.valuedShares deposits := by
  apply AList.total_congr
  intro nftId deposit _
  unfold memberShare
  split_ifs <;> rfl

/-- What a pool collects covers what its deposits earn by it. -/
theorem tally_earned_collect (tallied : PoolTallied liqPool deposits) {reward : ℕ}
    (id : liqPool'.id = liqPool.id)
    (rpvs : liqPool'.accumulatedRpvs =
      liqPool.accumulatedRpvs + reward / liqPool.totalValuedShares) :
    tally liqPool'.id (earned liqPool') deposits ≤
      tally liqPool.id (earned liqPool) deposits + reward := by
  rw [id, tally_earned_eq, tally_earned_eq, rpvs, ← tallied.valuedShares,
    ← staked_memberShare]
  apply entitlements_distribute
  intro nftId deposit recorded
  unfold memberShare
  split_ifs with own
  · exact tallied.behind nftId deposit recorded own
  · exact Nat.zero_le _

theorem ClaimsCovered.of_unpaid (unpaid : deposit.accumulatedClaimedRewards = 0) :
    ClaimsCovered cfg liqPool deposit where
  le_earned := unpaid ▸ Nat.zero_le _
  allowed _ _ _ _ := unpaid ▸ Nat.zero_le _

/-- The more a deposit earned, the more it may have been paid. -/
theorem ClaimsCovered.mono (claims : ClaimsCovered cfg liqPool deposit)
    (curve : liqPool'.loyaltyCurve = liqPool.loyaltyCurve)
    (more : earned liqPool deposit ≤ earned liqPool' deposit) :
    ClaimsCovered cfg liqPool' deposit := by
  refine ⟨claims.le_earned.trans more, ?_⟩
  intro periods loyalty later computed
  rw [curve] at computed
  exact (claims.allowed periods loyalty later computed).trans
    (FixedU128.mulInt_mono le_rfl more)

/-- What was just paid stays covered while the pool collects more. -/
theorem ClaimsCovered.of_paid (checked : cfg.math.Checked) {now loyalty paid : ℕ}
    (loyal : getLoyaltyMultiplier cfg (now - deposit.enteredAt) liqPool.loyaltyCurve =
      .ok loyalty)
    (total : paid = FixedU128.mulInt loyalty (earned liqPool deposit)) :
    ClaimsCovered cfg liqPool
      { deposit with accumulatedClaimedRewards := paid, updatedAt := now } := by
  have atMostOne := getLoyaltyMultiplier_le_one checked.toLawful loyal
  refine ⟨total.le.trans (FixedU128.mulInt_le_of_le_one atMostOne _), ?_⟩
  intro periods later ordered computed
  refine total.le.trans (FixedU128.mulInt_mono ?_ le_rfl)
  exact getLoyaltyMultiplier_mono checked ordered loyal computed

/-- A claim that is due is a transfer out of the account of the pool: of all that the loyalty
multiplier allows, less what was paid before. -/
theorem doClaimRewards_due (checked : cfg.math.Checked) {who : AccountId} {now loyalty : ℕ}
    {currency : AssetId} (numbered : liqPool.id ≠ 0) (entered : deposit.enteredAt ≤ now)
    (unpaid : deposit.updatedAt ≠ now)
    (behind : deposit.accumulatedRpvs ≤ liqPool.accumulatedRpvs)
    (fits : earned liqPool deposit < u128Bound)
    (loyal : getLoyaltyMultiplier cfg (now - deposit.enteredAt) liqPool.loyaltyCurve =
      .ok loyalty)
    (claimed : deposit.accumulatedClaimedRewards ≤
      FixedU128.mulInt loyalty (earned liqPool deposit)) :
    doClaimRewards cfg s who deposit liqPool now currency =
      (s.transfer currency (.palletSubAccount liqPool.id) who
        (FixedU128.mulInt loyalty (earned liqPool deposit) -
          deposit.accumulatedClaimedRewards)).map fun s' =>
        (s', { deposit with
          accumulatedClaimedRewards := FixedU128.mulInt loyalty (earned liqPool deposit)
          updatedAt := now },
          FixedU128.mulInt loyalty (earned liqPool deposit) - deposit.accumulatedClaimedRewards,
          earned liqPool deposit - FixedU128.mulInt loyalty (earned liqPool deposit)) := by
  have atMostOne := getLoyaltyMultiplier_le_one checked.toLawful loyal
  have shrunk := FixedU128.mulInt_le_of_le_one atMostOne (earned liqPool deposit)
  have defined : (cfg.math.calculateUserReward deposit.accumulatedRpvs deposit.valuedShares
      deposit.accumulatedClaimedRewards liqPool.accumulatedRpvs loyalty).isSome = true :=
    checked.userReward_isSome behind fits atMostOne claimed
  obtain ⟨⟨reward, unclaimable⟩, priced⟩ := Option.isSome_iff_exists.mp defined
  obtain ⟨-, total, forfeited⟩ := checked.userReward priced
  change _ = FixedU128.mulInt loyalty (earned liqPool deposit) at total
  change unclaimable = earned liqPool deposit -
    FixedU128.mulInt loyalty (earned liqPool deposit) at forfeited
  have periods : checkedSub now deposit.enteredAt = some (now - deposit.enteredAt) :=
    checkedSub_eq_some.mpr ⟨entered, rfl⟩
  have booked : checkedAdd u128Bound deposit.accumulatedClaimedRewards reward =
      some (FixedU128.mulInt loyalty (earned liqPool deposit)) :=
    checkedAdd_eq_some.mpr ⟨by omega, total⟩
  have account : poolAccountId liqPool.id = .ok (.palletSubAccount liqPool.id) :=
    poolAccountId_eq_ok.mpr ⟨numbered, rfl⟩
  have rest : FixedU128.mulInt loyalty (earned liqPool deposit) -
      deposit.accumulatedClaimedRewards = reward := by omega
  rw [rest, ← forfeited]
  simp only [doClaimRewards, periods, loyal, priced, booked, account, okOr, ok_bind,
    if_neg unpaid]
  rfl

/-- Only paying and refunding take from the account of a pool that stays. -/
theorem pool_keeps (consistent : Consistent cfg s.blockNumber s.toStorage)
    (move : Move cfg s kind t)
    (outside : kind ≠ .createFarm (.palletSubAccount liqPool.id))
    (pool : s.liquidityPoolData.lookup slot = some liqPool)
    (notPay : ∀ nftId, kind = .pay nftId → kind.slot cfg s ≠ some slot)
    (notLeave : ∀ nftId, kind = .leave nftId → kind.slot cfg s ≠ some slot)
    (stays : kind ≠ .removePool slot) (currency : AssetId) :
    s.ledger.free (.palletSubAccount liqPool.id) currency ≤
      t.ledger.free (.palletSubAccount liqPool.id) currency := by
  have placed : ∀ {place other}, s.liquidityPoolData.lookup place = some other →
      AccountId.palletSubAccount liqPool.id = .palletSubAccount other.id → place = slot := by
    intro place other found same
    exact consistent.slot_unique found pool (AccountId.palletSubAccount.inj same).symm
  have settling : ∀ {nftId}, .palletSubAccount liqPool.id ∈ settlingAccount cfg s nftId →
      (s.liquidityPoolMetadata.lookup (poolIdOf nftId)).map (Metadata.slot cfg) =
        some slot := by
    intro nftId paying
    obtain ⟨metadata, other, known, found, same⟩ := mem_settlingAccount.mp paying
    rw [known, Option.map_some, placed found same]
  have notFarm : ∀ {farmId farm}, s.globalPoolData.lookup farmId = some farm →
      AccountId.palletSubAccount liqPool.id ≠ .palletSubAccount farmId := by
    intro farmId farm found same
    exact consistent.liqPool_ne_farm pool found (AccountId.palletSubAccount.inj same)
  refine free_le_move consistent move (AccountId.isPallet_palletSubAccount _) ?_ currency
  intro paying
  cases move with
  | collect farm => exact notFarm farm (List.mem_singleton.mp paying)
  | pay => exact notPay _ rfl (settling paying)
  | leave => exact notLeave _ rfl (settling ((List.mem_cons.mp paying).resolve_left nofun))
  | depart => exact absurd (List.mem_singleton.mp paying) nofun
  | createFarm => exact outside (congrArg MoveKind.createFarm (List.mem_singleton.mp paying).symm)
  | drain farm => exact notFarm farm (List.mem_singleton.mp paying)
  | removePool =>
      obtain ⟨other, found, same⟩ := mem_poolAccountAt.mp paying
      exact stays (congrArg MoveKind.removePool (placed found same))
  | _ => exact absurd paying List.not_mem_nil

/-- The conditions under which the accounts of pools cover their deposits. -/
def reserveRules : List Rule := [.unusedSlot, .outsideOwner]

/-- The deposits and what they earned did not change. -/
theorem PoolReserved.keep {reward : ℕ}
    (reserved : PoolReserved cfg s.ledger globalPool liqPool s.depositData)
    (terms : SameTerms globalPool globalPool')
    (paid : globalPool'.paidAccumulatedRewards = globalPool.paidAccumulatedRewards + reward)
    (id : liqPool'.id = liqPool.id)
    (rpvs : liqPool'.accumulatedRpvs = liqPool.accumulatedRpvs)
    (curve : liqPool'.loyaltyCurve = liqPool.loyaltyCurve)
    (members : SameMembers liqPool.id s.depositData t.depositData)
    (funds : ∀ currency, s.ledger.free (.palletSubAccount liqPool.id) currency ≤
      t.ledger.free (.palletSubAccount liqPool.id) currency) :
    PoolReserved cfg t.ledger globalPool' liqPool' t.depositData := by
  have same := earned_congr rpvs
  obtain ⟨before, entitled, covered, claimed⟩ := reserved
  refine ⟨?_, ?_, ?_, ?_⟩
  · omega
  · rw [id, same, members.tally]
    omega
  · rw [id, same, members.tally, members.tally, terms.rewardCurrency]
    have kept := funds globalPool.rewardCurrency
    omega
  · intro nftId deposit recorded own
    rw [id] at own
    rw [members.lookup nftId own] at recorded
    exact (claimed nftId deposit recorded own).mono curve (by rw [same])

/-- A new deposit has earned nothing. -/
theorem PoolReserved.enter {amount valuedShares entered : ℕ}
    (reserved : PoolReserved cfg s.ledger globalPool liqPool s.depositData)
    (terms : SameTerms globalPool globalPool')
    (paid : globalPool'.paidAccumulatedRewards = globalPool.paidAccumulatedRewards)
    (own : poolIdOf nftId = liqPool.id) (fresh : s.depositData.lookup nftId = none)
    (deposits : t.depositData = s.depositData.insert nftId
      (Deposit.new amount valuedShares liqPool.accumulatedRpvs entered))
    (id : liqPool'.id = liqPool.id)
    (rpvs : liqPool'.accumulatedRpvs = liqPool.accumulatedRpvs)
    (curve : liqPool'.loyaltyCurve = liqPool.loyaltyCurve)
    (funds : ∀ currency, s.ledger.free (.palletSubAccount liqPool.id) currency ≤
      t.ledger.free (.palletSubAccount liqPool.id) currency) :
    PoolReserved cfg t.ledger globalPool' liqPool' t.depositData := by
  have same := earned_congr rpvs
  have nothing : earned liqPool
      (Deposit.new amount valuedShares liqPool.accumulatedRpvs entered) = 0 :=
    Share.entitlement_of_current rfl
  have unclaimed : Deposit.accumulatedClaimedRewards
      (Deposit.new amount valuedShares liqPool.accumulatedRpvs entered) = 0 := rfl
  obtain ⟨before, entitled, covered, claimed⟩ := reserved
  rw [deposits]
  refine ⟨?_, ?_, ?_, ?_⟩
  · omega
  · rw [id, same, tally_insert_of_none fresh own, nothing, paid]
    exact entitled
  · rw [id, same, tally_insert_of_none fresh own, tally_insert_of_none fresh own, nothing,
      unclaimed, terms.rewardCurrency]
    have kept := funds globalPool.rewardCurrency
    omega
  · refine AList.forall_lookup_insert ?_ ?_
    · intro _
      exact .of_unpaid unclaimed
    · intro other otherDeposit _ recorded mine
      rw [id] at mine
      exact (claimed other otherDeposit recorded mine).mono curve (by rw [same])

/-- Others' claims leave enough for a deposit's own. -/
theorem PoolReserved.available {ledger : Currencies}
    (reserved : PoolReserved cfg ledger globalPool liqPool deposits)
    (recorded : deposits.lookup nftId = some deposit)
    (own : poolIdOf nftId = liqPool.id) :
    earned liqPool deposit ≤
      ledger.free (.palletSubAccount liqPool.id) globalPool.rewardCurrency +
        deposit.accumulatedClaimedRewards := by
  have covered := reserved.covered
  have erasedEarned := tally_erase recorded own (earned liqPool)
  have erasedClaimed := tally_erase recorded own Deposit.accumulatedClaimedRewards
  have others : tally liqPool.id Deposit.accumulatedClaimedRewards (deposits.erase nftId) ≤
      tally liqPool.id (earned liqPool) (deposits.erase nftId) := by
    apply tally_le_tally
    refine AList.forall_lookup_erase ?_
    intro other otherDeposit _ stored mine
    exact (reserved.claimed other otherDeposit stored mine).le_earned
  omega

/-- The sum of differences is the difference of the sums. -/
theorem tally_sub {liqPoolId : ℕ} {weight lesser : Deposit → ℕ}
    (ordered : ∀ nftId deposit, deposits.lookup nftId = some deposit →
      poolIdOf nftId = liqPoolId → lesser deposit ≤ weight deposit) :
    tally liqPoolId (fun deposit => weight deposit - lesser deposit) deposits +
      tally liqPoolId lesser deposits = tally liqPoolId weight deposits := by
  unfold tally
  rw [← AList.total_add]
  apply AList.total_congr
  intro nftId deposit recorded
  split_ifs with own
  · exact Nat.sub_add_cancel (ordered nftId deposit recorded own)
  · rfl

/-- The account of a pool covers what it pays a deposit together with what the deposit
forfeits. -/
theorem PoolReserved.payable (lawful : cfg.math.Lawful) {ledger : Currencies}
    (reserved : PoolReserved cfg ledger globalPool liqPool deposits)
    (recorded : deposits.lookup nftId = some deposit) (own : poolIdOf nftId = liqPool.id)
    {periods loyalty reward unclaimable : ℕ}
    (loyal : getLoyaltyMultiplier cfg periods liqPool.loyaltyCurve = .ok loyalty)
    (priced : cfg.math.calculateUserReward deposit.accumulatedRpvs deposit.valuedShares
      deposit.accumulatedClaimedRewards liqPool.accumulatedRpvs loyalty =
        some (reward, unclaimable)) :
    reward + unclaimable ≤
      ledger.free (.palletSubAccount liqPool.id) globalPool.rewardCurrency := by
  have available := reserved.available recorded own
  have shrunk := FixedU128.mulInt_le_of_le_one
    (getLoyaltyMultiplier_le_one lawful loyal) (earned liqPool deposit)
  obtain ⟨-, total, spare⟩ := lawful.userReward priced
  change _ = FixedU128.mulInt loyalty (earned liqPool deposit) at total
  change _ = earned liqPool deposit -
    FixedU128.mulInt loyalty (earned liqPool deposit) at spare
  omega

/-- What a pool collects is distributed over its deposits. -/
theorem PoolReserved.collect (lawful : cfg.math.Lawful)
    (reserved : PoolReserved cfg s.ledger globalPool liqPool s.depositData)
    (tallied : PoolTallied liqPool s.depositData) {reward accumulatedRpvs : ℕ}
    (terms : SameTerms globalPool globalPool')
    (paid : globalPool'.paidAccumulatedRewards = globalPool.paidAccumulatedRewards + reward)
    (apart : globalPool.id ≠ liqPool.id)
    (booked : cfg.math.Books liqPool.accumulatedRpvs liqPool.totalValuedShares reward
      accumulatedRpvs)
    (moved : s.ledger.transfer globalPool.rewardCurrency (.palletSubAccount globalPool.id)
      (.palletSubAccount liqPool.id) reward = some t.ledger)
    (deposits : t.depositData = s.depositData) (id : liqPool'.id = liqPool.id)
    (rpvs : liqPool'.accumulatedRpvs = accumulatedRpvs)
    (curve : liqPool'.loyaltyCurve = liqPool.loyaltyCurve) :
    PoolReserved cfg t.ledger globalPool' liqPool' t.depositData := by
  have gained := booked.le_div lawful.accumulatedRps
  rw [← rpvs] at gained
  have part := Nat.div_le_self reward liqPool.totalValuedShares
  have distributed := tally_earned_collect tallied id gained
  have received := Ledger.free_transfer_receiver moved
    (fun same => apart (AccountId.palletSubAccount.inj same))
  obtain ⟨before, entitled, covered, claimed⟩ := reserved
  rw [deposits]
  refine ⟨?_, ?_, ?_, ?_⟩
  · rw [gained, paid]
    exact Nat.add_le_add before part
  · exact distributed.trans (paid ▸ Nat.add_le_add_right entitled reward)
  · rw [terms.rewardCurrency]
    rw [id] at distributed ⊢
    omega
  · intro nftId deposit recorded own
    rw [id] at own
    refine (claimed nftId deposit recorded own).mono curve ?_
    unfold earned Share.entitlement
    rw [gained]
    exact Nat.mul_le_mul_right _ (Nat.sub_le_sub_right (Nat.le_add_right _ _) _)

/-- A payment is booked as claimed. -/
theorem PoolReserved.pay (checked : cfg.math.Checked)
    (reserved : PoolReserved cfg s.ledger globalPool liqPool s.depositData)
    {key period loyalty reward unclaimable : ℕ}
    (terms : SameTerms globalPool globalPool')
    (paid : globalPool'.paidAccumulatedRewards = globalPool.paidAccumulatedRewards)
    (own : poolIdOf nftId = liqPool.id)
    (recorded : s.depositData.lookup nftId = some deposit)
    (loyal : getLoyaltyMultiplier cfg (period - deposit.enteredAt) liqPool.loyaltyCurve =
      .ok loyalty)
    (priced : cfg.math.calculateUserReward deposit.accumulatedRpvs deposit.valuedShares
      deposit.accumulatedClaimedRewards liqPool.accumulatedRpvs loyalty =
        some (reward, unclaimable))
    (moved : s.ledger.transfer globalPool.rewardCurrency (.palletSubAccount liqPool.id)
      (.signer key) reward = some t.ledger)
    (deposits : t.depositData = s.depositData.insert nftId
      { deposit with
        accumulatedClaimedRewards := deposit.accumulatedClaimedRewards + reward
        updatedAt := period }) :
    PoolReserved cfg t.ledger globalPool' liqPool t.depositData := by
  obtain ⟨before, entitled, covered, claimed⟩ := reserved
  have sent := Ledger.free_transfer_sender moved nofun
  obtain ⟨-, total, -⟩ := checked.toLawful.userReward priced
  rw [deposits]
  have kept := tally_rewrite recorded own (earned liqPool)
    (show earned liqPool { deposit with
      accumulatedClaimedRewards := deposit.accumulatedClaimedRewards + reward
      updatedAt := period } = _ from rfl)
  have booked := tally_insert recorded own Deposit.accumulatedClaimedRewards
    { deposit with
      accumulatedClaimedRewards := deposit.accumulatedClaimedRewards + reward
      updatedAt := period }
  refine ⟨paid ▸ before, ?_, ?_, ?_⟩
  · rw [kept, paid]
    exact entitled
  · rw [kept, terms.rewardCurrency]
    dsimp only at booked
    omega
  · refine AList.forall_lookup_insert ?_ ?_
    · intro _
      exact ClaimsCovered.of_paid checked loyal total
    · intro other otherDeposit _ stored
      exact claimed other otherDeposit stored

/-- A deposit leaves with what it earned. -/
theorem PoolReserved.leave (lawful : cfg.math.Lawful)
    (reserved : PoolReserved cfg s.ledger globalPool liqPool s.depositData)
    {unclaimable : ℕ} {refunded : Currencies}
    (terms : SameTerms globalPool globalPool')
    (paid : globalPool'.paidAccumulatedRewards = globalPool.paidAccumulatedRewards)
    (apart : globalPool.id ≠ liqPool.id) (own : poolIdOf nftId = liqPool.id)
    (recorded : s.depositData.lookup nftId = some deposit)
    (leftover : unclaimable = 0 ∨ ∃ claimed reward loyalty,
      cfg.math.calculateUserReward deposit.accumulatedRpvs deposit.valuedShares claimed
          liqPool.accumulatedRpvs loyalty = some (reward, unclaimable) ∧
        deposit.accumulatedClaimedRewards = claimed + reward)
    (refund : s.ledger.transfer globalPool.rewardCurrency (.palletSubAccount liqPool.id)
      (.palletSubAccount globalPool.id) unclaimable = some refunded)
    (funds : ∀ currency, refunded.free (.palletSubAccount liqPool.id) currency ≤
      t.ledger.free (.palletSubAccount liqPool.id) currency)
    (deposits : t.depositData = s.depositData.erase nftId) (id : liqPool'.id = liqPool.id)
    (rpvs : liqPool'.accumulatedRpvs = liqPool.accumulatedRpvs)
    (curve : liqPool'.loyaltyCurve = liqPool.loyaltyCurve) :
    PoolReserved cfg t.ledger globalPool' liqPool' t.depositData := by
  have same := earned_congr rpvs
  have sent := Ledger.free_transfer_sender refund
    (fun found => apart (AccountId.palletSubAccount.inj found).symm)
  have within := (reserved.claimed _ _ recorded own).le_earned
  have erasedEarned := tally_erase recorded own (earned liqPool)
  have erasedClaimed := tally_erase recorded own Deposit.accumulatedClaimedRewards
  have rest : unclaimable ≤ earned liqPool deposit - deposit.accumulatedClaimedRewards := by
    obtain rfl | ⟨claimed, reward, loyalty, priced, total⟩ := leftover
    · exact Nat.zero_le _
    · obtain ⟨-, loyal, spare⟩ := lawful.userReward priced
      rw [total, loyal]
      exact spare.le
  obtain ⟨before, entitled, covered, claimed⟩ := reserved
  have kept := funds globalPool.rewardCurrency
  rw [deposits]
  refine ⟨?_, ?_, ?_, ?_⟩
  · rw [rpvs, paid]
    exact before
  · rw [id, same, paid]
    omega
  · rw [id, same, terms.rewardCurrency]
    omega
  · refine AList.forall_lookup_erase ?_
    intro other otherDeposit _ stored mine
    rw [id] at mine
    exact (claimed other otherDeposit stored mine).mono curve (by rw [same])

/-- Every change of a pool leaves its account covering its deposits. -/
theorem PoolReserved.change (checked : cfg.math.Checked)
    (consistent : Consistent cfg s.blockNumber s.toStorage)
    (tallied : PoolTallied liqPool s.depositData)
    (reserved : PoolReserved cfg s.ledger globalPool liqPool s.depositData)
    (farm : s.globalPoolData.lookup slot.1 = some globalPool)
    (pool : s.liquidityPoolData.lookup slot = some liqPool)
    (terms : SameTerms globalPool globalPool') (move : Move cfg s kind t)
    (change : PoolChange cfg s t slot globalPool globalPool' liqPool kind liqPool')
    (outside : kind ≠ .createFarm (.palletSubAccount liqPool.id)) :
    PoolReserved cfg t.ledger globalPool' liqPool' t.depositData := by
  have apart : globalPool.id ≠ liqPool.id := by
    rw [(consistent.farms _ _ farm).id]
    exact (consistent.liqPool_ne_farm pool farm).symm
  have funds := pool_keeps consistent move outside pool
  cases change with
  | idle untouched steady members =>
      exact reserved.keep terms steady.paid rfl rfl rfl members
        (funds (fun _ _ => untouched) (fun _ _ => untouched)
          (fun removing => untouched (by rw [removing]; rfl)))
  | accrue later rate capped booked farm' deposits =>
      have paid : globalPool'.paidAccumulatedRewards =
          globalPool.paidAccumulatedRewards + 0 := by
        rw [farm']
        rfl
      exact reserved.keep terms paid rfl rfl rfl (deposits ▸ .refl _ _)
        (funds nofun nofun nofun)
  | forfeit steady deposits =>
      exact reserved.keep terms steady.paid rfl rfl rfl (deposits ▸ .refl _ _)
        (funds nofun nofun nofun)
  | update weighed steady deposits =>
      exact reserved.keep terms steady.paid rfl rfl rfl (deposits ▸ .refl _ _)
        (funds nofun nofun nofun)
  | cancel steady deposits =>
      exact reserved.keep terms steady.paid rfl rfl rfl (deposits ▸ .refl _ _)
        (funds nofun nofun nofun)
  | resume weighed steady deposits =>
      exact reserved.keep terms steady.paid rfl rfl rfl (deposits ▸ .refl _ _)
        (funds nofun nofun nofun)
  | enter own fresh weighed active steady deposits =>
      exact reserved.enter terms steady.paid own fresh deposits rfl rfl rfl
        (funds nofun nofun nofun)
  | collect gained booked moved steady deposits =>
      exact reserved.collect checked.toLawful tallied terms steady.paid apart booked moved
        deposits rfl rfl rfl
  | pay own recorded loyal priced moved steady deposits =>
      exact reserved.pay checked terms steady.paid own recorded loyal priced moved deposits
  | leave own recorded released leftover refund kept steady deposits =>
      exact reserved.leave checked.toLawful terms steady.paid apart own recorded leftover
        refund kept deposits rfl rfl rfl

/-- The accounts of all pools cover their deposits. -/
structure Reserved (cfg : Config) (s : State) : Prop extends Kept cfg s where
  pools : ∀ slot globalPool liqPool, s.globalPoolData.lookup slot.1 = some globalPool →
    s.liquidityPoolData.lookup slot = some liqPool →
    PoolReserved cfg s.ledger globalPool liqPool s.depositData

theorem JustAdded.reserved (added : JustAdded s t kind liqPool')
    (consistent : Consistent cfg s.blockNumber s.toStorage) :
    PoolReserved cfg t.ledger globalPool' liqPool' t.depositData := by
  have empty : ∀ weight, tally liqPool'.id weight t.depositData = 0 :=
    fun weight => tally_eq_zero fun _ _ recorded => added.no_deposits consistent recorded
  refine ⟨?_, ?_, ?_, ?_⟩
  · obtain ⟨_, _, _, rfl⟩ := added.record
    exact Nat.zero_le _
  · rw [empty]
    exact Nat.zero_le _
  · rw [empty]
    exact Nat.zero_le _
  · intro nftId deposit recorded own
    exact absurd own (added.no_deposits consistent recorded)

theorem Reserved.move (checked : cfg.math.Checked) (reserved : Reserved cfg s)
    (move : Move cfg s kind t) (obeyed : MoveObeys cfg reserveRules s kind) :
    Reserved cfg t := by
  refine ⟨reserved.toKept.move checked.toLawful move (obeyed _ (by decide)), ?_⟩
  intro slot globalPool' liqPool' farm pool
  obtain added | ⟨globalPool, liqPool, stored, before, terms, change⟩ :=
    changed_of_move reserved.consistent (reserved.own.at slot) move farm pool
  · exact added.reserved reserved.consistent
  · refine (reserved.pools _ _ _ stored before).change checked reserved.consistent
      (reserved.tallied _ _ before) stored before terms move change ?_
    rintro rfl
    exact obeyed .outsideOwner (by decide) (AccountId.isPallet_palletSubAccount _)

theorem reserved_of_moves (checked : cfg.math.Checked)
    (reachable : ReachableUnder (Initial cfg) (Move cfg) (MoveObeys cfg reserveRules) s) :
    Reserved cfg s := by
  refine ReachableUnder.invariant (Reserved cfg) ?_ ?_ reachable
  · intro s initial
    refine ⟨initial.kept, ?_⟩
    intro slot globalPool liqPool farm
    rw [initial.globalPoolData] at farm
    exact absurd farm nofun
  · intro s kind t reserved obeyed move
    exact reserved.move checked move obeyed

end Reserves

/-- The call adds a pool in the slot. -/
def Label.adds (cfg : Config) (slot : Slot) : Label → Bool
  | .call (.addLiquidityPool _ farmId assetPair _ _) => (farmId, cfg.getPairId assetPair) = slot
  | _ => false

/-- At most one pool was ever added in the slot. -/
def UsedOnce (cfg : Config) (slot : Slot) (past : List (State × Label)) : Prop :=
  past.countP (fun event => event.2.adds cfg slot) ≤ 1

/-- While there was a pool in the slot, no farm was created on behalf of the account of
the pool `liqPoolId`. -/
def OwnsNoFarm (slot : Slot) (liqPoolId : ℕ) (past : List (State × Label)) : Prop :=
  ∀ event ∈ past, (event.1.liquidityPoolData.lookup slot).isSome = true →
    event.2.owner ≠ some (.palletSubAccount liqPoolId)

/-- The pool in one slot agrees with its deposits. -/
structure SlotTallied (cfg : Config) (slot : Slot) (s : State) : Prop where
  own : OwnSlot cfg s slot
  tallied : ∀ liqPool, s.liquidityPoolData.lookup slot = some liqPool →
    PoolTallied liqPool s.depositData

/-- The account of the pool in the slot covers its deposits if the pool is `spared`. -/
structure SlotReserved (cfg : Config) (slot : Slot) (spared : ℕ → Prop) (s : State) : Prop
    extends SlotTallied cfg slot s where
  pools : ∀ globalPool liqPool, s.globalPoolData.lookup slot.1 = some globalPool →
    s.liquidityPoolData.lookup slot = some liqPool → spared liqPool.id →
    PoolReserved cfg s.ledger globalPool liqPool s.depositData

section OneSlot

variable {cfg : Config} {s t u : State} {kind : MoveKind} {label : Label} {slot : Slot}
variable {spared : ℕ → Prop} {past : List (State × Label)}

theorem SlotTallied.move (lawful : cfg.math.Lawful)
    (consistent : Consistent cfg s.blockNumber s.toStorage)
    (tallied : SlotTallied cfg slot s) (move : Move cfg s kind t)
    (unused : kind.Adds cfg slot → SlotUnused cfg s slot) : SlotTallied cfg slot t := by
  refine ⟨tallied.own.move move unused, ?_⟩
  intro liqPool' pool
  obtain ⟨globalPool', farm⟩ := ((consistent.move move).pools _ _ pool).farm
  obtain added | ⟨globalPool, liqPool, -, before, -, change⟩ :=
    changed_of_move consistent tallied.own move farm pool
  · exact added.tallied consistent
  · exact (tallied.tallied _ before).change lawful change

theorem SlotReserved.move (checked : cfg.math.Checked)
    (consistent : Consistent cfg s.blockNumber s.toStorage)
    (reserved : SlotReserved cfg slot spared s) (move : Move cfg s kind t)
    (unused : kind.Adds cfg slot → SlotUnused cfg s slot)
    (outside : ∀ liqPool, s.liquidityPoolData.lookup slot = some liqPool →
      spared liqPool.id → kind ≠ .createFarm (.palletSubAccount liqPool.id)) :
    SlotReserved cfg slot spared t := by
  refine ⟨reserved.toSlotTallied.move checked.toLawful consistent move unused, ?_⟩
  intro globalPool' liqPool' farm pool isSpared
  obtain added | ⟨globalPool, liqPool, stored, before, terms, change⟩ :=
    changed_of_move consistent reserved.own move farm pool
  · exact added.reserved consistent
  · rw [change.id] at isSpared
    exact (reserved.pools _ _ stored before isSpared).change checked consistent
      (reserved.tallied _ before) stored before terms move change
      (outside _ before isSpared)

/-- What every move of a step keeps, the step keeps. -/
theorem Path.invariant (holds : State → Prop)
    (consistent : Consistent cfg s.blockNumber s.toStorage) (path : Path cfg s label s t)
    (start : holds s)
    (kept : ∀ u kind v, Consistent cfg u.blockNumber u.toStorage → holds u →
      Inherits cfg s label u kind → Move cfg u kind v → holds v) : holds t := by
  have along : Consistent cfg t.blockNumber t.toStorage ∧ holds t := by
    induction path with
    | refl => exact ⟨consistent, start⟩
    | tail _ moved ih =>
        obtain ⟨kind, inherits, move⟩ := moved
        exact ⟨ih.1.move move, kept _ _ _ ih.1 ih.2 inherits move⟩
  exact along.2

/-- A call that adds a pool in an unused slot does so where the slot is still unused. -/
theorem Inherits.unused (inherits : Inherits cfg s label u kind)
    (fresh : label.adds cfg slot = true → SlotUnused cfg s slot) (adds : kind.Adds cfg slot) :
    SlotUnused cfg u slot := by
  obtain ⟨farmId, assetPair, rfl, rfl⟩ := adds
  obtain ⟨who, multiplier, loyaltyCurve, rfl⟩ := inherits.origin
  exact inherits.rules .unusedSlot (fresh (decide_eq_true rfl))

/-- Only adding a pool in the slot uses it. -/
theorem SlotUnused.move (unused : SlotUnused cfg s slot) (move : Move cfg s kind t)
    (elsewhere : ¬ kind.Adds cfg slot) : SlotUnused cfg t slot := by
  intro liqPoolId metadata known place
  obtain ⟨old, before, pair, farmId⟩ | ⟨farmId, assetPair, rfl, -, rfl⟩ :=
    metadata_origin move known
  · apply unused _ _ before
    rw [← place]
    unfold Metadata.slot
    rw [pair, farmId]
  · exact elsewhere ⟨farmId, assetPair, rfl, place.symm⟩

theorem Inherits.elsewhere (inherits : Inherits cfg s label u kind)
    (none : label.adds cfg slot = false) : ¬ kind.Adds cfg slot := by
  rintro ⟨farmId, assetPair, rfl, rfl⟩
  obtain ⟨who, multiplier, loyaltyCurve, rfl⟩ := inherits.origin
  exact absurd rfl (of_decide_eq_false none)

theorem SlotUnused.path (consistent : Consistent cfg s.blockNumber s.toStorage)
    (unused : SlotUnused cfg s slot) (path : Path cfg s label s t)
    (none : label.adds cfg slot = false) : SlotUnused cfg t slot := by
  refine path.invariant (SlotUnused cfg · slot) consistent unused ?_
  intro u kind v _ unused inherits move
  exact unused.move move (inherits.elsewhere none)

/-- The moves of one step that adds a pool only where the slot is unused. -/
theorem SlotTallied.path (lawful : cfg.math.Lawful)
    (consistent : Consistent cfg s.blockNumber s.toStorage)
    (tallied : SlotTallied cfg slot s) (path : Path cfg s label s t)
    (fresh : label.adds cfg slot = true → SlotUnused cfg s slot) : SlotTallied cfg slot t := by
  refine path.invariant (SlotTallied cfg slot) consistent tallied ?_
  intro u kind v consistent tallied inherits move
  exact tallied.move lawful consistent move (inherits.unused fresh)

/-- The moves of one step that, moreover, does not take from the account of a spared pool. -/
theorem SlotReserved.path (checked : cfg.math.Checked)
    (consistent : Consistent cfg s.blockNumber s.toStorage)
    (reserved : SlotReserved cfg slot spared s) (path : Path cfg s label s t)
    (fresh : label.adds cfg slot = true → SlotUnused cfg s slot)
    (outside : ∀ liqPoolId, (s.liquidityPoolData.lookup slot).isSome = true →
      spared liqPoolId → label.owner ≠ some (.palletSubAccount liqPoolId)) :
    SlotReserved cfg slot spared t := by
  -- a pool in the slot was there before the step, unless the step adds it
  let stayed (u : State) : Prop := label.adds cfg slot = false →
    (u.liquidityPoolData.lookup slot).isSome = true →
      (s.liquidityPoolData.lookup slot).isSome = true
  have along : SlotReserved cfg slot spared t ∧ stayed t := by
    refine path.invariant (fun u => SlotReserved cfg slot spared u ∧ stayed u) consistent
      ⟨reserved, fun _ stays => stays⟩ ?_
    rintro u kind v consistent ⟨reserved, stayed⟩ inherits move
    constructor
    · apply reserved.move checked consistent move (inherits.unused fresh)
      rintro liqPool pool isSpared rfl
      obtain ⟨_, _, _, _, _, _, rfl⟩ := inherits.origin
      exact outside _ (stayed rfl (Option.isSome_iff_exists.mpr ⟨_, pool⟩)) isSpared rfl
    · intro none stays
      obtain ⟨liqPool, pool⟩ := Option.isSome_iff_exists.mp stays
      obtain ⟨old, stored, -⟩ | ⟨farmId, assetPair, rfl, place, -, -⟩ :=
        liqPool_origin move pool
      · exact stayed none (Option.isSome_iff_exists.mpr ⟨_, stored⟩)
      · exact absurd ⟨_, _, rfl, place⟩ (inherits.elsewhere none)
  exact along.1

theorem SlotReserved.mono {fewer : ℕ → Prop} (reserved : SlotReserved cfg slot spared s)
    (implied : ∀ liqPoolId, fewer liqPoolId → spared liqPoolId) :
    SlotReserved cfg slot fewer s :=
  ⟨reserved.toSlotTallied, fun _ _ farm pool isSpared =>
    reserved.pools _ _ farm pool (implied _ isSpared)⟩

/-- A slot is unused until a pool is added in it. -/
theorem slotUnused_of_run (run : Run (Initial cfg) (Step cfg) past s)
    (never : past.countP (fun event => event.2.adds cfg slot) = 0) : SlotUnused cfg s slot := by
  induction run with
  | start initial =>
      intro liqPoolId metadata known
      rw [initial.liquidityPoolMetadata] at known
      exact absurd known nofun
  | extend prior taken ih =>
      have consistent := consistent_of_reachable ⟨_, prior⟩
      rw [List.countP_cons] at never
      obtain ⟨before, now⟩ := Nat.add_eq_zero_iff.mp never
      apply (ih before).path consistent (path_of_step consistent taken)
      simpa using now

/-- Before a pool was added in a slot used once, the slot was unused. -/
theorem UsedOnce.unused {event : State × Label} (run : Run (Initial cfg) (Step cfg) past s)
    (once : UsedOnce cfg slot (event :: past)) (adds : event.2.adds cfg slot = true) :
    SlotUnused cfg s slot := by
  apply slotUnused_of_run run
  rw [UsedOnce, List.countP_cons, if_pos adds] at once
  omega

theorem UsedOnce.before {event : State × Label} (once : UsedOnce cfg slot (event :: past)) :
    UsedOnce cfg slot past := by
  rw [UsedOnce, List.countP_cons] at once
  exact (Nat.le_add_right _ _).trans once

/-- If a pool is added in a slot once, it agrees with its deposits. -/
theorem slotTallied_of_run (lawful : cfg.math.Lawful)
    (run : Run (Initial cfg) (Step cfg) past s) (once : UsedOnce cfg slot past) :
    SlotTallied cfg slot s := by
  induction run with
  | start initial => exact ⟨initial.kept.own.at slot, initial.kept.tallied slot⟩
  | extend prior taken ih =>
      have consistent := consistent_of_reachable ⟨_, prior⟩
      exact (ih once.before).path lawful consistent (path_of_step consistent taken)
        (once.unused prior)

/-- If, moreover, no farm is created on its behalf, its account covers its deposits. -/
theorem slotReserved_of_run (checked : cfg.math.Checked)
    (run : Run (Initial cfg) (Step cfg) past s) (once : UsedOnce cfg slot past) :
    SlotReserved cfg slot (OwnsNoFarm slot · past) s := by
  induction run with
  | start initial =>
      refine ⟨⟨initial.kept.own.at slot, initial.kept.tallied slot⟩, ?_⟩
      intro globalPool liqPool farm
      rw [initial.globalPoolData] at farm
      exact absurd farm nofun
  | @extend past s t label prior taken ih =>
      have consistent := consistent_of_reachable ⟨_, prior⟩
      have earlier : ∀ liqPoolId, OwnsNoFarm slot liqPoolId ((s, label) :: past) →
          OwnsNoFarm slot liqPoolId past :=
        fun _ owns event member => owns event (List.mem_cons_of_mem _ member)
      apply ((ih once.before).mono earlier).path checked consistent
        (path_of_step consistent taken) (once.unused prior)
      intro liqPoolId stays owns
      exact owns _ List.mem_cons_self stays

/-- Paying a deposit does not fail for lack of funds, and leaves what it forfeits. -/
theorem doClaimRewards_covered (lawful : cfg.math.Lawful) {globalPool : GlobalPool}
    {liqPool : LiquidityPoolYieldFarm} {deposits : AList fun _ : ℕ => Deposit}
    {deposit : Deposit} {nftId : ℕ}
    (reserved : PoolReserved cfg s.ledger globalPool liqPool deposits)
    (recorded : deposits.lookup nftId = some deposit) (own : poolIdOf nftId = liqPool.id)
    (key now : ℕ) :
    doClaimRewards cfg s (.signer key) deposit liqPool now globalPool.rewardCurrency ≠
        .error .currency ∧
      ∀ s' deposit' reward unclaimable,
        doClaimRewards cfg s (.signer key) deposit liqPool now globalPool.rewardCurrency =
          .ok (s', deposit', reward, unclaimable) →
        unclaimable ≤
          s'.ledger.free (.palletSubAccount liqPool.id) globalPool.rewardCurrency := by
  constructor
  · change Avoids Error.currency _
    simp only [doClaimRewards, avoids_bind, avoids_okOr, reduceCtorEq, false_imp_iff, true_and]
    intro periods _
    split_ifs with paid
    · exact avoids_return
    · simp only [avoids_bind, avoids_okOr, avoids_ensure, avoids_return, reduceCtorEq,
        false_imp_iff, true_and, okOr_eq_ok, poolAccountId, validatePoolId, bind_eq_ok,
        return_eq_ok, State.transfer, implies_true, and_true]
      constructor
      · intro failed
        cases getLoyaltyMultiplier_error failed
      · rintro loyalty loyal ⟨reward, unclaimable⟩ priced _ _ _ ⟨_, -, rfl⟩ _
        have payable := reserved.payable lawful recorded own loyal priced
        apply Option.isSome_iff_ne_none.mp
        apply Ledger.transfer_isSome_iff.mpr
        dsimp only
        omega
  · intro s' deposit' reward unclaimable claimed
    obtain ⟨-, ⟨-, -, -, -, rfl⟩ | ⟨loyalty, ledger, -, loyal, priced, moved, rfl, -⟩⟩ :=
      doClaimRewards_ok claimed
    · exact Nat.zero_le _
    · have payable := reserved.payable lawful recorded own loyal priced
      have sent := Ledger.free_transfer_sender moved (by simp)
      dsimp only
      omega

/-- The account of a pool whose slot was never used before covers what its deposits
earned and were not paid, none of them was paid more than it earned, and settling one of
them never lacks the funds to pay it or to return to the farm what it forfeits. -/
theorem pool_pays_deposits (checked : cfg.math.Checked)
    (run : Run (Initial cfg) (Step cfg) past s) {slot : Slot} {globalPool : GlobalPool}
    {liqPool : LiquidityPoolYieldFarm}
    (farm : s.globalPoolData.lookup slot.1 = some globalPool)
    (pool : s.liquidityPoolData.lookup slot = some liqPool) (once : UsedOnce cfg slot past)
    (owns : OwnsNoFarm slot liqPool.id past) :
    tally liqPool.id (fun deposit => earned liqPool deposit - deposit.accumulatedClaimedRewards)
        s.depositData ≤
      s.ledger.free (.palletSubAccount liqPool.id) globalPool.rewardCurrency ∧
    (∀ nftId deposit, s.depositData.lookup nftId = some deposit →
      poolIdOf nftId = liqPool.id →
      deposit.accumulatedRpvs ≤ liqPool.accumulatedRpvs ∧
        deposit.accumulatedClaimedRewards ≤ earned liqPool deposit) ∧
    ∀ nftId metadata deposit key s' globalPool' liqPool',
      s.liquidityPoolMetadata.lookup (poolIdOf nftId) = some metadata →
      metadata.slot cfg = slot → s.depositData.lookup nftId = some deposit →
      maybeUpdatePools cfg s globalPool liqPool (s.period globalPool) =
        .ok (s', globalPool', liqPool') →
      doClaimRewards cfg s' (.signer key) deposit liqPool' (s.period globalPool)
          globalPool'.rewardCurrency ≠ .error .currency ∧
        ∀ s'' deposit' reward unclaimable,
          doClaimRewards cfg s' (.signer key) deposit liqPool' (s.period globalPool)
            globalPool'.rewardCurrency = .ok (s'', deposit', reward, unclaimable) →
          (s''.ledger.transfer globalPool'.rewardCurrency (.palletSubAccount liqPool'.id)
            (.palletSubAccount globalPool'.id) unclaimable).isSome = true := by
  have consistent := consistent_of_reachable ⟨past, run⟩
  have atSlot := slotReserved_of_run checked run once
  have tallied := atSlot.tallied _ pool
  have reserved := atSlot.pools _ _ farm pool owns
  have within : ∀ nftId deposit, s.depositData.lookup nftId = some deposit →
      poolIdOf nftId = liqPool.id →
      deposit.accumulatedClaimedRewards ≤ earned liqPool deposit :=
    fun nftId deposit recorded own => (reserved.claimed nftId deposit recorded own).le_earned
  refine ⟨?_, ?_, ?_⟩
  · have covered := reserved.covered
    have split := tally_sub within
    omega
  · intro nftId deposit recorded own
    exact ⟨tallied.behind nftId deposit recorded own, within nftId deposit recorded own⟩
  · rintro nftId metadata deposit key s' globalPool' liqPool' known rfl recorded updated
    obtain ⟨farms, pools, settled⟩ := settled_of_maybeUpdatePools
      (.call (.claimRewards key nftId)) (metadata.slot cfg) farm pool
      (funded_of_claimRewards known) updated
    have later := atSlot.path checked consistent settled.path
      (by simp [Label.adds]) (by simp [Label.owner])
    have kept : liqPool'.id = liqPool.id := by
      obtain ⟨_, _, _, rfl⟩ := settled.poolKept
      rfl
    have unmoved : s'.liquidityPoolMetadata.lookup (poolIdOf nftId) = some metadata ∧
        s'.depositData.lookup nftId = some deposit := by
      obtain ⟨_, _, rfl⟩ := settled.shape
      exact ⟨known, recorded⟩
    have own : poolIdOf nftId = liqPool'.id :=
      (later.own _ _ _ unmoved.1 rfl settled.pool).symm
    have covered : PoolReserved cfg s'.ledger globalPool' liqPool' s'.depositData :=
      later.pools _ _ settled.farm settled.pool (kept ▸ owns)
    obtain ⟨pays, spare⟩ := doClaimRewards_covered checked.toLawful covered unmoved.2 own
      key (s.period globalPool)
    refine ⟨pays, ?_⟩
    intro s'' deposit' reward unclaimable claimed
    exact Ledger.transfer_isSome_iff.mpr (spare _ _ _ _ claimed)

instance (slot : Slot) (past : List (State × Label)) : Decidable (UsedOnce cfg slot past) :=
  inferInstanceAs (Decidable (_ ≤ 1))

instance (slot : Slot) (liqPoolId : ℕ) (past : List (State × Label)) :
    Decidable (OwnsNoFarm slot liqPoolId past) :=
  inferInstanceAs (Decidable (∀ event ∈ past,
    (event.1.liquidityPoolData.lookup slot).isSome = true →
      event.2.owner ≠ some (.palletSubAccount liqPoolId)))

/-- Two deposits, one of them paid: the account covers what the other one earned. -/
theorem pool_pays_deposits_earned :
    ∃ past s liqPool, simulateRecording [.blocks 100, .call (.depositShares 2 1 ⟨1, 2⟩ 500),
        .blocks 100, .call (.claimRewards 1 (encodeNftId 2 1))] = .ok (past, s) ∧
      s.liquidityPoolData.lookup (1, Xyk.getPairId ⟨1, 2⟩) = some liqPool ∧
      tally liqPool.id (fun deposit =>
          earned liqPool deposit - deposit.accumulatedClaimedRewards) s.depositData ≠ 0 ∧
      tally liqPool.id (fun deposit =>
          earned liqPool deposit - deposit.accumulatedClaimedRewards) s.depositData ≤
        s.ledger.free (.palletSubAccount liqPool.id) 7 := by
  have computed : succeedsWith
      (simulateRecording [.blocks 100, .call (.depositShares 2 1 ⟨1, 2⟩ 500), .blocks 100,
        .call (.claimRewards 1 (encodeNftId 2 1))])
      (fun (past, s) =>
        ((s.globalPoolData.lookup 1).any fun globalPool => globalPool.rewardCurrency = 7) &&
        ((s.liquidityPoolData.lookup (1, Xyk.getPairId ⟨1, 2⟩)).any fun liqPool =>
          decide (OwnsNoFarm (1, Xyk.getPairId ⟨1, 2⟩) liqPool.id past) &&
          decide (tally liqPool.id (fun deposit =>
            earned liqPool deposit - deposit.accumulatedClaimedRewards) s.depositData ≠ 0)) &&
        decide (UsedOnce .reference (1, Xyk.getPairId ⟨1, 2⟩) past)) = true := by
    decide +kernel
  simp only [succeedsWith_iff, Bool.and_eq_true, Option.any_eq_true, decide_eq_true_eq]
    at computed
  obtain ⟨⟨past, s⟩, run, ⟨⟨globalPool, farm, currency⟩, liqPool, pool, owns, unpaid⟩, once⟩ :=
    computed
  have covered := (pool_pays_deposits Math.reference_checked (run_of_simulate run) farm pool
    once owns).1
  rw [currency] at covered
  exact ⟨past, s, liqPool, run, pool, unpaid, covered⟩

/-- A farm is created on behalf of the account of a pool, which pays for it with what
it owes its deposit. -/
theorem pool_does_not_pay_deposits :
    ¬ ∀ cfg past s, cfg.math.Checked → Run (Initial cfg) (Step cfg) past s →
      ∀ slot globalPool liqPool, s.globalPoolData.lookup slot.1 = some globalPool →
        s.liquidityPoolData.lookup slot = some liqPool → UsedOnce cfg slot past →
        tally liqPool.id (fun deposit =>
            earned liqPool deposit - deposit.accumulatedClaimedRewards) s.depositData ≤
          s.ledger.free (.palletSubAccount liqPool.id) globalPool.rewardCurrency := by
  intro claim
  have computed : succeedsWith
      (simulateRecording [.blocks 1000,
        .call (.updateLiquidityPool 0 1 ⟨1, 2⟩ FixedU128.one),
        .call (.createFarm (10 ^ 15) 100 10 1 7 (.palletSubAccount 2) ⟨10 ^ 6, le_rfl⟩)])
      (fun (past, s) =>
        ((s.globalPoolData.lookup 1).any fun globalPool => globalPool.rewardCurrency = 7) &&
        ((s.liquidityPoolData.lookup (1, Xyk.getPairId ⟨1, 2⟩)).any fun liqPool =>
          decide (s.ledger.free (.palletSubAccount liqPool.id) 7 <
            tally liqPool.id (fun deposit =>
              earned liqPool deposit - deposit.accumulatedClaimedRewards) s.depositData)) &&
        decide (UsedOnce .reference (1, Xyk.getPairId ⟨1, 2⟩) past)) = true := by
    decide +kernel
  simp only [succeedsWith_iff, Bool.and_eq_true, Option.any_eq_true, decide_eq_true_eq]
    at computed
  obtain ⟨⟨past, s⟩, run, ⟨⟨globalPool, farm, currency⟩, liqPool, pool, short⟩, once⟩ := computed
  have covered := claim .reference past s Math.reference_checked (run_of_simulate run)
    (1, Xyk.getPairId ⟨1, 2⟩) globalPool liqPool farm pool once
  rw [currency] at covered
  exact absurd covered short.not_ge

end OneSlot

end Basilisk.LiquidityMining
