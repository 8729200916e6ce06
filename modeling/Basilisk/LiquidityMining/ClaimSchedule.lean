/-
# When a deposit is claimed does not matter

`do_claim_rewards` does not move the checkpoint of a deposit.  It pays what the
loyalty multiplier allows of everything the deposit earned since it entered, less
what it was paid before.  Claims at any number of later and later periods
therefore telescope: none of them has to take back what an earlier one paid, and
together they pay, out of the account of the pool, what the last one would have
paid alone.
-/

import Basilisk.LiquidityMining.Reserves
import Mathlib.Data.List.Sort

namespace Basilisk.LiquidityMining

open Basilisk.Math

/-- A claim is made in some state and period, in which the reward per valued share of the pool
has reached some value. -/
structure Claim where
  state : State
  period : ℕ
  accumulatedRpvs : ℕ

/-- The pool as a claim finds it. -/
def Claim.pool (claim : Claim) (liqPool : LiquidityPoolYieldFarm) : LiquidityPoolYieldFarm :=
  { liqPool with accumulatedRpvs := claim.accumulatedRpvs }

/-- `do_claim_rewards` run for each claim on the deposit the one before left: the deposit at the
end, and the state each claim leaves with the reward it returns. -/
def claimEach (cfg : Config) (who : AccountId) (rewardCurrency : AssetId)
    (liqPool : LiquidityPoolYieldFarm) :
    Deposit → List Claim → Except Error (Deposit × List (State × ℕ))
  | deposit, [] => return (deposit, [])
  | deposit, claim :: later => do
      let (s', deposit, reward, _) ← doClaimRewards cfg claim.state who deposit
        (claim.pool liqPool) claim.period rewardCurrency
      let (deposit, payments) ← claimEach cfg who rewardCurrency liqPool deposit later
      return (deposit, (s', reward) :: payments)

/-- The rewards of all claims. -/
def totalPaid (payments : List (State × ℕ)) : ℕ := (payments.map Prod.snd).sum

/-- What a claim does to its state is to move the reward from the account of the pool to the
claimant. -/
def Claim.Pays (who : AccountId) (rewardCurrency : AssetId) (liqPool : LiquidityPoolYieldFarm)
    (claim : Claim) (payment : State × ℕ) : Prop :=
  claim.state.transfer rewardCurrency (.palletSubAccount liqPool.id) who payment.2 =
    .ok payment.1

section Schedule

variable {cfg : Config} {who : AccountId} {currency : AssetId}
variable {liqPool : LiquidityPoolYieldFarm} {deposit deposit' : Deposit}
variable {claim last : Claim} {earlier claims : List Claim} {s s' : State}

/-- What a claim in a period in which the deposit was not claimed before pays, and leaves of the
deposit. -/
theorem doClaimRewards_claimed (lawful : cfg.math.Lawful) {now reward unclaimable : ℕ}
    (unpaid : deposit.updatedAt < now)
    (claimed : doClaimRewards cfg s who deposit liqPool now currency =
      .ok (s', deposit', reward, unclaimable)) :
    s.transfer currency (.palletSubAccount liqPool.id) who reward = .ok s' ∧
    ∃ loyalty, getLoyaltyMultiplier cfg (now - deposit.enteredAt) liqPool.loyaltyCurve =
        .ok loyalty ∧
      deposit.accumulatedClaimedRewards + reward =
        FixedU128.mulInt loyalty (earned liqPool deposit) ∧
      deposit' = { deposit with
        accumulatedClaimedRewards := FixedU128.mulInt loyalty (earned liqPool deposit)
        updatedAt := now } := by
  obtain ⟨-, ⟨paid, -⟩ | ⟨loyalty, ledger, -, loyal, priced, moved, rfl, rfl⟩⟩ :=
    doClaimRewards_ok claimed
  · exact absurd paid unpaid.ne
  · obtain ⟨-, total, -⟩ := lawful.userReward priced
    change _ = FixedU128.mulInt loyalty (earned liqPool deposit) at total
    exact ⟨State.transfer_eq_ok.mpr ⟨ledger, moved, rfl⟩, loyalty, loyal, total, by rw [total]⟩

/-- Claims in later and later periods end as their last one alone does. -/
theorem claimEach_ok (lawful : cfg.math.Lawful) {payments : List (State × ℕ)}
    (periods : List.IsChain (· < ·) (deposit.updatedAt :: (earlier ++ [last]).map Claim.period))
    (claimed : claimEach cfg who currency liqPool deposit (earlier ++ [last]) =
      .ok (deposit', payments)) :
    List.Forall₂ (Claim.Pays who currency liqPool) (earlier ++ [last]) payments ∧
    ∃ loyalty, getLoyaltyMultiplier cfg (last.period - deposit.enteredAt)
        liqPool.loyaltyCurve = .ok loyalty ∧
      deposit.accumulatedClaimedRewards + totalPaid payments =
        FixedU128.mulInt loyalty (earned (last.pool liqPool) deposit) ∧
      deposit' = { deposit with
        accumulatedClaimedRewards :=
          FixedU128.mulInt loyalty (earned (last.pool liqPool) deposit)
        updatedAt := last.period } := by
  induction earlier generalizing deposit payments with
  | nil =>
      simp only [List.nil_append, List.map_cons, List.isChain_cons_cons] at periods
      simp only [List.nil_append, claimEach, bind_eq_ok, return_eq_ok, Prod.exists,
        Prod.mk.injEq] at claimed
      obtain ⟨s', _, reward, _, claimed, _, _, ⟨rfl, rfl⟩, rfl, rfl⟩ := claimed
      obtain ⟨moved, alone⟩ := doClaimRewards_claimed lawful periods.1 claimed
      exact ⟨.cons moved .nil, alone⟩
  | cons claim earlier ih =>
      simp only [List.cons_append, List.map_cons, List.isChain_cons_cons] at periods
      simp only [List.cons_append, claimEach, bind_eq_ok, return_eq_ok, Prod.exists,
        Prod.mk.injEq] at claimed
      obtain ⟨_, _, reward, _, claimed, _, payments, rest, rfl, rfl⟩ := claimed
      obtain ⟨moved, _, -, paid, rfl⟩ := doClaimRewards_claimed lawful periods.1 claimed
      -- the checkpoint and the entry of the deposit are those it had before
      obtain ⟨others, loyalty, loyal, total, rfl⟩ := ih periods.2 rest
      refine ⟨.cons moved others, loyalty, loyal, ?_, rfl⟩
      change _ = FixedU128.mulInt loyalty (earned (last.pool liqPool) deposit) at total
      change _ + (reward + totalPaid payments) = _
      dsimp only at total
      omega

/-- Claims in later and later periods stop only where the account of the pool does not hold
what the deposit earned. -/
theorem claimEach_error (checked : cfg.math.Checked)
    (defined : LoyaltyDefined cfg liqPool.loyaltyCurve)
    (numbered : liqPool.id ≠ 0) {reached : ℕ}
    (entered : deposit.enteredAt ≤ deposit.updatedAt)
    (periods : List.IsChain (· < ·) (deposit.updatedAt :: claims.map Claim.period))
    (behind : deposit.accumulatedRpvs ≤ reached)
    (growing : List.IsChain (· ≤ ·) (reached :: claims.map Claim.accumulatedRpvs))
    (fits : ∀ claim ∈ claims, earned (claim.pool liqPool) deposit < u128Bound)
    (covered : ClaimsCovered cfg { liqPool with accumulatedRpvs := reached } deposit)
    {e : Error} (stopped : claimEach cfg who currency liqPool deposit claims = .error e) :
    e = .currency ∧ ∃ claim ∈ claims,
      claim.state.ledger.free (.palletSubAccount liqPool.id) currency <
        earned (claim.pool liqPool) deposit := by
  induction claims generalizing deposit reached with
  | nil => exact absurd stopped nofun
  | cons claim later ih =>
      simp only [List.map_cons, List.isChain_cons_cons] at periods growing
      obtain ⟨loyalty, loyal⟩ := defined (claim.period - deposit.enteredAt)
      have more : earned { liqPool with accumulatedRpvs := reached } deposit ≤
          earned (claim.pool liqPool) deposit :=
        Nat.mul_le_mul_right _ (Nat.sub_le_sub_right growing.1 _)
      have covered : ClaimsCovered cfg (claim.pool liqPool) deposit := covered.mono rfl more
      have claimable := covered.allowed _ _ (Nat.sub_le_sub_right periods.1.le _) loyal
      have shrunk := FixedU128.mulInt_le_of_le_one
        (getLoyaltyMultiplier_le_one checked.toLawful loyal)
        (earned (claim.pool liqPool) deposit)
      have numbered' : (claim.pool liqPool).id ≠ 0 := numbered
      rw [claimEach, doClaimRewards_due checked numbered' (entered.trans periods.1.le)
        periods.1.ne (behind.trans growing.1) (fits claim List.mem_cons_self) loyal claimable,
        bind_map, bind_eq_error] at stopped
      rcases stopped with stopped | ⟨s', -, stopped⟩
      · obtain ⟨rfl, short⟩ := State.transfer_eq_error.mp stopped
        refine ⟨rfl, claim, List.mem_cons_self, ?_⟩
        exact short.trans_le ((Nat.sub_le _ _).trans shrunk)
      · simp only [bind_eq_error, return_ne_error, and_false, exists_false, or_false] at stopped
        have paid : ClaimsCovered cfg (claim.pool liqPool) { deposit with
            accumulatedClaimedRewards :=
              FixedU128.mulInt loyalty (earned (claim.pool liqPool) deposit)
            updatedAt := claim.period } := ClaimsCovered.of_paid checked loyal rfl
        have narrow : ∀ next ∈ later, earned (next.pool liqPool) deposit < u128Bound :=
          fun next among => fits next (List.mem_cons_of_mem _ among)
        obtain ⟨rfl, short, among, lacks⟩ := ih (by exact entered.trans periods.1.le) periods.2
          (by exact behind.trans growing.1) growing.2 (by exact narrow) paid stopped
        exact ⟨rfl, short, List.mem_cons_of_mem _ among, lacks⟩

/-- The schedule of the claims of a deposit does not matter.  Claims in later and later periods
fail only for lack of funds in the account of the pool.  Each of them moves its reward from that
account to the claimant, and together they pay, and leave of the deposit, what a claim in the
last of these periods alone would. -/
theorem claims_independent_of_schedule (checked : cfg.math.Checked)
    (defined : LoyaltyDefined cfg liqPool.loyaltyCurve)
    (numbered : liqPool.id ≠ 0) {shares valuedShares accumulatedRpvs enteredAt : ℕ}
    (periods : (enteredAt :: (earlier ++ [last]).map Claim.period).SortedLT)
    (growing : (accumulatedRpvs :: (earlier ++ [last]).map Claim.accumulatedRpvs).SortedLE)
    (fits : (last.accumulatedRpvs - accumulatedRpvs) * valuedShares < u128Bound) :
    let deposit := Deposit.new shares valuedShares accumulatedRpvs enteredAt
    (∀ e, claimEach cfg who currency liqPool deposit (earlier ++ [last]) = .error e →
      e = .currency ∧ ∃ claim ∈ earlier ++ [last],
        claim.state.ledger.free (.palletSubAccount liqPool.id) currency <
          (claim.accumulatedRpvs - accumulatedRpvs) * valuedShares) ∧
    ∀ deposit' payments,
      claimEach cfg who currency liqPool deposit (earlier ++ [last]) = .ok (deposit', payments) →
      List.Forall₂ (Claim.Pays who currency liqPool) (earlier ++ [last]) payments ∧
      (∃ loyalty, getLoyaltyMultiplier cfg (last.period - enteredAt) liqPool.loyaltyCurve =
          .ok loyalty ∧
        totalPaid payments = FixedU128.mulInt loyalty
          ((last.accumulatedRpvs - accumulatedRpvs) * valuedShares)) ∧
      deposit'.accumulatedClaimedRewards = totalPaid payments ∧
      ∀ s s' single reward unclaimable,
        doClaimRewards cfg s who deposit (last.pool liqPool) last.period currency =
          .ok (s', single, reward, unclaimable) →
        reward = totalPaid payments ∧ single = deposit' ∧
          s.transfer currency (.palletSubAccount liqPool.id) who reward = .ok s' := by
  intro deposit
  have inOrder := periods.isChain
  constructor
  · intro e stopped
    refine claimEach_error checked defined numbered le_rfl inOrder le_rfl growing.isChain ?_
      (.of_unpaid rfl) stopped
    intro claim among
    refine lt_of_le_of_lt (Nat.mul_le_mul_right _ (Nat.sub_le_sub_right ?_ _)) fits
    have sorted := List.pairwise_map.mp (List.pairwise_cons.mp growing.pairwise).2
    rcases List.mem_append.mp among with before | atEnd
    · exact (List.pairwise_append.mp sorted).2.2 claim before last List.mem_cons_self
    · rw [List.mem_singleton.mp atEnd]
      exact le_rfl
  · intro deposit' payments claimed
    obtain ⟨moved, loyalty, loyal, paid, rfl⟩ := claimEach_ok checked.toLawful inOrder claimed
    change 0 + totalPaid payments = _ at paid
    rw [Nat.zero_add] at paid
    refine ⟨moved, ⟨loyalty, loyal, paid⟩, paid.symm, ?_⟩
    intro s s' single reward unclaimable alone
    have later : deposit.updatedAt < last.period :=
      (List.pairwise_cons.mp periods.pairwise).1 _
        (List.mem_map_of_mem (List.mem_append_right _ List.mem_cons_self))
    obtain ⟨moved', loyalty', loyal', paid', rfl⟩ :=
      doClaimRewards_claimed checked.toLawful later alone
    obtain rfl := Except.ok.inj (loyal.symm.trans loyal')
    change 0 + reward = _ at paid'
    rw [Nat.zero_add] at paid'
    exact ⟨paid'.trans paid.symm, rfl, moved'⟩

/-- A pool with the id of the reference farm's, in which loyalty grows from a half. -/
def loyalPool : LiquidityPoolYieldFarm :=
  .new 2 0 (some ⟨FixedU128.one / 2, 10⟩) FixedU128.one

/-- Three claims of a deposit in this pool, and the last of them alone: both ways the claimant
gets the same. -/
theorem claims_independent_of_schedule_thrice :
    ∃ s s' deposit payments unclaimable, 0 < totalPaid payments ∧
      claimEach .reference (.signer 1) 7 loyalPool (.new 10 10 0 0)
        [⟨s, 1, 3⟩, ⟨s, 2, 4⟩, ⟨s, 5, 9⟩] = .ok (deposit, payments) ∧
      doClaimRewards .reference s (.signer 1) (.new 10 10 0 0)
        { loyalPool with accumulatedRpvs := 9 } 5 7 =
          .ok (s', deposit, totalPaid payments, unclaimable) ∧
      s'.ledger.free (.signer 1) 7 = s.ledger.free (.signer 1) 7 + totalPaid payments := by
  have computed : succeedsWith
      (do
        let s ← simulate [.blocks 100, .call (.updateLiquidityPool 0 1 ⟨1, 2⟩ FixedU128.one)]
        let thrice ← claimEach .reference (.signer 1) 7 loyalPool (.new 10 10 0 0)
          [⟨s, 1, 3⟩, ⟨s, 2, 4⟩, ⟨s, 5, 9⟩]
        let once ← doClaimRewards .reference s (.signer 1) (.new 10 10 0 0)
          { loyalPool with accumulatedRpvs := 9 } 5 7
        return (s, thrice, once))
      (fun result => 0 < totalPaid result.2.1.2) = true := by
    decide +kernel
  simp only [succeedsWith_iff, bind_eq_ok, return_eq_ok, Prod.exists, Prod.mk.injEq,
    decide_eq_true_eq] at computed
  obtain ⟨_, _, _, _, _, _, _, ⟨s, -, deposit, payments, thrice, s', single, reward, unclaimable,
    once, rfl, ⟨rfl, rfl⟩, rfl, rfl, rfl, rfl⟩, paid⟩ := computed
  have checked : Config.reference.math.Checked := Math.reference_checked
  have defined : LoyaltyDefined .reference loyalPool.loyaltyCurve :=
    loyaltyDefined_of_scaled checked (by decide +kernel) (by decide +kernel)
  let earlier : List Claim := [⟨s, 1, 3⟩, ⟨s, 2, 4⟩]
  let last : Claim := ⟨s, 5, 9⟩
  have periods : (0 :: (earlier ++ [last]).map Claim.period).SortedLT := by
    show [0, 1, 2, 5].SortedLT
    decide
  have growing : (0 :: (earlier ++ [last]).map Claim.accumulatedRpvs).SortedLE := by
    show [0, 3, 4, 9].SortedLE
    decide
  have fits : (last.accumulatedRpvs - 0) * 10 < u128Bound := by
    show 90 < u128Bound
    decide
  obtain ⟨-, -, -, agree⟩ := (claims_independent_of_schedule checked defined (by decide) periods
    growing fits).2 deposit payments thrice
  obtain ⟨rfl, rfl, moved⟩ := agree s s' single reward unclaimable once
  obtain ⟨ledger, sent, rfl⟩ := State.transfer_eq_ok.mp moved
  exact ⟨s, _, _, payments, unclaimable, paid, thrice, once,
    Ledger.free_transfer_receiver sent (by simp)⟩

end Schedule

end Basilisk.LiquidityMining
