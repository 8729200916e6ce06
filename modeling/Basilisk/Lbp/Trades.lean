/-
# How a trade settles

The fee of a trade is taken in the accumulated asset, whichever side of the trade that
asset is on, and `execute_trade` finds out who pays it by comparing asset ids.  A
validated trade always executes: the seller pays exactly what it asked to sell, the
buyer gets exactly what it asked to buy, the collector gets the fee, and nothing is
lost between the trader, the pool and the collector.
-/

import Basilisk.Lbp.Terms
import Basilisk.Lbp.Weights

namespace Basilisk.Lbp

open Basilisk.Math
open Basilisk.Xyk (AMMTransfer)

variable {cfg : Config} {s t : State} {pool : Pool} {who : AccountId} {assets : AssetPair}
variable {transfer : AMMTransfer} {amount limit computed : ℕ}

/-- What the pallet relies on in the formulas of a trade: the pool cannot be asked for all it
holds, and a fee is counted in full multiples of its denominator. -/
structure Math.TradesLawfully (math : Math) : Prop where
  inGivenOut {inReserve outReserve inWeight outWeight amount result : ℕ} :
    math.calculateInGivenOut inReserve outReserve inWeight outWeight amount = some result →
      amount < outReserve
  poolTradeFee {amount numerator denominator result : ℕ} :
    math.calculatePoolTradeFee amount (numerator, denominator) = some result →
      result = amount / denominator * numerator

theorem Math.reference_tradesLawfully : Math.reference.TradesLawfully where
  inGivenOut computed := by
    simp only [Math.reference, Prod.mk.injEq] at computed
    split_ifs at computed with tested refused
    · omega
    · omega
  poolTradeFee {amount numerator denominator result} computed := by
    simp only [Math.reference, Xyk.fitting_eq_some] at computed
    rw [← computed.2]
    split_ifs with zero
    · rw [zero, Nat.div_zero, Nat.zero_mul]
    · rfl

/-- The rate the fee of a trade is taken at. -/
def State.feeRate (s : State) (pool : Pool) : ℕ × ℕ :=
  if s.isRepayFeeApplied pool then repayFee else pool.fee

theorem calculateFees_eq (lawful : cfg.math.TradesLawfully) {fee : ℕ}
    (charged : calculateFees cfg s pool amount = .ok fee) :
    fee = amount / (s.feeRate pool).2 * (s.feeRate pool).1 :=
  lawful.poolTradeFee (okOr_eq_ok.mp charged)

/-- The trader pays `paid` and gets `received`, the collector gets the fee in the accumulated
asset unless it is the pool itself, and together with the pool they hold what they held. -/
structure Settled (s t : State) (pool : Pool) (who : AccountId) (assets : AssetPair)
    (paid received fee : ℕ) : Prop where
  trader : ∀ asset, t.ledger.free who asset + (if asset = assets.assetIn then paid else 0) =
    s.ledger.free who asset + (if asset = assets.assetOut then received else 0)
  collector : pool.feeCollector ≠ getPairId assets → ∀ asset,
    t.ledger.free pool.feeCollector asset = s.ledger.free pool.feeCollector asset +
      (if asset = pool.assets.1 then fee else 0)
  total : ∀ asset,
    ∑ account ∈ {who, getPairId assets, pool.feeCollector}, t.ledger.free account asset =
      ∑ account ∈ {who, getPairId assets, pool.feeCollector}, s.ledger.free account asset
  others : ∀ account, account ≠ who → account ≠ getPairId assets →
    account ≠ pool.feeCollector → ∀ asset,
      t.ledger.free account asset = s.ledger.free account asset

section Execution

/-- A trade executes if the trader and the pool are covered, each together with the fee if it
is the one to pay it. -/
theorem exists_executeTrade
    (stored : s.poolData.lookup (getPairId transfer.assets) = some pool)
    (feeAsset : transfer.fee.1 = pool.assets.1)
    (distinct : transfer.assets.assetIn ≠ transfer.assets.assetOut)
    (accumulated : transfer.assets.assetIn = pool.assets.1 ∨
      transfer.assets.assetOut = pool.assets.1)
    (notPool : transfer.origin ≠ getPairId transfer.assets)
    (trader : transfer.amount +
        (if pool.assets.1 = transfer.assets.assetIn then transfer.fee.2 else 0) ≤
      s.ledger.free transfer.origin transfer.assets.assetIn)
    (reserve : transfer.amountOut +
        (if pool.assets.1 = transfer.assets.assetIn then 0 else transfer.fee.2) ≤
      s.ledger.free (getPairId transfer.assets) transfer.assets.assetOut) :
    ∃ t, executeTrade s transfer = .ok t := by
  obtain ⟨mid, movedIn⟩ := Ledger.exists_transfer
    (show transfer.amount ≤ s.ledger.free transfer.origin transfer.assets.assetIn by omega)
    (getPairId transfer.assets)
  have reserveMid := Ledger.free_transfer_of_ne_currency movedIn (getPairId transfer.assets)
    distinct.symm
  obtain ⟨after, movedOut⟩ := Ledger.exists_transfer
    (show transfer.amountOut ≤ mid.free (getPairId transfer.assets) transfer.assets.assetOut by
      omega) transfer.origin
  have feeCovered : transfer.fee.2 ≤
      after.free (feePayer pool transfer.origin transfer.assets) pool.assets.1 := by
    unfold feePayer
    rcases accumulated with paidIn | paidOut
    · rw [if_pos paidIn, ← paidIn, Ledger.free_transfer_of_ne_currency movedOut _ distinct]
      have spent := Ledger.free_transfer_sender movedIn notPool
      rw [if_pos paidIn.symm] at trader
      omega
    · have notIn : transfer.assets.assetIn ≠ pool.assets.1 := paidOut ▸ distinct
      rw [if_neg notIn, ← paidOut]
      have spent := Ledger.free_transfer_sender movedOut notPool.symm
      rw [if_neg notIn.symm] at reserve
      omega
  obtain ⟨ledger, movedFee⟩ := Ledger.exists_transfer feeCovered pool.feeCollector
  exact ⟨_, (executeTrade_iff stored feeAsset).mpr
    ⟨mid, after, ledger, movedIn, movedOut, movedFee, rfl⟩⟩

/-- What the execution of a trade settles. -/
theorem executeTrade_settled
    (stored : s.poolData.lookup (getPairId transfer.assets) = some pool)
    (feeAsset : transfer.fee.1 = pool.assets.1)
    (notPool : transfer.origin ≠ getPairId transfer.assets)
    (notCollector : transfer.origin ≠ pool.feeCollector)
    (executed : executeTrade s transfer = .ok t) :
    Settled s t pool transfer.origin transfer.assets
      (transfer.amount + if pool.assets.1 = transfer.assets.assetIn then transfer.fee.2 else 0)
      transfer.amountOut transfer.fee.2 := by
  obtain ⟨mid, after, ledger, movedIn, movedOut, movedFee, rfl⟩ :=
    (executeTrade_iff stored feeAsset).mp executed
  have payer : feePayer pool transfer.origin transfer.assets = transfer.origin ∨
      feePayer pool transfer.origin transfer.assets = getPairId transfer.assets :=
    ite_eq_or_eq _ _ _
  constructor
  · intro asset
    have spent := Ledger.free_spent movedIn notPool asset
    have got := Ledger.free_received movedOut notPool.symm asset
    have fee := Ledger.free_transfer_add_entry movedFee transfer.origin asset
    rw [Ledger.entry_of_ne_account notCollector] at fee
    show ledger.free transfer.origin asset + _ = _
    by_cases paysFee : transfer.assets.assetIn = pool.assets.1
    · rw [feePayer, if_pos paysFee, ← paysFee] at fee
      rw [if_pos paysFee.symm]
      simp only [Ledger.entry, true_and] at fee
      split_ifs at spent got fee ⊢ <;> omega
    · rw [feePayer, if_neg paysFee, Ledger.entry_of_ne_account notPool] at fee
      rw [if_neg (Ne.symm paysFee), Nat.add_zero]
      omega
  · intro apart asset
    have notPayer : feePayer pool transfer.origin transfer.assets ≠ pool.feeCollector := by
      rcases payer with trader | reserve
      · rw [trader]
        exact notCollector
      · rw [reserve]
        exact apart.symm
    rw [Ledger.free_received movedFee notPayer,
      Ledger.free_transfer_of_ne movedOut apart notCollector.symm,
      Ledger.free_transfer_of_ne movedIn notCollector.symm apart]
  · intro asset
    have inside : feePayer pool transfer.origin transfer.assets ∈
        ({transfer.origin, getPairId transfer.assets, pool.feeCollector} : Finset AccountId) := by
      rcases payer with trader | reserve
      · simp [trader]
      · simp [reserve]
    rw [Ledger.sum_free_transfer movedFee inside (by simp),
      Ledger.sum_free_transfer movedOut (by simp) (by simp),
      Ledger.sum_free_transfer movedIn (by simp) (by simp)]
  · intro account notTrader notReserve notCollecting asset
    have notPayer : account ≠ feePayer pool transfer.origin transfer.assets := by
      rcases payer with trader | reserve
      · rw [trader]
        exact notTrader
      · rw [reserve]
        exact notReserve
    rw [Ledger.free_transfer_of_ne movedFee notPayer notCollecting,
      Ledger.free_transfer_of_ne movedOut notReserve notTrader,
      Ledger.free_transfer_of_ne movedIn notTrader notReserve]

end Execution

section Validated

/-- A stored pool is for the two assets of its pair. -/
theorem assets_of_stored (reachable : Reachable Initial (Step cfg) s)
    (stored : s.poolData.lookup (getPairId assets) = some pool) :
    assets.assetIn ≠ assets.assetOut ∧
      (assets.assetIn = pool.assets.1 ∨ assets.assetOut = pool.assets.1) := by
  have distinct := (wellFormed_of_reachable reachable _ pool stored).distinct
  have same : assets.orderedPair = AssetPair.orderedPair ⟨pool.assets.1, pool.assets.2⟩ :=
    fromAssets_eq_iff.mp (address_of_reachable reachable _ pool stored)
  rcases mem_of_orderedPair_eq same with ⟨hin, hout⟩ | ⟨hin, hout⟩
  · exact ⟨hin.trans_ne (distinct.trans_eq hout.symm), .inl hin⟩
  · exact ⟨hin.trans_ne (distinct.symm.trans_eq hout.symm), .inr hout⟩

variable (reachable : Reachable Initial (Step cfg) s) (notPool : who ≠ getPairId assets)
  (notCollector : who ≠ pool.feeCollector)

include reachable notPool notCollector in
/-- A validated sale settles. -/
theorem Sale.settles (sale : Sale cfg s pool who assets amount limit computed transfer) :
    ∃ t, executeTrade s transfer = .ok t ∧
      Settled s t pool who assets amount transfer.amountOut transfer.fee.2 := by
  obtain ⟨distinct, accumulated⟩ := assets_of_stored reachable sale.stored
  obtain rfl := sale.trader
  obtain rfl := sale.pair
  have third : computed ≤ s.ledger.free (getPairId transfer.assets) transfer.assets.assetOut :=
    sale.bounded.trans (Nat.div_le_self _ _)
  obtain ⟨t, executed⟩ := exists_executeTrade sale.stored sale.feeAsset distinct accumulated
    notPool (sale.paid.trans_le sale.funded) (sale.received.trans_le third)
  have settled := executeTrade_settled sale.stored sale.feeAsset notPool notCollector executed
  rw [sale.paid] at settled
  exact ⟨t, executed, settled⟩

include reachable notPool notCollector in
/-- A validated purchase settles. -/
theorem Purchase.settles (lawful : cfg.math.TradesLawfully)
    (purchase : Purchase cfg s pool who assets amount limit computed transfer) :
    ∃ t, executeTrade s transfer = .ok t ∧
      Settled s t pool who assets computed amount transfer.fee.2 := by
  obtain ⟨distinct, accumulated⟩ := assets_of_stored reachable purchase.stored
  obtain rfl := purchase.trader
  obtain rfl := purchase.pair
  obtain rfl := purchase.received
  obtain ⟨_, _, -, priced⟩ := purchase.priced
  have below := lawful.inGivenOut priced
  -- the two validations look for the accumulated asset on different sides
  have sides : (pool.assets.1 = transfer.assets.assetOut) ↔
      ¬ pool.assets.1 = transfer.assets.assetIn := by
    rcases accumulated with paidIn | paidOut
    · simp [← paidIn, distinct]
    · simp [← paidOut, distinct.symm]
  have paid : transfer.amount +
      (if pool.assets.1 = transfer.assets.assetIn then transfer.fee.2 else 0) = computed := by
    rw [← purchase.paid]
    simp only [sides, ite_not]
  have reserve : transfer.amountOut +
        (if pool.assets.1 = transfer.assets.assetIn then 0 else transfer.fee.2) ≤
      s.ledger.free (getPairId transfer.assets) transfer.assets.assetOut := by
    simp only [sides, ite_not] at below
    split_ifs at below ⊢ <;> omega
  obtain ⟨t, executed⟩ := exists_executeTrade purchase.stored purchase.feeAsset distinct
    accumulated notPool (paid.trans_le (purchase.limit.trans purchase.funded)) reserve
  have settled := executeTrade_settled purchase.stored purchase.feeAsset notPool notCollector
    executed
  rw [paid] at settled
  exact ⟨t, executed, settled⟩

/-- **Settlement.**  A validated trade executes.  A seller pays exactly what it sells and gets
at least its limit; a buyer gets exactly what it buys and pays at most its limit.  What the
pool computed is within a third of its reserve.  The fee is taken in the accumulated asset and
goes to the collector, unless that is the pool's own account; the trader, the pool and the
collector together hold what they held. -/
theorem trade_settles (lawful : cfg.math.TradesLawfully)
    (reachable : Reachable Initial (Step cfg) s)
    (stored : s.poolData.lookup (getPairId assets) = some pool)
    (notPool : who ≠ getPairId assets) (notCollector : who ≠ pool.feeCollector)
    (amount limit : ℕ) (transfer : AMMTransfer) :
    (validateSell cfg s who assets amount limit = .ok transfer →
      ∃ t computed, executeTrade s transfer = .ok t ∧
        Settled s t pool who assets amount transfer.amountOut transfer.fee.2 ∧
        limit ≤ transfer.amountOut ∧
        transfer.amountOut + (if pool.assets.1 = assets.assetIn then 0 else transfer.fee.2) =
          computed ∧
        computed ≤ s.ledger.free (getPairId assets) assets.assetOut / 3 ∧
        transfer.fee = (pool.assets.1, (if pool.assets.1 = assets.assetIn then amount
          else computed) / (s.feeRate pool).2 * (s.feeRate pool).1)) ∧
    (validateBuy cfg s who assets amount limit = .ok transfer →
      ∃ t computed, executeTrade s transfer = .ok t ∧
        Settled s t pool who assets computed amount transfer.fee.2 ∧
        computed ≤ limit ∧
        computed ≤ s.ledger.free (getPairId assets) assets.assetIn / 3 ∧
        transfer.fee = (pool.assets.1, (if pool.assets.1 = assets.assetOut then amount
          else computed) / (s.feeRate pool).2 * (s.feeRate pool).1)) := by
  constructor
  · intro accepted
    obtain ⟨_, computed, sale⟩ := validateSell_ok accepted
    obtain rfl := Option.some.inj (stored.symm.trans sale.stored)
    obtain ⟨t, executed, settled⟩ := sale.settles reachable notPool notCollector
    exact ⟨t, computed, executed, settled, sale.limit, sale.received, sale.bounded,
      Prod.ext sale.feeAsset (calculateFees_eq lawful sale.fee)⟩
  · intro accepted
    obtain ⟨_, computed, purchase⟩ := validateBuy_ok accepted
    obtain rfl := Option.some.inj (stored.symm.trans purchase.stored)
    obtain ⟨t, executed, settled⟩ := purchase.settles reachable notPool notCollector lawful
    exact ⟨t, computed, executed, settled, purchase.limit, purchase.bounded,
      Prod.ext purchase.feeAsset (calculateFees_eq lawful purchase.fee)⟩

/-- A pool that collects its own fees gains the whole payment of a seller, not just the fee. -/
theorem collector_gains_payment :
    ¬ ∀ (cfg : Config) (s t : State) (pool : Pool) (who : AccountId) (assets : AssetPair)
        (amount minBought : ℕ) (transfer : AMMTransfer),
      cfg.math.TradesLawfully → Reachable Initial (Step cfg) s →
      s.poolData.lookup (getPairId assets) = some pool → who ≠ getPairId assets →
      who ≠ pool.feeCollector →
      validateSell cfg s who assets amount minBought = .ok transfer →
      executeTrade s transfer = .ok t →
      t.ledger.free pool.feeCollector pool.assets.1 =
        s.ledger.free pool.feeCollector pool.assets.1 + transfer.fee.2 := by
  intro claim
  have computed : succeedsWith (do
      let s ← simulate [.call (.createPool
          { bootstrapping with
            initialWeight := 20000000
            finalWeight := 80000000
            feeCollector := getPairId ⟨1, 2⟩ }),
        .call (.updatePoolData 0 (getPairId ⟨1, 2⟩) saleUpdate), .blocks 20]
      let transfer ← validateSell .reference s (.signer 1) ⟨1, 2⟩ (10 ^ 6) 0
      let t ← executeTrade s transfer
      return (s, transfer, t)) (fun result =>
        (result.1.poolData.lookup (getPairId ⟨1, 2⟩)).any fun pool => decide
          (.signer 1 ≠ pool.feeCollector ∧
            result.2.2.ledger.free pool.feeCollector pool.assets.1 ≠
              result.1.ledger.free pool.feeCollector pool.assets.1 + result.2.1.fee.2)) = true := by
    decide +kernel
  simp only [succeedsWith_iff, bind_eq_ok, return_eq_ok, Option.any_eq_true,
    decide_eq_true_eq] at computed
  obtain ⟨_, ⟨s, run, transfer, valid, t, executed, rfl⟩, pool, stored, notCollector, gains⟩ :=
    computed
  have reachable := reachable_of_simulate run
  apply gains
  exact claim .reference s t pool (.signer 1) ⟨1, 2⟩ (10 ^ 6) 0 transfer
    Math.reference_tradesLawfully reachable stored (poolId_ne_signer reachable stored 1).symm
    notCollector valid executed

/-- Signer 1 sells and buys in the second block of a sale, each with the accumulated asset on
either side. -/
theorem trade_settles_both_ways :
    ∃ s pool, simulate openSale = .ok s ∧ s.poolData.lookup (getPairId ⟨2, 1⟩) = some pool ∧
      (∃ transfer t, validateSell .reference s (.signer 1) ⟨2, 1⟩ (10 ^ 7) 0 = .ok transfer ∧
        executeTrade s transfer = .ok t ∧
        Settled s t pool (.signer 1) ⟨2, 1⟩ (10 ^ 7) transfer.amountOut 368600) ∧
      (∃ transfer t, validateBuy .reference s (.signer 1) ⟨1, 2⟩ (10 ^ 7) (10 ^ 8) =
          .ok transfer ∧
        executeTrade s transfer = .ok t ∧
        ∃ paid ≤ 10 ^ 8, Settled s t pool (.signer 1) ⟨1, 2⟩ paid (10 ^ 7) 371134) := by
  have computed : succeedsWith (do
      let s ← simulate openSale
      let sold ← validateSell .reference s (.signer 1) ⟨2, 1⟩ (10 ^ 7) 0
      let bought ← validateBuy .reference s (.signer 1) ⟨1, 2⟩ (10 ^ 7) (10 ^ 8)
      return (s, sold, bought)) (fun result =>
        (result.1.poolData.lookup (getPairId ⟨2, 1⟩)).any fun pool => decide
          (.signer 1 ≠ pool.feeCollector ∧ result.2.1.fee.2 = 368600 ∧
            result.2.2.fee.2 = 371134)) = true := by
    decide +kernel
  simp only [succeedsWith_iff, bind_eq_ok, return_eq_ok, Option.any_eq_true,
    decide_eq_true_eq] at computed
  obtain ⟨_, ⟨s, run, sold, validSell, bought, validBuy, rfl⟩, pool, stored, notCollector,
    sellFee, buyFee⟩ := computed
  dsimp only at stored sellFee buyFee
  have reachable := reachable_of_simulate run
  have stored' : s.poolData.lookup (getPairId ⟨1, 2⟩) = some pool := stored
  have notPool := (poolId_ne_signer reachable stored 1).symm
  have notPool' := (poolId_ne_signer reachable stored' 1).symm
  obtain ⟨t, _, executed, settled, -⟩ := (trade_settles Math.reference_tradesLawfully reachable
    stored notPool notCollector (10 ^ 7) 0 sold).1 validSell
  obtain ⟨t', paid, executed', settled', limit, -⟩ := (trade_settles
    Math.reference_tradesLawfully reachable stored' notPool' notCollector (10 ^ 7) (10 ^ 8)
    bought).2 validBuy
  rw [sellFee] at settled
  rw [buyFee] at settled'
  exact ⟨s, pool, run, stored, ⟨sold, t, validSell, executed, settled⟩,
    ⟨bought, t', validBuy, executed', paid, limit, settled'⟩⟩

end Validated

end Basilisk.Lbp
