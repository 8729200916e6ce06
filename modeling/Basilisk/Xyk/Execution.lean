/-
# Validated trades execute

`validate_sell` and `validate_buy` check, one by one, every balance that
`execute_sell` and `execute_buy` then draw on in turn.  The two agree as long as no
balance is drawn on twice.  The native charge of a discounted trade is what can
fall on a balance that another payment needs: on the trader's, if the native asset is
also what the trade is paid in.  This module settles exactly when a validated trade
executes, and that it then moves what was validated.
-/

import Basilisk.Xyk.Pools

namespace Basilisk.Xyk

open Basilisk.Math

variable {cfg : Config} {s t : State} {who : AccountId} {assets : AssetPair}
variable {amount limit : ℕ} {discount : Bool} {transfer : AMMTransfer}

section Execution

/-- A sale executes exactly when the trader and the pool are covered. -/
theorem exists_executeSell_iff
    (distinct : transfer.assets.assetIn ≠ transfer.assets.assetOut) :
    (∃ t, executeSell cfg s transfer = .ok t) ↔
      transfer.burned ≤ s.ledger.free transfer.origin cfg.nativeAssetId ∧
      transfer.amount + Ledger.entry transfer.origin cfg.nativeAssetId transfer.burned
          transfer.origin transfer.assets.assetIn ≤
        s.ledger.free transfer.origin transfer.assets.assetIn ∧
      transfer.amountOut + Ledger.entry transfer.origin cfg.nativeAssetId transfer.burned
          (getPairId transfer.assets) transfer.assets.assetOut ≤
        s.ledger.free (getPairId transfer.assets) transfer.assets.assetOut := by
  rw [← Ledger.exists_payments_iff distinct]
  simp only [executeSell, chargeDiscount_eq_withdraw, bind_eq_ok, return_eq_ok,
    State.withdraw_eq_ok, State.transfer_eq_ok]
  constructor
  · rintro ⟨_, _, ⟨charged, burned, rfl⟩, _, ⟨paid, movedIn, rfl⟩, _, ⟨last, movedOut, rfl⟩, -⟩
    exact ⟨charged, paid, last, burned, movedIn, movedOut⟩
  · rintro ⟨charged, paid, last, burned, movedIn, movedOut⟩
    exact ⟨_, _, ⟨charged, burned, rfl⟩, _, ⟨paid, movedIn, rfl⟩, _, ⟨last, movedOut, rfl⟩, rfl⟩

/-- A purchase executes exactly when the pool and the trader are covered. -/
theorem exists_executeBuy_iff
    (distinct : transfer.assets.assetIn ≠ transfer.assets.assetOut)
    (fits : transfer.amountOut + transfer.fee.2 < u128Bound) :
    (∃ t, executeBuy cfg s transfer = .ok t) ↔
      transfer.burned ≤ s.ledger.free transfer.origin cfg.nativeAssetId ∧
      transfer.amount + Ledger.entry transfer.origin cfg.nativeAssetId transfer.burned
          (getPairId transfer.assets) transfer.assets.assetOut ≤
        s.ledger.free (getPairId transfer.assets) transfer.assets.assetOut ∧
      transfer.amountOut + transfer.fee.2 + Ledger.entry transfer.origin cfg.nativeAssetId
          transfer.burned transfer.origin transfer.assets.assetIn ≤
        s.ledger.free transfer.origin transfer.assets.assetIn := by
  rw [← Ledger.exists_payments_iff distinct.symm]
  simp only [executeBuy, chargeDiscount_eq_withdraw, bind_eq_ok, return_eq_ok,
    State.withdraw_eq_ok, State.transfer_eq_ok, wrappingAdd_of_lt fits]
  constructor
  · rintro ⟨_, _, ⟨charged, burned, rfl⟩, _, ⟨paid, movedOut, rfl⟩, _, ⟨last, movedIn, rfl⟩, -⟩
    exact ⟨charged, paid, last, burned, movedOut, movedIn⟩
  · rintro ⟨charged, paid, last, burned, movedOut, movedIn⟩
    exact ⟨_, _, ⟨charged, burned, rfl⟩, _, ⟨paid, movedOut, rfl⟩, _, ⟨last, movedIn, rfl⟩, rfl⟩

end Execution

section Quotes

/-- The constant-product quote of a sale, before the fee. -/
def sellQuote (s : State) (assets : AssetPair) (amount : ℕ) : ℕ :=
  s.ledger.free (getPairId assets) assets.assetOut * amount /
    (s.ledger.free (getPairId assets) assets.assetIn + amount)

/-- The constant-product quote of a purchase, before the fee. -/
def buyQuote (s : State) (assets : AssetPair) (amount : ℕ) : ℕ :=
  if amount = 0 then 0
  else s.ledger.free (getPairId assets) assets.assetIn * amount /
    (s.ledger.free (getPairId assets) assets.assetOut - amount) + 1

/-- The fee of a discounted trade: 0.07%, rounded down to full ten thousands. -/
def discountedFee (amount : ℕ) : ℕ :=
  amount / 10000 * 7

theorem transferFeeOf_discounted (lawful : cfg.math.Lawful) {fee : ℕ}
    (charged : transferFeeOf cfg true amount = .ok fee) : fee = discountedFee amount := by
  simp only [transferFeeOf, if_true, calculateDiscountedFee, okOr_eq_ok] at charged
  exact lawful.poolTradeFee charged

/-- The charge of a discounted trade is covered, and quoted in the pool of the named asset
and the native one. -/
theorem discountFee_quoted {asset : AssetId} {fee charge : ℕ}
    (quoted : discountFee cfg s who asset true fee = .ok charge) :
    charge ≤ s.ledger.free who cfg.nativeAssetId ∧
      cfg.math.calculateSpotPrice
        (s.ledger.free (getPairId ⟨asset, cfg.nativeAssetId⟩) asset)
        (s.ledger.free (getPairId ⟨asset, cfg.nativeAssetId⟩) cfg.nativeAssetId) fee =
          some charge := by
  simp only [discountFee, if_true, bind_eq_ok, okOr_eq_ok, ensure_eq_ok, exists_const,
    return_eq_ok] at quoted
  obtain ⟨_, priced, affordable, rfl⟩ := quoted
  exact ⟨affordable, priced⟩

end Quotes

/-- The charge of a discounted sale falls on the balance the pool pays from only if the
pool's own account sells to itself for the native asset; then it has to cover both. -/
def SellFunded (cfg : Config) (s : State) (who : AccountId) (assets : AssetPair)
    (amount : ℕ) (discount : Bool) : Prop :=
  let reserveIn := s.ledger.free (getPairId assets) assets.assetIn
  let reserveOut := s.ledger.free (getPairId assets) assets.assetOut
  let amountOut := sellQuote s assets amount
  discount = true → assets.assetOut = cfg.nativeAssetId → who = getPairId assets →
    amountOut - discountedFee amountOut + discountedFee amountOut * reserveOut / reserveIn ≤
      reserveOut

/-- The charge of a discounted purchase falls on the balance the trader pays from if the
purchase is paid in the native asset; then that balance has to cover both. -/
def BuyFunded (cfg : Config) (s : State) (who : AccountId) (assets : AssetPair)
    (amount : ℕ) (discount : Bool) : Prop :=
  let reserveIn := s.ledger.free (getPairId assets) assets.assetIn
  let reserveOut := s.ledger.free (getPairId assets) assets.assetOut
  let buyPrice := buyQuote s assets amount
  discount = true → assets.assetIn = cfg.nativeAssetId →
    buyPrice + discountedFee buyPrice + discountedFee buyPrice * reserveIn / reserveOut ≤
      s.ledger.free who assets.assetIn

section Validated

/-- A validated sale executes, and settles as validated, exactly if it is funded. -/
theorem validateSell_executes_iff (lawful : cfg.math.Lawful)
    (registered : PoolsRegistered cfg s)
    (valid : validateSell cfg s who assets amount limit discount = .ok transfer) :
    (∃ t, executeSell cfg s transfer = .ok t ∧
      Settles cfg s t who assets amount transfer.amountOut
        (if discount = true then transfer.discountAmount else 0)) ↔
      SellFunded cfg s who assets amount discount := by
  obtain ⟨amountOut, fee, charge, -, present, funded, native, -, priced, feeOf, -, below, -,
    quoted, rfl⟩ := validateSell_ok valid
  have distinct := registered.assets_ne present
  have covered : amountOut - fee ≤ s.ledger.free (getPairId assets) assets.assetOut := by omega
  apply (exists_congr fun t => and_iff_left_of_imp executeSell_settles).trans
  rw [exists_executeSell_iff distinct]
  cases discount with
  | false => simp [AMMTransfer.burned, SellFunded, funded, covered]
  | true =>
      obtain ⟨affordable, spot⟩ := discountFee_quoted quoted
      -- the asset sold has a pool with the native asset, so it is another asset
      have notNative : assets.assetIn ≠ cfg.nativeAssetId := registered.assets_ne (native rfl)
      simp only [AMMTransfer.burned, SellFunded, if_true, affordable, true_and, forall_const,
        Ledger.entry_of_ne_currency notNative, Nat.add_zero, funded]
      rw [sellQuote, ← lawful.outGivenIn priced, ← transferFeeOf_discounted lawful feeOf]
      by_cases paidNative : assets.assetOut = cfg.nativeAssetId
      · by_cases itself : who = getPairId assets
        · rw [← paidNative] at spot
          rw [← paidNative, itself, Ledger.entry_self, (lawful.spotPrice spot).2]
          simp only [forall_const]
        · simp [Ledger.entry_of_ne_account (Ne.symm itself), itself, covered]
      · simp [Ledger.entry_of_ne_currency paidNative, paidNative, covered]

/-- A validated purchase executes, and settles as validated, exactly if it is funded. -/
theorem validateBuy_executes_iff (lawful : cfg.math.Lawful)
    (registered : PoolsRegistered cfg s)
    (valid : validateBuy cfg s who assets amount limit discount = .ok transfer) :
    (∃ t, executeBuy cfg s transfer = .ok t ∧
      Settles cfg s t who assets (transfer.amountOut + transfer.fee.2) amount
        (if discount = true then transfer.discountAmount else 0)) ↔
      BuyFunded cfg s who assets amount discount := by
  obtain ⟨buyPrice, fee, charge, -, present, below, -, native, priced, feeOf, fits, -, funded,
    quoted, rfl⟩ := validateBuy_ok valid
  have distinct := registered.assets_ne present
  have settles : ∀ t, executeBuy cfg s ⟨who, assets, amount, buyPrice, discount, charge,
      (assets.assetIn, fee)⟩ = .ok t → Settles cfg s t who assets (buyPrice + fee) amount
        (if discount = true then charge else 0) := by
    intro t executed
    have settles := executeBuy_settles executed
    rw [wrappingAdd_of_lt fits] at settles
    exact settles
  apply (exists_congr fun t => and_iff_left_of_imp (settles t)).trans
  rw [exists_executeBuy_iff distinct fits]
  cases discount with
  | false => simp [AMMTransfer.burned, BuyFunded, funded, below.le]
  | true =>
      obtain ⟨affordable, spot⟩ := discountFee_quoted quoted
      have notNative : assets.assetOut ≠ cfg.nativeAssetId := registered.assets_ne (native rfl)
      simp only [AMMTransfer.burned, BuyFunded, if_true, affordable, true_and, forall_const,
        Ledger.entry_of_ne_currency notNative, Nat.add_zero, below.le]
      rw [buyQuote, ← lawful.inGivenOut priced, ← transferFeeOf_discounted lawful feeOf]
      by_cases paidNative : assets.assetIn = cfg.nativeAssetId
      · -- the charge is quoted in the very pool of the trade
        rw [← paidNative] at spot
        rw [getPairId_swap] at spot
        rw [← paidNative, Ledger.entry_self, (lawful.spotPrice spot).2]
        simp only [forall_const]
      · simp [Ledger.entry_of_ne_currency paidNative, paidNative, funded]

/-- **Validation implies execution.**  A validated sale executes, moving exactly what was
validated and burning exactly the discount charge, unless the pool's own account sells to
itself and cannot cover both; a validated purchase does unless it is discounted, paid in
the native asset, and the trader's native balance covers the price with the fee but not
the charge on top. -/
theorem validated_trade_executes_iff (lawful : cfg.math.Lawful)
    (reachable : Reachable Initial (Step cfg) s) (who : AccountId) (assets : AssetPair)
    (amount limit : ℕ) (discount : Bool) (transfer : AMMTransfer) :
    (validateSell cfg s who assets amount limit discount = .ok transfer →
      ((∃ t, executeSell cfg s transfer = .ok t ∧
        Settles cfg s t who assets amount transfer.amountOut
          (if discount = true then transfer.discountAmount else 0)) ↔
        SellFunded cfg s who assets amount discount)) ∧
    (validateBuy cfg s who assets amount limit discount = .ok transfer →
      ((∃ t, executeBuy cfg s transfer = .ok t ∧
        Settles cfg s t who assets (transfer.amountOut + transfer.fee.2) amount
          (if discount = true then transfer.discountAmount else 0)) ↔
        BuyFunded cfg s who assets amount discount)) := by
  have registered := poolsRegistered_of_reachable reachable
  constructor
  · intro valid
    exact validateSell_executes_iff lawful registered valid
  · intro valid
    exact validateBuy_executes_iff lawful registered valid

end Validated

/-- The runtime with share tokens for the pairs of assets 0, 1 and 2, of which asset 0 is
the native one. -/
def nativeConfig : Config := .runtime fun name =>
  if name = AssetPair.name ⟨0, 1⟩ then some 100
  else if name = AssetPair.name ⟨0, 2⟩ then some 101
  else if name = AssetPair.name ⟨1, 2⟩ then some 102
  else none

/-- A rich signer 1, and a signer 2 with 111189 of the native asset. -/
def nativeState : State where
  ledger :=
    { free := fun who asset =>
        match who with
        | .signer 1 => if asset ≤ 2 then 1000000000 else 0
        | .signer 2 => if asset = 0 then 111189 else if asset ≤ 2 then 1000000 else 0
        | _ => 0
      reserved := fun _ _ => 0
      issuance := fun _ => 0 }
  shareToken := ∅
  totalLiquidity := ∅
  poolAssets := ∅
  events := []

theorem nativeState_initial : Initial nativeState := ⟨rfl, rfl, rfl⟩

theorem reachable_native {calls : List Call} {s : State}
    (computed : calls.foldlM (dispatch nativeConfig) nativeState = .ok s) :
    Reachable Initial (Step nativeConfig) s :=
  reachable_of_foldlM (fun _ call _ executed => ⟨call, executed⟩)
    ⟨[], .start nativeState_initial⟩ computed

/-- A discounted purchase of 100000 units for the native asset costs 111112, a fee of 77 and
a charge of 77.  Signer 2 holds just the price and the fee: the purchase is validated
and does not execute. -/
theorem validated_buy_fails :
    ¬ ∀ (cfg : Config) (s : State) (who : AccountId) (assets : AssetPair)
        (amount limit : ℕ) (discount : Bool) (transfer : AMMTransfer),
      cfg.math.Lawful → Reachable Initial (Step cfg) s →
      validateBuy cfg s who assets amount limit discount = .ok transfer →
      ∃ t, executeBuy cfg s transfer = .ok t := by
  intro claim
  have computed : succeedsWith (do
      let s ← [Call.createPool 1 ⟨true, true⟩ 0 2 1000000 FixedU128.one].foldlM
        (dispatch nativeConfig) nativeState
      let transfer ← validateBuy nativeConfig s (.signer 2) ⟨0, 2⟩ 100000 200000 true
      return (s, transfer)) (fun result =>
        (executeBuy nativeConfig result.1 result.2).toOption.isNone) = true := by
    decide +kernel
  simp only [succeedsWith_iff, bind_eq_ok, return_eq_ok] at computed
  obtain ⟨_, ⟨s, run, transfer, valid, rfl⟩, fails⟩ := computed
  obtain ⟨t, executed⟩ := claim nativeConfig s (.signer 2) ⟨0, 2⟩ 100000 200000 true transfer
    Math.reference_lawful (reachable_native run) valid
  rw [executed] at fails
  exact Bool.false_ne_true fails

/-- The same purchase by signer 1, who is covered, and a discounted sale by signer 2. -/
theorem validated_trade_executes_covered :
    ∃ s bought sold, Reachable Initial (Step nativeConfig) s ∧
      validateBuy nativeConfig s (.signer 1) ⟨0, 2⟩ 100000 200000 true = .ok bought ∧
      validateSell nativeConfig s (.signer 2) ⟨2, 0⟩ 100000 0 true = .ok sold ∧
      (∃ t, executeBuy nativeConfig s bought = .ok t ∧
        Settles nativeConfig s t (.signer 1) ⟨0, 2⟩ 111189 100000 77) ∧
      ∃ t, executeSell nativeConfig s sold = .ok t ∧
        Settles nativeConfig s t (.signer 2) ⟨2, 0⟩ 100000 90846 63 := by
  have computed : succeedsWith (do
      let s ← [Call.createPool 1 ⟨true, true⟩ 0 2 1000000 FixedU128.one].foldlM
        (dispatch nativeConfig) nativeState
      let bought ← validateBuy nativeConfig s (.signer 1) ⟨0, 2⟩ 100000 200000 true
      let sold ← validateSell nativeConfig s (.signer 2) ⟨2, 0⟩ 100000 0 true
      return (s, bought, sold)) (fun result => decide
        (result.2.1.amountOut + result.2.1.fee.2 = 111189 ∧ result.2.1.discountAmount = 77 ∧
          result.2.2.amountOut = 90846 ∧ result.2.2.discountAmount = 63 ∧
          result.1.ledger.free (getPairId ⟨0, 2⟩) 0 = 1000000 ∧
          result.1.ledger.free (getPairId ⟨0, 2⟩) 2 = 1000000 ∧
          111266 ≤ result.1.ledger.free (.signer 1) 0)) = true := by
    decide +kernel
  simp only [succeedsWith_iff, bind_eq_ok, return_eq_ok, decide_eq_true_eq] at computed
  obtain ⟨_, ⟨s, run, bought, validBuy, sold, validSell, rfl⟩, price, charge, out, charge',
    reserveIn, reserveOut, funds⟩ := computed
  dsimp only at price charge out charge' reserveIn reserveOut funds
  have reachable := reachable_native run
  have buying := (validated_trade_executes_iff Math.reference_lawful reachable (.signer 1)
    ⟨0, 2⟩ 100000 200000 true bought).2 validBuy
  have selling := (validated_trade_executes_iff Math.reference_lawful reachable (.signer 2)
    ⟨2, 0⟩ 100000 0 true sold).1 validSell
  rw [price, if_pos rfl, charge] at buying
  rw [out, if_pos rfl, charge'] at selling
  refine ⟨s, bought, sold, reachable, validBuy, validSell, buying.mpr ?_, selling.mpr ?_⟩
  · intro _ _
    simp only [buyQuote, reserveIn, reserveOut]
    exact le_trans (by decide) funds
  · intro _ _ itself
    exact absurd itself.symm (getPairId_ne_signer ⟨2, 0⟩ 2)

end Basilisk.Xyk
