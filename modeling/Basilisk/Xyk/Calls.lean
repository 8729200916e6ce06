/-
# What a successful XYK call did

One lemma per extrinsic reads a successful call back as the guards it passed,
the ledger movements it made and the storage it wrote.  Everything later is
proved from these lemmas; the extrinsics themselves are not unfolded again.
-/

import Basilisk.Xyk.Model

namespace Basilisk.Xyk

open Basilisk.Math

variable {cfg : Config} {s t : State} {who sender receiver : AccountId}
variable {currency : AssetId} {amount : ℕ}

@[simp]
theorem State.transfer_eq_ok :
    s.transfer currency sender receiver amount = .ok t ↔
      ∃ ledger, s.ledger.transfer currency sender receiver amount = some ledger ∧
        { s with ledger } = t := by
  simp only [State.transfer, bind_eq_ok, okOr_eq_ok, return_eq_ok]

@[simp]
theorem State.deposit_eq_ok :
    s.deposit currency who amount = .ok t ↔
      ∃ ledger, s.ledger.deposit u128Bound currency who amount = some ledger ∧
        { s with ledger } = t := by
  simp only [State.deposit, bind_eq_ok, okOr_eq_ok, return_eq_ok]

@[simp]
theorem State.withdraw_eq_ok :
    s.withdraw currency who amount = .ok t ↔
      ∃ ledger, s.ledger.withdraw currency who amount = some ledger ∧
        { s with ledger } = t := by
  simp only [State.withdraw, bind_eq_ok, okOr_eq_ok, return_eq_ok]

/-- A pair account holds no key. -/
theorem getPairId_ne_signer (assets : AssetPair) (key : ℕ) :
    getPairId assets ≠ .signer key := nofun

/-- The effect of `create_pool`. -/
theorem createPool_ok {hooks : CreationHooks} {assetA assetB : AssetId}
    {amount initialPrice : ℕ}
    (called : createPool cfg s hooks who assetA assetB amount initialPrice = .ok t) :
    ∃ assetBAmount shares token afterA afterB,
      assetA ≠ assetB ∧ s.poolExists ⟨assetA, assetB⟩ = false ∧
      cfg.minPoolLiquidity ≤ amount ∧ cfg.minPoolLiquidity ≤ assetBAmount ∧
      FixedU128.checkedMulInt initialPrice amount = some assetBAmount ∧
      shares = (if assetA < assetB then amount else assetBAmount) ∧
      cfg.getOrCreateSharedAsset (AssetPair.name ⟨assetA, assetB⟩) = some token ∧
      s.ledger.transfer assetA who (getPairId ⟨assetA, assetB⟩) amount = some afterA ∧
      afterA.transfer assetB who (getPairId ⟨assetA, assetB⟩) assetBAmount =
        some afterB ∧
      afterB.deposit u128Bound token who shares = some t.ledger ∧
      t.shareToken = s.shareToken.insert (getPairId ⟨assetA, assetB⟩) token ∧
      t.poolAssets = s.poolAssets.insert (getPairId ⟨assetA, assetB⟩) (assetA, assetB) ∧
      t.totalLiquidity = s.totalLiquidity.insert (getPairId ⟨assetA, assetB⟩) shares := by
  simp only [createPool, bind_eq_ok, ensure_eq_ok, okOr_eq_ok, return_eq_ok,
    exists_const, State.transfer_eq_ok, State.deposit_eq_ok] at called
  obtain ⟨-, enoughA, -, distinct, absent, assetBAmount, priced, enoughB, -, -, token,
    registered, -, _, ⟨afterA, movedA, rfl⟩, _, ⟨afterB, movedB, rfl⟩, _,
    ⟨minted, deposited, rfl⟩, rfl⟩ := called
  exact ⟨assetBAmount, _, token, afterA, afterB, distinct, absent, enoughA, enoughB,
    priced, rfl, registered, movedA, movedB, deposited, rfl, rfl, rfl⟩

/-- The effect of `add_liquidity`. -/
theorem addLiquidity_ok {assetA assetB : AssetId} {amountA limit : ℕ}
    (called : addLiquidity cfg s who assetA assetB amountA limit = .ok t) :
    ∃ amountB shares afterA afterB,
      s.poolExists ⟨assetA, assetB⟩ = true ∧ cfg.minTradingLimit ≤ amountA ∧
      cfg.math.calculateLiquidityIn (s.ledger.free (getPairId ⟨assetA, assetB⟩) assetA)
        (s.ledger.free (getPairId ⟨assetA, assetB⟩) assetB) amountA = some amountB ∧
      shares = (if assetA < assetB then amountA else amountB) ∧ shares ≠ 0 ∧
      s.ledger.transfer assetA who (getPairId ⟨assetA, assetB⟩) amountA = some afterA ∧
      afterA.transfer assetB who (getPairId ⟨assetA, assetB⟩) amountB = some afterB ∧
      afterB.deposit u128Bound (s.getShareToken ⟨assetA, assetB⟩) who shares =
        some t.ledger ∧
      t.shareToken = s.shareToken ∧ t.poolAssets = s.poolAssets ∧
      t.totalLiquidity = s.totalLiquidity.insert (getPairId ⟨assetA, assetB⟩)
        (s.totalLiquidityOf (getPairId ⟨assetA, assetB⟩) + shares) := by
  simp only [addLiquidity, bind_eq_ok, ensure_eq_ok, okOr_eq_ok, return_eq_ok,
    exists_const, State.transfer_eq_ok, State.deposit_eq_ok,
    checkedAdd_eq_some] at called
  obtain ⟨present, enough, -, -, -, amountB, required, -, nonzero, _, -, -, _,
    ⟨-, rfl⟩, _, ⟨afterA, movedA, rfl⟩, _, ⟨afterB, movedB, rfl⟩, _,
    ⟨minted, deposited, rfl⟩, rfl⟩ := called
  exact ⟨amountB, _, afterA, afterB, present, enough, required, rfl, nonzero, movedA,
    movedB, deposited, rfl, rfl, rfl⟩

/-- The effect of `remove_liquidity`; the last share takes the pool with it. -/
theorem removeLiquidity_ok {assetA assetB : AssetId} {amount : ℕ}
    (called : removeLiquidity cfg s who assetA assetB amount = .ok t) :
    ∃ amountA amountB afterA afterB,
      s.poolExists ⟨assetA, assetB⟩ = true ∧ amount ≠ 0 ∧
      amount ≤ s.totalLiquidityOf (getPairId ⟨assetA, assetB⟩) ∧
      cfg.math.calculateLiquidityOut (s.ledger.free (getPairId ⟨assetA, assetB⟩) assetA)
        (s.ledger.free (getPairId ⟨assetA, assetB⟩) assetB) amount
        (s.totalLiquidityOf (getPairId ⟨assetA, assetB⟩)) = some (amountA, amountB) ∧
      s.ledger.transfer assetA (getPairId ⟨assetA, assetB⟩) who amountA = some afterA ∧
      afterA.transfer assetB (getPairId ⟨assetA, assetB⟩) who amountB = some afterB ∧
      afterB.withdraw (s.getShareToken ⟨assetA, assetB⟩) who amount = some t.ledger ∧
      (if s.totalLiquidityOf (getPairId ⟨assetA, assetB⟩) = amount then
        t.shareToken = s.shareToken.erase (getPairId ⟨assetA, assetB⟩) ∧
        t.poolAssets = s.poolAssets.erase (getPairId ⟨assetA, assetB⟩) ∧
        t.totalLiquidity = (s.totalLiquidity.insert (getPairId ⟨assetA, assetB⟩) 0).erase
          (getPairId ⟨assetA, assetB⟩)
      else
        t.shareToken = s.shareToken ∧ t.poolAssets = s.poolAssets ∧
        t.totalLiquidity = s.totalLiquidity.insert (getPairId ⟨assetA, assetB⟩)
          (s.totalLiquidityOf (getPairId ⟨assetA, assetB⟩) - amount)) := by
  simp only [removeLiquidity, bind_eq_ok, ensure_eq_ok, okOr_eq_ok, exists_const,
    State.transfer_eq_ok, State.withdraw_eq_ok, checkedSub_eq_some] at called
  obtain ⟨nonzero, present, enough, -, -, ⟨amountA, amountB⟩, priced, -, -, left,
    ⟨-, hleft⟩, _, ⟨afterA, movedA, rfl⟩, _, ⟨afterB, movedB, rfl⟩, _,
    ⟨burned, withdrawn, rfl⟩, finish⟩ := called
  refine ⟨amountA, amountB, afterA, afterB, present, nonzero, enough, priced, movedA,
    movedB, ?_⟩
  by_cases last : left = 0
  · have all : s.totalLiquidityOf (getPairId ⟨assetA, assetB⟩) = amount := by omega
    rw [if_pos last, return_eq_ok] at finish
    subst finish
    refine ⟨withdrawn, ?_⟩
    rw [if_pos all, ← last]
    exact ⟨rfl, rfl, rfl⟩
  · have some_left : s.totalLiquidityOf (getPairId ⟨assetA, assetB⟩) ≠ amount := by
      omega
    rw [if_neg last, return_eq_ok] at finish
    subst finish
    refine ⟨withdrawn, ?_⟩
    rw [if_neg some_left, hleft]
    exact ⟨rfl, rfl, rfl⟩

/-- The optional discount charge: nothing happens or the native charge is burned. -/
theorem chargeDiscount_ok {transfer : AMMTransfer}
    (charged : chargeDiscount cfg s transfer = .ok t) :
    t = s ∨ ∃ ledger, s.ledger.withdraw cfg.nativeAssetId transfer.origin
      transfer.discountAmount = some ledger ∧ t = { s with ledger } := by
  unfold chargeDiscount at charged
  split_ifs at charged
  · rw [State.withdraw_eq_ok] at charged
    obtain ⟨ledger, burned, rfl⟩ := charged
    exact .inr ⟨ledger, burned, rfl⟩
  · exact .inl (return_eq_ok.mp charged).symm

/-- The effect of `execute_sell`. -/
theorem executeSell_ok {transfer : AMMTransfer}
    (called : executeSell cfg s transfer = .ok t) :
    ∃ charged afterIn, chargeDiscount cfg s transfer = .ok charged ∧
      charged.ledger.transfer transfer.assets.assetIn transfer.origin
        (getPairId transfer.assets) transfer.amount = some afterIn ∧
      afterIn.transfer transfer.assets.assetOut (getPairId transfer.assets)
        transfer.origin transfer.amountOut = some t.ledger ∧
      t.shareToken = s.shareToken ∧ t.poolAssets = s.poolAssets ∧
      t.totalLiquidity = s.totalLiquidity := by
  simp only [executeSell, bind_eq_ok, return_eq_ok, State.transfer_eq_ok] at called
  obtain ⟨charged, hcharged, _, ⟨afterIn, movedIn, rfl⟩, _, ⟨afterOut, movedOut, rfl⟩,
    rfl⟩ := called
  refine ⟨charged, afterIn, hcharged, movedIn, movedOut, ?_⟩
  obtain rfl | ⟨ledger, -, rfl⟩ := chargeDiscount_ok hcharged <;> exact ⟨rfl, rfl, rfl⟩

/-- The effect of `execute_buy`. -/
theorem executeBuy_ok {transfer : AMMTransfer}
    (called : executeBuy cfg s transfer = .ok t) :
    ∃ charged afterOut, chargeDiscount cfg s transfer = .ok charged ∧
      charged.ledger.transfer transfer.assets.assetOut (getPairId transfer.assets)
        transfer.origin transfer.amount = some afterOut ∧
      afterOut.transfer transfer.assets.assetIn transfer.origin
        (getPairId transfer.assets)
        (wrappingAdd u128Bound transfer.amountOut transfer.fee.2) = some t.ledger ∧
      t.shareToken = s.shareToken ∧ t.poolAssets = s.poolAssets ∧
      t.totalLiquidity = s.totalLiquidity := by
  simp only [executeBuy, bind_eq_ok, return_eq_ok, State.transfer_eq_ok] at called
  obtain ⟨charged, hcharged, _, ⟨afterOut, movedOut, rfl⟩, _, ⟨afterIn, movedIn, rfl⟩,
    rfl⟩ := called
  refine ⟨charged, afterOut, hcharged, movedOut, movedIn, ?_⟩
  obtain rfl | ⟨ledger, -, rfl⟩ := chargeDiscount_ok hcharged <;> exact ⟨rfl, rfl, rfl⟩

/-- What a trade moves: `paidIn` to the pool and `paidOut` to the trader, while
`burned` of the trader's native asset is destroyed.  Nothing else changes. -/
structure Settles (cfg : Config) (s t : State) (who : AccountId) (assets : AssetPair)
    (paidIn paidOut burned : ℕ) : Prop where
  free : ∀ account asset,
    t.ledger.free account asset + Ledger.entry who cfg.nativeAssetId burned account asset +
        Ledger.entry who assets.assetIn paidIn account asset +
        Ledger.entry (getPairId assets) assets.assetOut paidOut account asset =
      s.ledger.free account asset +
        Ledger.entry (getPairId assets) assets.assetIn paidIn account asset +
        Ledger.entry who assets.assetOut paidOut account asset
  reserved : t.ledger.reserved = s.ledger.reserved
  issuance : t.ledger.issuance = Function.update s.ledger.issuance cfg.nativeAssetId
    (s.ledger.issuance cfg.nativeAssetId - burned)

/-- What the execution of a trade burns. -/
def AMMTransfer.burned (transfer : AMMTransfer) : ℕ :=
  if transfer.discount = true then transfer.discountAmount else 0

/-- The charge is a withdrawal, also where the source skips it. -/
theorem chargeDiscount_eq_withdraw {transfer : AMMTransfer} :
    chargeDiscount cfg s transfer =
      s.withdraw cfg.nativeAssetId transfer.origin transfer.burned := by
  have nothing : s.withdraw cfg.nativeAssetId transfer.origin 0 = .ok s :=
    State.withdraw_eq_ok.mpr ⟨s.ledger, Ledger.withdraw_zero, rfl⟩
  unfold chargeDiscount AMMTransfer.burned
  by_cases discounted : transfer.discount = true
  · simp only [discounted, true_and, if_true]
    rcases Nat.eq_zero_or_pos transfer.discountAmount with zero | positive
    · rw [zero, nothing]
      rfl
    · exact if_pos positive
  · simp only [discounted]
    exact nothing.symm

/-- What the execution of a sale moves. -/
theorem executeSell_settles {transfer : AMMTransfer}
    (executed : executeSell cfg s transfer = .ok t) :
    Settles cfg s t transfer.origin transfer.assets transfer.amount transfer.amountOut
      transfer.burned := by
  obtain ⟨_, paid, charged, movedIn, movedOut, -⟩ := executeSell_ok executed
  rw [chargeDiscount_eq_withdraw, State.withdraw_eq_ok] at charged
  obtain ⟨_, burned, rfl⟩ := charged
  obtain ⟨reserved, issuance⟩ := Ledger.issuance_payments burned movedIn movedOut
  exact ⟨Ledger.free_payments burned movedIn movedOut, reserved, issuance⟩

/-- What the execution of a purchase moves. -/
theorem executeBuy_settles {transfer : AMMTransfer}
    (executed : executeBuy cfg s transfer = .ok t) :
    Settles cfg s t transfer.origin transfer.assets
      (wrappingAdd u128Bound transfer.amountOut transfer.fee.2) transfer.amount
      transfer.burned := by
  obtain ⟨_, paid, charged, movedOut, movedIn, -⟩ := executeBuy_ok executed
  rw [chargeDiscount_eq_withdraw, State.withdraw_eq_ok] at charged
  obtain ⟨_, burned, rfl⟩ := charged
  obtain ⟨reserved, issuance⟩ := Ledger.issuance_payments burned movedOut movedIn
  constructor
  · intro account asset
    have paid := Ledger.free_payments burned movedOut movedIn account asset
    omega
  · exact reserved
  · exact issuance

/-- What `validate_sell` checked, and the transfer it built. -/
theorem validateSell_ok {assets : AssetPair} {amount minBought : ℕ}
    {discount : Bool} {transfer : AMMTransfer}
    (valid : validateSell cfg s who assets amount minBought discount = .ok transfer) :
    ∃ amountOut fee discountAmount,
      cfg.minTradingLimit ≤ amount ∧ s.poolExists assets = true ∧
      amount ≤ s.ledger.free who assets.assetIn ∧
      (discount = true → s.poolExists ⟨assets.assetIn, cfg.nativeAssetId⟩ = true) ∧
      amount ≤ s.ledger.free (getPairId assets) assets.assetIn / cfg.maxInRatio ∧
      cfg.math.calculateOutGivenIn (s.ledger.free (getPairId assets) assets.assetIn)
        (s.ledger.free (getPairId assets) assets.assetOut) amount = some amountOut ∧
      transferFeeOf cfg discount amountOut = .ok fee ∧ fee ≤ amountOut ∧
      amountOut < s.ledger.free (getPairId assets) assets.assetOut ∧
      minBought ≤ amountOut - fee ∧
      discountFee cfg s who assets.assetIn discount fee = .ok discountAmount ∧
      transfer = ⟨who, assets, amount, amountOut - fee, discount, discountAmount,
        (assets.assetOut, fee)⟩ := by
  simp only [validateSell, bind_eq_ok, ensure_eq_ok, okOr_eq_ok, return_eq_ok,
    exists_const, checkedDiv_eq_some, checkedSub_eq_some] at valid
  obtain ⟨enough, present, funded, native, _, ⟨-, rfl⟩, ratio, amountOut, priced, fee,
    hfee, _, ⟨feeLe, rfl⟩, below, limit, discountAmount, hdiscount, rfl⟩ := valid
  exact ⟨amountOut, fee, discountAmount, enough, present, funded, native, ratio, priced,
    hfee, feeLe, below, limit, hdiscount, rfl⟩

/-- What `validate_buy` checked, and the transfer it built. -/
theorem validateBuy_ok {assets : AssetPair} {amount maxLimit : ℕ}
    {discount : Bool} {transfer : AMMTransfer}
    (valid : validateBuy cfg s who assets amount maxLimit discount = .ok transfer) :
    ∃ buyPrice fee discountAmount,
      cfg.minTradingLimit ≤ amount ∧ s.poolExists assets = true ∧
      amount < s.ledger.free (getPairId assets) assets.assetOut ∧
      amount ≤ s.ledger.free (getPairId assets) assets.assetOut / cfg.maxOutRatio ∧
      (discount = true → s.poolExists ⟨assets.assetOut, cfg.nativeAssetId⟩ = true) ∧
      cfg.math.calculateInGivenOut (s.ledger.free (getPairId assets) assets.assetOut)
        (s.ledger.free (getPairId assets) assets.assetIn) amount = some buyPrice ∧
      transferFeeOf cfg discount buyPrice = .ok fee ∧
      buyPrice + fee < u128Bound ∧ buyPrice + fee ≤ maxLimit ∧
      buyPrice + fee ≤ s.ledger.free who assets.assetIn ∧
      discountFee cfg s who assets.assetOut discount fee = .ok discountAmount ∧
      transfer = ⟨who, assets, amount, buyPrice, discount, discountAmount,
        (assets.assetIn, fee)⟩ := by
  simp only [validateBuy, bind_eq_ok, ensure_eq_ok, okOr_eq_ok, return_eq_ok,
    exists_const, checkedDiv_eq_some, checkedAdd_eq_some] at valid
  obtain ⟨enough, present, below, _, ⟨-, rfl⟩, ratio, native, buyPrice, priced, fee,
    hfee, _, ⟨fits, rfl⟩, limit, funded, discountAmount, hdiscount, rfl⟩ := valid
  exact ⟨buyPrice, fee, discountAmount, enough, present, below, ratio, native, priced,
    hfee, fits, limit, funded, hdiscount, rfl⟩

section Payers

variable {account : AccountId} (notSigner : ∀ key, account ≠ .signer key)
include notSigner

theorem Settles.free_le {key paidIn paidOut burned : ℕ} {assets : AssetPair}
    (settles : Settles cfg s t (.signer key) assets paidIn paidOut burned)
    (notPool : account ≠ getPairId assets) (currency : AssetId) :
    s.ledger.free account currency ≤ t.ledger.free account currency := by
  have entries := settles.free account currency
  simp only [Ledger.entry_of_ne_account (notSigner key), Ledger.entry_of_ne_account notPool,
    Nat.add_zero] at entries
  exact entries.ge

/-- Only signers and pools pay in a call. -/
theorem free_le_of_step (notPool : ∀ pair, account ≠ getPairId pair) {call : Call}
    (taken : Step cfg s call t) (currency : AssetId) :
    s.ledger.free account currency ≤ t.ledger.free account currency := by
  cases call with
  | createPool key hooks assetA assetB amount initialPrice =>
      obtain ⟨_, _, _, _, _, -, -, -, -, -, -, -, movedA, movedB, minted, -⟩ :=
        createPool_ok taken
      calc
        _ ≤ _ := Ledger.free_le_transfer_of_ne_sender movedA (notSigner key) currency
        _ ≤ _ := Ledger.free_le_transfer_of_ne_sender movedB (notSigner key) currency
        _ ≤ _ := Ledger.free_le_deposit minted account currency
  | addLiquidity key assetA assetB amountA limit =>
      obtain ⟨_, _, _, _, -, -, -, -, -, movedA, movedB, minted, -⟩ := addLiquidity_ok taken
      calc
        _ ≤ _ := Ledger.free_le_transfer_of_ne_sender movedA (notSigner key) currency
        _ ≤ _ := Ledger.free_le_transfer_of_ne_sender movedB (notSigner key) currency
        _ ≤ _ := Ledger.free_le_deposit minted account currency
  | removeLiquidity key assetA assetB amount =>
      obtain ⟨_, _, _, _, -, -, -, -, movedA, movedB, burned, -⟩ := removeLiquidity_ok taken
      calc
        _ ≤ _ := Ledger.free_le_transfer_of_ne_sender movedA (notPool _) currency
        _ ≤ _ := Ledger.free_le_transfer_of_ne_sender movedB (notPool _) currency
        _ ≤ _ := (Ledger.free_withdraw_of_ne burned (notSigner key) currency).ge
  | sell key assetIn assetOut amount limit discount =>
      simp only [Step, dispatch, sell, bind_eq_ok] at taken
      obtain ⟨transfer, valid, executed⟩ := taken
      obtain ⟨_, _, _, -, -, -, -, -, -, -, -, -, -, -, rfl⟩ := validateSell_ok valid
      exact (executeSell_settles executed).free_le notSigner (notPool _) currency
  | buy key assetOut assetIn amount limit discount =>
      simp only [Step, dispatch, buy, bind_eq_ok] at taken
      obtain ⟨transfer, valid, executed⟩ := taken
      obtain ⟨_, _, _, -, -, -, -, -, -, -, -, -, -, -, rfl⟩ := validateBuy_ok valid
      exact (executeBuy_settles executed).free_le notSigner (notPool _) currency

end Payers

/-- A trade moved `paidIn` into a pool and `paidOut` out of it. -/
structure Traded (cfg : Config) (s t : State) (assets : AssetPair) (paidIn paidOut : ℕ) :
    Prop where
  shareToken : t.shareToken = s.shareToken
  poolAssets : t.poolAssets = s.poolAssets
  totalLiquidity : t.totalLiquidity = s.totalLiquidity
  reserveIn : t.ledger.free (getPairId assets) assets.assetIn =
    s.ledger.free (getPairId assets) assets.assetIn + paidIn
  reserveOut : t.ledger.free (getPairId assets) assets.assetOut + paidOut =
    s.ledger.free (getPairId assets) assets.assetOut
  others : ∀ other : AssetPair, getPairId other ≠ getPairId assets → ∀ asset,
    t.ledger.free (getPairId other) asset = s.ledger.free (getPairId other) asset
  issuance : ∀ token, token ≠ cfg.nativeAssetId →
    t.ledger.issuance token = s.ledger.issuance token

section Trades

variable {key limit : ℕ} {assets : AssetPair} {discount : Bool}

/-- What a signer trades is a trade of the pool. -/
theorem Settles.traded {paidIn paidOut burned : ℕ}
    (distinct : assets.assetIn ≠ assets.assetOut)
    (settles : Settles cfg s t (.signer key) assets paidIn paidOut burned)
    (shareToken : t.shareToken = s.shareToken) (poolAssets : t.poolAssets = s.poolAssets)
    (totalLiquidity : t.totalLiquidity = s.totalLiquidity) :
    Traded cfg s t assets paidIn paidOut := by
  have keyed := fun pair => getPairId_ne_signer pair key
  refine ⟨shareToken, poolAssets, totalLiquidity, ?_, ?_, ?_, ?_⟩
  · have entries := settles.free (getPairId assets) assets.assetIn
    simpa only [Ledger.entry_self, Ledger.entry_of_ne_currency distinct,
      Ledger.entry_of_ne_account (keyed _), Nat.add_zero] using entries
  · have entries := settles.free (getPairId assets) assets.assetOut
    simpa only [Ledger.entry_self, Ledger.entry_of_ne_currency distinct.symm,
      Ledger.entry_of_ne_account (keyed _), Nat.add_zero] using entries
  · intro other apart asset
    have entries := settles.free (getPairId other) asset
    simpa only [Ledger.entry_of_ne_account (keyed _), Ledger.entry_of_ne_account apart,
      Nat.add_zero] using entries
  · intro token notNative
    rw [settles.issuance, Function.update_of_ne notNative]

theorem sell_traded (distinct : assets.assetIn ≠ assets.assetOut)
    (called : sell cfg s (.signer key) assets amount limit discount = .ok t) :
    ∃ amountOut fee,
      cfg.math.calculateOutGivenIn (s.ledger.free (getPairId assets) assets.assetIn)
        (s.ledger.free (getPairId assets) assets.assetOut) amount = some amountOut ∧
      amountOut < s.ledger.free (getPairId assets) assets.assetOut ∧
      Traded cfg s t assets amount (amountOut - fee) := by
  simp only [sell, bind_eq_ok] at called
  obtain ⟨transfer, valid, executed⟩ := called
  obtain ⟨amountOut, fee, _, -, -, -, -, -, priced, -, -, below, -, -, rfl⟩ :=
    validateSell_ok valid
  obtain ⟨_, _, -, -, -, tokens, pairs, totals⟩ := executeSell_ok executed
  exact ⟨amountOut, fee, priced, below,
    (executeSell_settles executed).traded distinct tokens pairs totals⟩

theorem buy_traded (distinct : assets.assetIn ≠ assets.assetOut)
    (called : buy cfg s (.signer key) assets amount limit discount = .ok t) :
    ∃ buyPrice fee,
      cfg.math.calculateInGivenOut (s.ledger.free (getPairId assets) assets.assetOut)
        (s.ledger.free (getPairId assets) assets.assetIn) amount = some buyPrice ∧
      amount < s.ledger.free (getPairId assets) assets.assetOut ∧
      Traded cfg s t assets (buyPrice + fee) amount := by
  simp only [buy, bind_eq_ok] at called
  obtain ⟨transfer, valid, executed⟩ := called
  obtain ⟨buyPrice, fee, _, -, -, below, -, -, priced, -, fits, -, -, -, rfl⟩ :=
    validateBuy_ok valid
  obtain ⟨_, _, -, -, -, tokens, pairs, totals⟩ := executeBuy_ok executed
  have settles := executeBuy_settles executed
  -- the sum was checked when the trade was validated
  rw [wrappingAdd_of_lt fits] at settles
  exact ⟨buyPrice, fee, priced, below, settles.traded distinct tokens pairs totals⟩

/-- Only existing pools are traded with. -/
theorem sell_poolExists
    (called : sell cfg s (.signer key) assets amount limit discount = .ok t) :
    s.poolExists assets = true := by
  simp only [sell, bind_eq_ok] at called
  obtain ⟨transfer, valid, -⟩ := called
  obtain ⟨_, _, _, -, present, -⟩ := validateSell_ok valid
  exact present

theorem buy_poolExists
    (called : buy cfg s (.signer key) assets amount limit discount = .ok t) :
    s.poolExists assets = true := by
  simp only [buy, bind_eq_ok] at called
  obtain ⟨transfer, valid, -⟩ := called
  obtain ⟨_, _, _, -, present, -⟩ := validateBuy_ok valid
  exact present

end Trades

end Basilisk.Xyk
