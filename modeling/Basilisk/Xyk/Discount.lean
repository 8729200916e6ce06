/-
# What the discount charge is worth

The fee of a sale is kept in the asset bought, the fee of a purchase is paid in the
asset sold.  A discounted trade is charged the fee once more, in the native asset, and
the charge is quoted in a pool with the native asset: that of the asset sold for a sale,
that of the asset bought for a purchase.  In both cases this is the pool of the other
asset, not of the one the fee is counted in.  So the charge is the native value of
the fee exactly when the two pools happen to quote the fee alike.
-/

import Basilisk.Xyk.Execution

namespace Basilisk.Xyk

open Basilisk.Math

variable {cfg : Config} {s : State} {who : AccountId} {assets : AssetPair}
variable {amount limit : ℕ} {transfer : AMMTransfer}

/-- The quote of `amount` units of an asset in its pool with the native asset. -/
def nativeQuote (cfg : Config) (s : State) (asset : AssetId) (amount : ℕ) : ℕ :=
  amount * s.ledger.free (getPairId ⟨asset, cfg.nativeAssetId⟩) cfg.nativeAssetId /
    s.ledger.free (getPairId ⟨asset, cfg.nativeAssetId⟩) asset

/-- An asset has a spot price in the native asset if the pool of the two exists and holds
some of the asset. -/
def HasNativePrice (cfg : Config) (s : State) (asset : AssetId) : Prop :=
  s.poolExists ⟨asset, cfg.nativeAssetId⟩ = true ∧
    s.ledger.free (getPairId ⟨asset, cfg.nativeAssetId⟩) asset ≠ 0

instance (cfg : Config) (s : State) (asset : AssetId) :
    Decidable (HasNativePrice cfg s asset) :=
  inferInstanceAs (Decidable (_ ∧ _))

/-- What `amount` units of an asset are worth in the native asset at the spot price; the
native asset is worth itself. -/
def nativeValue (cfg : Config) (s : State) (asset : AssetId) (amount : ℕ) : Option ℕ :=
  if asset = cfg.nativeAssetId then some amount
  else if HasNativePrice cfg s asset then some (nativeQuote cfg s asset amount)
  else none

/-- The pool of `asset` and the native asset quotes `fee` units at what `fee` units of
`feeAsset` are worth. -/
def SameQuote (cfg : Config) (s : State) (asset feeAsset : AssetId) (fee : ℕ) : Prop :=
  if feeAsset = cfg.nativeAssetId then nativeQuote cfg s asset fee = fee
  else HasNativePrice cfg s feeAsset ∧
    nativeQuote cfg s asset fee = nativeQuote cfg s feeAsset fee

theorem nativeValue_eq_quote_iff {asset feeAsset : AssetId} {fee : ℕ} :
    nativeValue cfg s feeAsset fee = some (nativeQuote cfg s asset fee) ↔
      SameQuote cfg s asset feeAsset fee := by
  unfold nativeValue SameQuote
  split_ifs with isNative priced
  · rw [Option.some.injEq]
    exact eq_comm
  · rw [Option.some.injEq, eq_comm]
    exact (and_iff_right priced).symm
  · simp [priced]

/-- The fee and the charge of a discounted sale. -/
theorem validateSell_discounted (lawful : cfg.math.Lawful)
    (valid : validateSell cfg s who assets amount limit true = .ok transfer) :
    transfer.fee = (assets.assetOut, discountedFee (sellQuote s assets amount)) ∧
      transfer.discountAmount = nativeQuote cfg s assets.assetIn transfer.fee.2 := by
  obtain ⟨amountOut, fee, charge, -, -, -, -, -, priced, feeOf, -, -, -, quoted, rfl⟩ :=
    validateSell_ok valid
  have spot := (discountFee_quoted quoted).2
  constructor
  · rw [sellQuote, ← lawful.outGivenIn priced, ← transferFeeOf_discounted lawful feeOf]
  · exact (lawful.spotPrice spot).2

/-- The fee and the charge of a discounted purchase. -/
theorem validateBuy_discounted (lawful : cfg.math.Lawful)
    (valid : validateBuy cfg s who assets amount limit true = .ok transfer) :
    transfer.fee = (assets.assetIn, discountedFee (buyQuote s assets amount)) ∧
      transfer.discountAmount = nativeQuote cfg s assets.assetOut transfer.fee.2 := by
  obtain ⟨buyPrice, fee, charge, -, -, -, -, -, priced, feeOf, -, -, -, quoted, rfl⟩ :=
    validateBuy_ok valid
  have spot := (discountFee_quoted quoted).2
  constructor
  · rw [buyQuote, ← lawful.inGivenOut priced, ← transferFeeOf_discounted lawful feeOf]
  · exact (lawful.spotPrice spot).2

/-- **Discount charge.**  The charge of a validated discounted trade is the native value of
its fee if and only if the pool it is quoted in, that of the asset sold for a sale and of
the asset bought for a purchase, quotes the fee like the pool of the fee's own asset. -/
theorem discount_values_fee_iff (lawful : cfg.math.Lawful) (s : State) (who : AccountId)
    (assets : AssetPair) (amount limit : ℕ) (transfer : AMMTransfer) :
    (validateSell cfg s who assets amount limit true = .ok transfer →
      (nativeValue cfg s transfer.fee.1 transfer.fee.2 = some transfer.discountAmount ↔
        SameQuote cfg s assets.assetIn assets.assetOut
          (discountedFee (sellQuote s assets amount)))) ∧
    (validateBuy cfg s who assets amount limit true = .ok transfer →
      (nativeValue cfg s transfer.fee.1 transfer.fee.2 = some transfer.discountAmount ↔
        SameQuote cfg s assets.assetOut assets.assetIn
          (discountedFee (buyQuote s assets amount)))) := by
  constructor
  · intro valid
    obtain ⟨fee, charge⟩ := validateSell_discounted lawful valid
    rw [charge, fee]
    exact nativeValue_eq_quote_iff
  · intro valid
    obtain ⟨fee, charge⟩ := validateBuy_discounted lawful valid
    rw [charge, fee]
    exact nativeValue_eq_quote_iff

/-- Assets 1 and 2 trade at par, but the native asset is worth one unit of asset 1 and a
quarter of a unit of asset 2.  The fee of 63 units of asset 2 is worth 252 and charged at
63. -/
theorem discount_undervalues_fee :
    ¬ ∀ (cfg : Config) (s : State) (who : AccountId) (assets : AssetPair)
        (amount limit : ℕ) (transfer : AMMTransfer),
      cfg.math.Lawful → Reachable Initial (Step cfg) s →
      validateSell cfg s who assets amount limit true = .ok transfer →
      nativeValue cfg s transfer.fee.1 transfer.fee.2 = some transfer.discountAmount := by
  intro claim
  have computed : succeedsWith (do
      let s ← [Call.createPool 1 ⟨true, true⟩ 1 0 1000000 FixedU128.one,
        .createPool 1 ⟨true, true⟩ 2 0 1000000 (4 * FixedU128.one),
        .createPool 1 ⟨true, true⟩ 1 2 1000000 FixedU128.one].foldlM
        (dispatch nativeConfig) nativeState
      let transfer ← validateSell nativeConfig s (.signer 2) ⟨1, 2⟩ 100000 0 true
      return (s, transfer)) (fun (s, transfer) => decide
        (transfer.fee = (2, 63) ∧ transfer.discountAmount = 63 ∧
          nativeValue nativeConfig s 2 63 = some 252)) = true := by
    decide +kernel
  simp only [succeedsWith_iff, bind_eq_ok, return_eq_ok, decide_eq_true_eq] at computed
  obtain ⟨_, ⟨s, run, transfer, valid, rfl⟩, fee, charge, worth⟩ := computed
  have valued := claim nativeConfig s (.signer 2) ⟨1, 2⟩ 100000 0 transfer
    Math.reference_lawful (reachable_native run) valid
  dsimp only at fee charge worth
  rw [fee, charge, worth] at valued
  exact absurd valued (by decide)

/-- With all three pools at par the charge is what the fee is worth, both ways. -/
theorem discount_values_fee_at_par :
    ∃ s sold bought,
      validateSell nativeConfig s (.signer 2) ⟨1, 2⟩ 100000 0 true = .ok sold ∧
      validateBuy nativeConfig s (.signer 2) ⟨1, 2⟩ 100000 200000 true = .ok bought ∧
      nativeValue nativeConfig s sold.fee.1 sold.fee.2 = some sold.discountAmount ∧
      nativeValue nativeConfig s bought.fee.1 bought.fee.2 = some bought.discountAmount := by
  have computed : succeedsWith (do
      let s ← [Call.createPool 1 ⟨true, true⟩ 1 0 1000000 FixedU128.one,
        .createPool 1 ⟨true, true⟩ 2 0 1000000 FixedU128.one,
        .createPool 1 ⟨true, true⟩ 1 2 1000000 FixedU128.one].foldlM
        (dispatch nativeConfig) nativeState
      let sold ← validateSell nativeConfig s (.signer 2) ⟨1, 2⟩ 100000 0 true
      let bought ← validateBuy nativeConfig s (.signer 2) ⟨1, 2⟩ 100000 200000 true
      return (s, sold, bought)) (fun (s, _) => decide
        (nativeQuote nativeConfig s 1 63 = 63 ∧ nativeQuote nativeConfig s 2 63 = 63 ∧
          nativeQuote nativeConfig s 1 77 = 77 ∧ nativeQuote nativeConfig s 2 77 = 77 ∧
          HasNativePrice nativeConfig s 1 ∧ HasNativePrice nativeConfig s 2 ∧
          discountedFee (sellQuote s ⟨1, 2⟩ 100000) = 63 ∧
          discountedFee (buyQuote s ⟨1, 2⟩ 100000) = 77)) = true := by
    decide +kernel
  simp only [succeedsWith_iff, bind_eq_ok, return_eq_ok, decide_eq_true_eq] at computed
  obtain ⟨_, ⟨s, -, sold, validSell, bought, validBuy, rfl⟩, sell₁, sell₂, buy₁, buy₂, priced₁,
    priced₂, sellFee, buyFee⟩ := computed
  dsimp only at sell₁ sell₂ buy₁ buy₂ priced₁ priced₂ sellFee buyFee
  have selling := (discount_values_fee_iff Math.reference_lawful s (.signer 2) ⟨1, 2⟩ 100000 0
    sold).1 validSell
  have buying := (discount_values_fee_iff Math.reference_lawful s (.signer 2) ⟨1, 2⟩ 100000
    200000 bought).2 validBuy
  refine ⟨s, sold, bought, validSell, validBuy, selling.mpr ?_, buying.mpr ?_⟩
  · rw [sellFee, SameQuote, if_neg (by decide)]
    exact ⟨priced₂, sell₁.trans sell₂.symm⟩
  · rw [buyFee, SameQuote, if_neg (by decide)]
    exact ⟨priced₁, buy₂.trans buy₁.symm⟩

end Basilisk.Xyk
