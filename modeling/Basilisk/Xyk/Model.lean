/-
# The XYK pallet

A constant-product pool for every unordered asset pair.  The pool's reserves are
the balances of the pair account; its share token is issued by the pallet and
counted in `totalLiquidity`.  The pricing formulas live in a separate crate, so
they are a parameter, `Math`, with the formulas the pallet relies on stated as
`Math.Lawful`.  The asset registry is a parameter too: it answers a token name
with one share asset.

Every extrinsic is transactional, so a call is a function into `Except`: an
error leaves the state as it was.
-/

import Basilisk.Math.Run
import Basilisk.Math.StorageMap
import Basilisk.Primitives

namespace Basilisk.Xyk

open Basilisk.Math

/-- The functions of `hydra_dx_math::xyk` and `hydra_dx_math::fee` the pallet
calls. -/
structure Math where
  calculateLiquidityIn (reserveA reserveB amount : ℕ) : Option ℕ
  calculateLiquidityOut (reserveA reserveB amount total : ℕ) : Option (ℕ × ℕ)
  calculateOutGivenIn (inReserve outReserve amount : ℕ) : Option ℕ
  calculateInGivenOut (outReserve inReserve amount : ℕ) : Option ℕ
  calculateSpotPrice (inReserve outReserve amount : ℕ) : Option ℕ
  calculatePoolTradeFee (amount : ℕ) (fee : ℕ × ℕ) : Option ℕ

/-- The value every successful formula has. -/
structure Math.Lawful (math : Math) : Prop where
  liquidityIn {reserveA reserveB amount result : ℕ} :
    math.calculateLiquidityIn reserveA reserveB amount = some result →
      reserveA ≠ 0 ∧ result = amount * reserveB / reserveA
  liquidityOut {reserveA reserveB amount total resultA resultB : ℕ} :
    math.calculateLiquidityOut reserveA reserveB amount total =
        some (resultA, resultB) →
      total ≠ 0 ∧ resultA = amount * reserveA / total ∧
        resultB = amount * reserveB / total
  outGivenIn {inReserve outReserve amount result : ℕ} :
    math.calculateOutGivenIn inReserve outReserve amount = some result →
      result = outReserve * amount / (inReserve + amount)
  inGivenOut {outReserve inReserve amount result : ℕ} :
    math.calculateInGivenOut outReserve inReserve amount = some result →
      result = if amount = 0 then 0 else inReserve * amount / (outReserve - amount) + 1
  spotPrice {inReserve outReserve amount result : ℕ} :
    math.calculateSpotPrice inReserve outReserve amount = some result →
      inReserve ≠ 0 ∧ result = amount * outReserve / inReserve
  poolTradeFee {amount numerator denominator result : ℕ} :
    math.calculatePoolTradeFee amount (numerator, denominator) = some result →
      result = if denominator = 0 then 0 else amount / denominator * numerator

/-- Keep a result that fits a `u128`. -/
def fitting (result : ℕ) : Option ℕ :=
  if result < u128Bound then some result else none

@[simp]
theorem fitting_eq_some {result kept : ℕ} :
    fitting result = some kept ↔ result < u128Bound ∧ result = kept := by
  unfold fitting
  split_ifs with fits <;> simp [fits]

/-- The formulas themselves, with a range check on every result. -/
def Math.reference : Math where
  calculateLiquidityIn reserveA reserveB amount :=
    if reserveA = 0 then none else fitting (amount * reserveB / reserveA)
  calculateLiquidityOut reserveA reserveB amount total :=
    if total = 0 then none
    else some (amount * reserveA / total, amount * reserveB / total)
  calculateOutGivenIn inReserve outReserve amount :=
    if inReserve + amount = 0 then none
    else fitting (outReserve * amount / (inReserve + amount))
  calculateInGivenOut outReserve inReserve amount :=
    if amount < outReserve then
      fitting (if amount = 0 then 0 else inReserve * amount / (outReserve - amount) + 1)
    else none
  calculateSpotPrice inReserve outReserve amount :=
    if inReserve = 0 then none else fitting (amount * outReserve / inReserve)
  calculatePoolTradeFee amount fee :=
    fitting (if fee.2 = 0 then 0 else amount / fee.2 * fee.1)

theorem Math.reference_lawful : Math.reference.Lawful where
  liquidityIn computed := by
    simp only [Math.reference] at computed
    split_ifs at computed with hzero
    rw [fitting_eq_some] at computed
    exact ⟨hzero, computed.2.symm⟩
  liquidityOut computed := by
    simp only [Math.reference] at computed
    split_ifs at computed with hzero
    simp only [Option.some.injEq, Prod.mk.injEq] at computed
    exact ⟨hzero, computed.1.symm, computed.2.symm⟩
  outGivenIn computed := by
    simp only [Math.reference] at computed
    split_ifs at computed with hzero
    rw [fitting_eq_some] at computed
    exact computed.2.symm
  inGivenOut computed := by
    simp only [Math.reference] at computed
    split_ifs at computed with hbelow hzero
    · rw [fitting_eq_some] at computed
      rw [if_pos hzero, computed.2]
    · rw [fitting_eq_some] at computed
      rw [if_neg hzero, computed.2]
  spotPrice computed := by
    simp only [Math.reference] at computed
    split_ifs at computed with hzero
    rw [fitting_eq_some] at computed
    exact ⟨hzero, computed.2.symm⟩
  poolTradeFee computed := by
    simp only [Math.reference] at computed
    rw [fitting_eq_some] at computed
    exact computed.2.symm

/-- The pallet's `Config`. -/
structure Config where
  nativeAssetId : AssetId
  getExchangeFee : ℕ × ℕ
  minTradingLimit : ℕ
  minPoolLiquidity : ℕ
  maxInRatio : ℕ
  maxOutRatio : ℕ
  /-- `AssetRegistry::get_or_create_shared_asset`, which answers by name. -/
  getOrCreateSharedAsset : List UInt8 → Option AssetId
  math : Math

/-- The runtime's constants, for a given registry and exchange fee of 0.2%. -/
def Config.runtime (getOrCreateSharedAsset : List UInt8 → Option AssetId) : Config where
  nativeAssetId := 0
  getExchangeFee := (2, 1000)
  minTradingLimit := 1000
  minPoolLiquidity := 1000
  maxInRatio := 3
  maxOutRatio := 3
  getOrCreateSharedAsset
  math := .reference

/-- A registry that knows one pair only. -/
def onePairRegistry (pair : AssetPair) (token : AssetId) (name : List UInt8) :
    Option AssetId :=
  if name = pair.name then some token else none

/-- Pallet errors; the last three come from the pallets it calls. -/
inductive Error
  | cannotCreatePoolWithSameAssets
  | insufficientLiquidity
  | insufficientTradingAmount
  | zeroLiquidity
  | zeroInitialPrice
  | createPoolAssetAmountInvalid
  | invalidMintedLiquidity
  | invalidLiquidityAmount
  | assetAmountExceededLimit
  | assetAmountNotReachedLimit
  | insufficientAssetBalance
  | insufficientPoolAssetBalance
  | insufficientNativeCurrencyBalance
  | tokenPoolNotFound
  | tokenPoolAlreadyExists
  | addAssetAmountInvalid
  | removeAssetAmountInvalid
  | sellAssetAmountInvalid
  | buyAssetAmountInvalid
  | feeAmountInvalid
  | cannotApplyDiscount
  | maxOutRatioExceeded
  | maxInRatioExceeded
  | overflow
  | cannotCreatePool
  | currency
  | assetRegistry
  | ammHandler
  deriving DecidableEq, Repr

inductive Event
  | liquidityAdded (who : AccountId) (assetA assetB : AssetId) (amountA amountB : ℕ)
  | liquidityRemoved (who : AccountId) (assetA assetB : AssetId) (shares : ℕ)
  | poolCreated (who : AccountId) (assetA assetB : AssetId) (shares : ℕ)
      (shareToken : AssetId) (pool : AccountId)
  | poolDestroyed (who : AccountId) (assetA assetB : AssetId)
      (shareToken : AssetId) (pool : AccountId)
  | sellExecuted (who : AccountId) (assetIn assetOut : AssetId)
      (amount salePrice : ℕ) (feeAsset : AssetId) (fee : ℕ) (pool : AccountId)
  | buyExecuted (who : AccountId) (assetOut assetIn : AssetId)
      (amount buyPrice : ℕ) (feeAsset : AssetId) (fee : ℕ) (pool : AccountId)
  deriving DecidableEq, Repr

/-- The pallet's storage over the chain's ledger. -/
structure State where
  ledger : Currencies
  shareToken : AList fun _ : AccountId => AssetId
  totalLiquidity : AList fun _ : AccountId => ℕ
  poolAssets : AList fun _ : AccountId => AssetId × AssetId
  events : List Event

/-- `AMMTransfer`: a validated trade. -/
structure AMMTransfer where
  origin : AccountId
  assets : AssetPair
  amount : ℕ
  amountOut : ℕ
  discount : Bool
  discountAmount : ℕ
  fee : AssetId × ℕ
  deriving DecidableEq, Repr

/-- The answers of the two hooks of `create_pool` at the time of the call:
`CanCreatePool::can_create` and `AMMHandler::on_create_pool`. -/
structure CreationHooks where
  canCreate : Bool
  onCreatePool : Bool
  deriving DecidableEq, Repr

/-- The identifier `"xyk"`. -/
def identifier : List UInt8 := [120, 121, 107]

/-- `pair_account_from_assets`. -/
def pairAccountFromAssets (assetA assetB : AssetId) : AccountId :=
  fromAssets identifier assetA assetB

/-- `get_pair_id`. -/
def getPairId (assets : AssetPair) : AccountId :=
  pairAccountFromAssets assets.assetIn assets.assetOut

namespace State

def depositEvent (s : State) (event : Event) : State :=
  { s with events := s.events ++ [event] }

/-- `exists`. -/
def poolExists (s : State) (assets : AssetPair) : Bool :=
  (s.shareToken.lookup (getPairId assets)).isSome

/-- `get_share_token`: a missing pool has the default asset id. -/
def getShareToken (s : State) (assets : AssetPair) : AssetId :=
  (s.shareToken.lookup (getPairId assets)).getD 0

/-- `total_liquidity`. -/
def totalLiquidityOf (s : State) (account : AccountId) : ℕ :=
  (s.totalLiquidity.lookup account).getD 0

/-- `T::Currency::transfer` on the shared ledger. -/
def transfer (s : State) (currency : AssetId) (sender receiver : AccountId)
    (amount : ℕ) : Except Error State := do
  let ledger ← okOr (s.ledger.transfer currency sender receiver amount) .currency
  return { s with ledger }

/-- `T::Currency::deposit`. -/
def deposit (s : State) (currency : AssetId) (who : AccountId) (amount : ℕ) :
    Except Error State := do
  let ledger ← okOr (s.ledger.deposit u128Bound currency who amount) .currency
  return { s with ledger }

/-- `T::Currency::withdraw`. -/
def withdraw (s : State) (currency : AssetId) (who : AccountId) (amount : ℕ) :
    Except Error State := do
  let ledger ← okOr (s.ledger.withdraw currency who amount) .currency
  return { s with ledger }

end State

/-- `create_pool`. -/
def createPool (cfg : Config) (s : State) (hooks : CreationHooks)
    (who : AccountId) (assetA assetB : AssetId) (amount initialPrice : ℕ) :
    Except Error State := do
  ensure (hooks.canCreate = true) .cannotCreatePool
  ensure (cfg.minPoolLiquidity ≤ amount) .insufficientLiquidity
  ensure (initialPrice ≠ 0) .zeroInitialPrice
  ensure (assetA ≠ assetB) .cannotCreatePoolWithSameAssets
  let assetPair : AssetPair := ⟨assetA, assetB⟩
  ensure (s.poolExists assetPair = false) .tokenPoolAlreadyExists
  let assetBAmount ←
    okOr (FixedU128.checkedMulInt initialPrice amount) .createPoolAssetAmountInvalid
  ensure (cfg.minPoolLiquidity ≤ assetBAmount) .insufficientLiquidity
  let sharesAdded := if assetA < assetB then amount else assetBAmount
  ensure (amount ≤ s.ledger.free who assetA) .insufficientAssetBalance
  ensure (assetBAmount ≤ s.ledger.free who assetB) .insufficientAssetBalance
  let pairAccount := getPairId assetPair
  let shareToken ← okOr (cfg.getOrCreateSharedAsset assetPair.name) .assetRegistry
  ensure (hooks.onCreatePool = true) .ammHandler
  let s := { s with
    shareToken := s.shareToken.insert pairAccount shareToken
    poolAssets := s.poolAssets.insert pairAccount (assetA, assetB) }
  let s := s.depositEvent
    (.poolCreated who assetA assetB sharesAdded shareToken pairAccount)
  let s ← s.transfer assetA who pairAccount amount
  let s ← s.transfer assetB who pairAccount assetBAmount
  let s ← s.deposit shareToken who sharesAdded
  return { s with totalLiquidity := s.totalLiquidity.insert pairAccount sharesAdded }

/-- `add_liquidity`. -/
def addLiquidity (cfg : Config) (s : State) (who : AccountId)
    (assetA assetB : AssetId) (amountA amountBMaxLimit : ℕ) :
    Except Error State := do
  let assetPair : AssetPair := ⟨assetA, assetB⟩
  ensure (s.poolExists assetPair = true) .tokenPoolNotFound
  ensure (cfg.minTradingLimit ≤ amountA) .insufficientTradingAmount
  ensure (amountBMaxLimit ≠ 0) .zeroLiquidity
  ensure (amountA ≤ s.ledger.free who assetA) .insufficientAssetBalance
  ensure (amountBMaxLimit ≤ s.ledger.free who assetB) .insufficientAssetBalance
  let pairAccount := getPairId assetPair
  let shareToken := s.getShareToken assetPair
  let accountShares := s.ledger.free who shareToken
  let assetAReserve := s.ledger.free pairAccount assetA
  let assetBReserve := s.ledger.free pairAccount assetB
  let totalLiquidity := s.totalLiquidityOf pairAccount
  let amountBRequired ←
    okOr (cfg.math.calculateLiquidityIn assetAReserve assetBReserve amountA)
      .addAssetAmountInvalid
  let sharesAdded := if assetA < assetB then amountA else amountBRequired
  ensure (amountBRequired ≤ amountBMaxLimit) .assetAmountExceededLimit
  ensure (sharesAdded ≠ 0) .invalidMintedLiquidity
  let newShares ←
    okOr (checkedAdd u128Bound accountShares sharesAdded) .invalidMintedLiquidity
  ensure (cfg.minPoolLiquidity ≤ newShares) .insufficientLiquidity
  let liquidityAmount ←
    okOr (checkedAdd u128Bound totalLiquidity sharesAdded) .invalidLiquidityAmount
  let s ← s.transfer assetA who pairAccount amountA
  let s ← s.transfer assetB who pairAccount amountBRequired
  let s ← s.deposit shareToken who sharesAdded
  let s := { s with
    totalLiquidity := s.totalLiquidity.insert pairAccount liquidityAmount }
  return s.depositEvent (.liquidityAdded who assetA assetB amountA amountBRequired)

/-- `remove_liquidity`. -/
def removeLiquidity (cfg : Config) (s : State) (who : AccountId)
    (assetA assetB : AssetId) (liquidityAmount : ℕ) : Except Error State := do
  let assetPair : AssetPair := ⟨assetA, assetB⟩
  ensure (liquidityAmount ≠ 0) .zeroLiquidity
  ensure (s.poolExists assetPair = true) .tokenPoolNotFound
  let pairAccount := getPairId assetPair
  let shareToken := s.getShareToken assetPair
  let totalShares := s.totalLiquidityOf pairAccount
  let accountShares := s.ledger.free who shareToken
  ensure (liquidityAmount ≤ totalShares) .insufficientLiquidity
  ensure (liquidityAmount ≤ accountShares) .insufficientAssetBalance
  -- the account keeps nothing or at least the minimum; the source saturates here
  ensure (cfg.minPoolLiquidity ≤ accountShares - liquidityAmount ∨
    accountShares = liquidityAmount) .insufficientLiquidity
  let assetAReserve := s.ledger.free pairAccount assetA
  let assetBReserve := s.ledger.free pairAccount assetB
  let liquidityOut ←
    okOr (cfg.math.calculateLiquidityOut assetAReserve assetBReserve
      liquidityAmount totalShares) .removeAssetAmountInvalid
  let removeAmountA := liquidityOut.1
  let removeAmountB := liquidityOut.2
  ensure (removeAmountA ≤ s.ledger.free pairAccount assetA)
    .insufficientPoolAssetBalance
  ensure (removeAmountB ≤ s.ledger.free pairAccount assetB)
    .insufficientPoolAssetBalance
  let liquidityLeft ←
    okOr (checkedSub totalShares liquidityAmount) .invalidLiquidityAmount
  let s ← s.transfer assetA pairAccount who removeAmountA
  let s ← s.transfer assetB pairAccount who removeAmountB
  let s ← s.withdraw shareToken who liquidityAmount
  let s := { s with
    totalLiquidity := s.totalLiquidity.insert pairAccount liquidityLeft }
  let s := s.depositEvent (.liquidityRemoved who assetA assetB liquidityAmount)
  if liquidityLeft = 0 then
    let s := { s with
      shareToken := s.shareToken.erase pairAccount
      poolAssets := s.poolAssets.erase pairAccount
      totalLiquidity := s.totalLiquidity.erase pairAccount }
    return s.depositEvent (.poolDestroyed who assetA assetB shareToken pairAccount)
  else
    return s

/-- `calculate_discounted_fee`: 0.07%. -/
def calculateDiscountedFee (cfg : Config) (amount : ℕ) : Except Error ℕ :=
  okOr (cfg.math.calculatePoolTradeFee amount (7, 10000)) .feeAmountInvalid

/-- `calculate_fee`. -/
def calculateFee (cfg : Config) (amount : ℕ) : Except Error ℕ :=
  okOr (cfg.math.calculatePoolTradeFee amount cfg.getExchangeFee) .feeAmountInvalid

/-- The fee of a trade, by the branch both validations take. -/
def transferFeeOf (cfg : Config) (discount : Bool) (amount : ℕ) : Except Error ℕ :=
  if discount then calculateDiscountedFee cfg amount else calculateFee cfg amount

/-- `get_spot_price_unchecked`. -/
def getSpotPriceUnchecked (cfg : Config) (s : State) (assetA assetB : AssetId)
    (amount : ℕ) : ℕ :=
  let pairAccount := getPairId ⟨assetB, assetA⟩
  (cfg.math.calculateSpotPrice (s.ledger.free pairAccount assetA)
    (s.ledger.free pairAccount assetB) amount).getD 0

/-- The native charge of a discounted trade, quoted in the pool of `asset` and
the native asset; the two validations differ only in the asset they name. -/
def discountFee (cfg : Config) (s : State) (who : AccountId) (asset : AssetId)
    (discount : Bool) (transferFee : ℕ) : Except Error ℕ := do
  if discount then
    let nativePairAccount := getPairId ⟨asset, cfg.nativeAssetId⟩
    let nativeReserve := s.ledger.free nativePairAccount cfg.nativeAssetId
    let assetReserve := s.ledger.free nativePairAccount asset
    let nativeFeeSpotPrice ←
      okOr (cfg.math.calculateSpotPrice assetReserve nativeReserve transferFee)
        .cannotApplyDiscount
    ensure (nativeFeeSpotPrice ≤ s.ledger.free who cfg.nativeAssetId)
      .insufficientNativeCurrencyBalance
    return nativeFeeSpotPrice
  else
    return 0

/-- `validate_sell`. -/
def validateSell (cfg : Config) (s : State) (who : AccountId)
    (assets : AssetPair) (amount minBought : ℕ) (discount : Bool) :
    Except Error AMMTransfer := do
  ensure (cfg.minTradingLimit ≤ amount) .insufficientTradingAmount
  ensure (s.poolExists assets = true) .tokenPoolNotFound
  ensure (amount ≤ s.ledger.free who assets.assetIn) .insufficientAssetBalance
  ensure (discount = true →
    s.poolExists ⟨assets.assetIn, cfg.nativeAssetId⟩ = true) .cannotApplyDiscount
  let pairAccount := getPairId assets
  let assetInReserve := s.ledger.free pairAccount assets.assetIn
  let assetOutReserve := s.ledger.free pairAccount assets.assetOut
  let maxIn ← okOr (checkedDiv assetInReserve cfg.maxInRatio) .overflow
  ensure (amount ≤ maxIn) .maxInRatioExceeded
  let amountOut ←
    okOr (cfg.math.calculateOutGivenIn assetInReserve assetOutReserve amount)
      .sellAssetAmountInvalid
  let transferFee ← transferFeeOf cfg discount amountOut
  let amountOutWithoutFee ←
    okOr (checkedSub amountOut transferFee) .sellAssetAmountInvalid
  ensure (amountOut < assetOutReserve) .insufficientAssetBalance
  ensure (minBought ≤ amountOutWithoutFee) .assetAmountNotReachedLimit
  let discountFee ← discountFee cfg s who assets.assetIn discount transferFee
  return {
    origin := who
    assets
    amount
    amountOut := amountOutWithoutFee
    discount
    discountAmount := discountFee
    fee := (assets.assetOut, transferFee) }

/-- The withdrawal of the discount charge, common to both executions. -/
def chargeDiscount (cfg : Config) (s : State) (transfer : AMMTransfer) :
    Except Error State :=
  if transfer.discount = true ∧ 0 < transfer.discountAmount then
    s.withdraw cfg.nativeAssetId transfer.origin transfer.discountAmount
  else
    return s

/-- `execute_sell`. -/
def executeSell (cfg : Config) (s : State) (transfer : AMMTransfer) :
    Except Error State := do
  let pairAccount := getPairId transfer.assets
  let s ← chargeDiscount cfg s transfer
  let s ← s.transfer transfer.assets.assetIn transfer.origin pairAccount
    transfer.amount
  let s ← s.transfer transfer.assets.assetOut pairAccount transfer.origin
    transfer.amountOut
  return s.depositEvent (.sellExecuted transfer.origin transfer.assets.assetIn
    transfer.assets.assetOut transfer.amount transfer.amountOut transfer.fee.1
    transfer.fee.2 pairAccount)

/-- `validate_buy`. -/
def validateBuy (cfg : Config) (s : State) (who : AccountId)
    (assets : AssetPair) (amount maxLimit : ℕ) (discount : Bool) :
    Except Error AMMTransfer := do
  ensure (cfg.minTradingLimit ≤ amount) .insufficientTradingAmount
  ensure (s.poolExists assets = true) .tokenPoolNotFound
  let pairAccount := getPairId assets
  let assetOutReserve := s.ledger.free pairAccount assets.assetOut
  let assetInReserve := s.ledger.free pairAccount assets.assetIn
  ensure (amount < assetOutReserve) .insufficientPoolAssetBalance
  let maxOut ← okOr (checkedDiv assetOutReserve cfg.maxOutRatio) .overflow
  ensure (amount ≤ maxOut) .maxOutRatioExceeded
  ensure (discount = true →
    s.poolExists ⟨assets.assetOut, cfg.nativeAssetId⟩ = true) .cannotApplyDiscount
  let buyPrice ←
    okOr (cfg.math.calculateInGivenOut assetOutReserve assetInReserve amount)
      .buyAssetAmountInvalid
  let transferFee ← transferFeeOf cfg discount buyPrice
  let buyPriceWithFee ←
    okOr (checkedAdd u128Bound buyPrice transferFee) .buyAssetAmountInvalid
  ensure (buyPriceWithFee ≤ maxLimit) .assetAmountExceededLimit
  ensure (buyPriceWithFee ≤ s.ledger.free who assets.assetIn)
    .insufficientAssetBalance
  let discountFee ← discountFee cfg s who assets.assetOut discount transferFee
  return {
    origin := who
    assets
    amount
    amountOut := buyPrice
    discount
    discountAmount := discountFee
    fee := (assets.assetIn, transferFee) }

/-- `execute_buy`; the sum of price and fee is not checked again. -/
def executeBuy (cfg : Config) (s : State) (transfer : AMMTransfer) :
    Except Error State := do
  let pairAccount := getPairId transfer.assets
  let s ← chargeDiscount cfg s transfer
  let s ← s.transfer transfer.assets.assetOut pairAccount transfer.origin
    transfer.amount
  let s ← s.transfer transfer.assets.assetIn transfer.origin pairAccount
    (wrappingAdd u128Bound transfer.amountOut transfer.fee.2)
  return s.depositEvent (.buyExecuted transfer.origin transfer.assets.assetOut
    transfer.assets.assetIn transfer.amount transfer.amountOut transfer.fee.1
    transfer.fee.2 pairAccount)

/-- `AMM::sell`: validate, then execute. -/
def sell (cfg : Config) (s : State) (who : AccountId) (assets : AssetPair)
    (amount minBought : ℕ) (discount : Bool) : Except Error State := do
  let transfer ← validateSell cfg s who assets amount minBought discount
  executeSell cfg s transfer

/-- `AMM::buy`: validate, then execute. -/
def buy (cfg : Config) (s : State) (who : AccountId) (assets : AssetPair)
    (amount maxLimit : ℕ) (discount : Bool) : Except Error State := do
  let transfer ← validateBuy cfg s who assets amount maxLimit discount
  executeBuy cfg s transfer

/-- The pallet's extrinsics; `who` is the key that signed. -/
inductive Call
  | createPool (who : ℕ) (hooks : CreationHooks) (assetA assetB : AssetId)
      (amount initialPrice : ℕ)
  | addLiquidity (who : ℕ) (assetA assetB : AssetId) (amountA amountBMaxLimit : ℕ)
  | removeLiquidity (who : ℕ) (assetA assetB : AssetId) (liquidityAmount : ℕ)
  | sell (who : ℕ) (assetIn assetOut : AssetId) (amount maxLimit : ℕ)
      (discount : Bool)
  | buy (who : ℕ) (assetOut assetIn : AssetId) (amount maxLimit : ℕ)
      (discount : Bool)
  deriving DecidableEq, Repr

def dispatch (cfg : Config) (s : State) : Call → Except Error State
  | .createPool who hooks assetA assetB amount initialPrice =>
      createPool cfg s hooks (.signer who) assetA assetB amount initialPrice
  | .addLiquidity who assetA assetB amountA limit =>
      addLiquidity cfg s (.signer who) assetA assetB amountA limit
  | .removeLiquidity who assetA assetB amount =>
      removeLiquidity cfg s (.signer who) assetA assetB amount
  | .sell who assetIn assetOut amount limit discount =>
      sell cfg s (.signer who) ⟨assetIn, assetOut⟩ amount limit discount
  | .buy who assetOut assetIn amount limit discount =>
      buy cfg s (.signer who) ⟨assetIn, assetOut⟩ amount limit discount

/-- Before the first call no pool exists; balances are arbitrary. -/
structure Initial (s : State) : Prop where
  shareToken : s.shareToken = ∅
  totalLiquidity : s.totalLiquidity = ∅
  poolAssets : s.poolAssets = ∅

/-- A successful call. -/
def Step (cfg : Config) (s : State) (call : Call) (t : State) : Prop :=
  dispatch cfg s call = .ok t

end Basilisk.Xyk
