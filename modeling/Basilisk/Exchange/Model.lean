/-
# The exchange pallet

During a block accounts register intentions to sell or to buy, quoted at the
spot price of the pool of the pair.  When the block is finalized the intentions
of every pair are matched: those that sell the higher asset id are the main
ones, and each of them is traded directly against the first intentions of the
other side that cover it.  Whatever is left goes through the pool.

A direct trade reserves the amounts of both parties, pays them out of the
reserves, and has no storage transaction around it; a failure is therefore a
state like any other, and only the two places where the source panics stop the
finalization.  Sums the source leaves unchecked wrap.  The identifier of an
intention is the tuple that is hashed into it, with the hash taken to be free of
collisions.
-/

import Basilisk.Xyk.Model
import Mathlib.Data.List.Sort

namespace Basilisk.Exchange

open Basilisk.Math

/-- `MIN_TRADING_LIMIT`. -/
def minTradingLimit : ℕ := 1000

inductive IntentionType
  | sell
  | buy
  deriving DecidableEq, Repr

/-- The tuple `generate_intention_id` hashes. -/
structure IntentionId where
  count : ℕ
  account : AccountId
  block : ℕ
  orderedPair : AssetId × AssetId
  deriving DecidableEq, Repr

structure Intention where
  who : AccountId
  assets : AssetPair
  amountIn : ℕ
  amountOut : ℕ
  tradeLimit : ℕ
  discount : Bool
  sellOrBuy : IntentionType
  intentionId : IntentionId
  deriving DecidableEq, Repr

inductive Error
  | tokenPoolNotFound
  | insufficientAssetBalance
  | tradeAmountExceededLimit
  | tradeAmountNotReachedLimit
  | zeroSpotPrice
  | minimumTradeLimitNotReached
  | intentionCountOverflow
  deriving DecidableEq, Repr

/-- The error detail of an event: the pallet's own or one of the pool's. -/
inductive ErrorDetail
  | exchange (error : Error)
  | amm (error : Xyk.Error)
  deriving DecidableEq, Repr

inductive Event
  | intentionRegistered (who : AccountId) (assetA assetB : AssetId) (amount : ℕ)
      (intentionType : IntentionType) (intentionId : IntentionId)
  | intentionResolvedAMMTrade (who : AccountId) (intentionType : IntentionType)
      (intentionId : IntentionId) (amount amountSoldOrBought : ℕ) (pool : AccountId)
  | intentionResolvedDirectTrade (whoA whoB : AccountId) (idA idB : IntentionId)
      (amountA amountB : ℕ)
  | intentionResolvedDirectTradeFees (who : AccountId) (intentionId : IntentionId)
      (receiver : AccountId) (asset : AssetId) (fee : ℕ)
  | insufficientAssetBalanceEvent (who : AccountId) (asset : AssetId)
      (intentionType : IntentionType) (intentionId : IntentionId) (error : ErrorDetail)
  | intentionResolveErrorEvent (who : AccountId) (assets : AssetPair)
      (intentionType : IntentionType) (intentionId : IntentionId) (error : ErrorDetail)
  deriving DecidableEq, Repr

/-- The pallet's storage beside the pools and the ledger.  The two maps are keyed
differently: counts by the ordered pair, queues by what is sold and bought. -/
structure State where
  amm : Xyk.State
  intentionCount : AList fun _ : AssetId × AssetId => ℕ
  intentions : AList fun _ : AssetId × AssetId => List Intention
  blockNumber : ℕ
  events : List Event

/-- The pool's configuration, and whether the build traps the one subtraction of
the resolver that is not checked.  The release profile does not. -/
structure Config where
  amm : Xyk.Config
  overflowChecks : Bool

/-- What stops a finalization. -/
inductive Panic
  /-- `"In/out calculations are wrong!"` -/
  | inOutCalculations
  /-- The trapped subtraction from the limit of a main intention. -/
  | limitUnderflow
  deriving DecidableEq, Repr

namespace State

def ledger (s : State) : Currencies :=
  s.amm.ledger

def setLedger (s : State) (ledger : Currencies) : State :=
  { s with amm := { s.amm with ledger } }

def depositEvent (s : State) (event : Event) : State :=
  { s with events := s.events ++ [event] }

/-- `ExchangeAssetsIntentionCount::get`. -/
def countOf (s : State) (pair : AssetId × AssetId) : ℕ :=
  (s.intentionCount.lookup pair).getD 0

/-- `ExchangeAssetsIntentions::get`. -/
def intentionsOf (s : State) (pair : AssetId × AssetId) : List Intention :=
  (s.intentions.lookup pair).getD []

/-- `send_intention_error_event`. -/
def sendIntentionErrorEvent (s : State) (intention : Intention) (error : ErrorDetail) :
    State :=
  s.depositEvent (.intentionResolveErrorEvent intention.who intention.assets
    intention.sellOrBuy intention.intentionId error)

/-- `send_insufficient_balance_event`. -/
def sendInsufficientBalanceEvent (s : State) (intention : Intention) (asset : AssetId) :
    State :=
  s.depositEvent (.insufficientAssetBalanceEvent intention.who asset
    intention.sellOrBuy intention.intentionId (.exchange .insufficientAssetBalance))

/-- `reserve_if_can`, with the ledger it leaves. -/
def reserveIfCan (s : State) (asset : AssetId) (who : AccountId) (amount : ℕ) :
    Option State :=
  (s.ledger.reserve asset who amount).map s.setLedger

end State

section Registration

/-- `generate_intention_id`. -/
def generateIntentionId (s : State) (account : AccountId) (count : ℕ)
    (assets : AssetPair) : IntentionId :=
  ⟨count, account, s.blockNumber, assets.orderedPair⟩

/-- `register_intention`. -/
def registerIntention (s : State) (who : AccountId) (intentionType : IntentionType)
    (assets : AssetPair) (amountIn amountOut limit : ℕ) (discount : Bool) :
    Except Error State := do
  let intentionCount := s.countOf assets.orderedPair
  let intentionId := generateIntentionId s who intentionCount assets
  let intention : Intention :=
    ⟨who, assets, amountIn, amountOut, limit, discount, intentionType, intentionId⟩
  let total ← okOr (checkedAdd u32Bound intentionCount 1) .intentionCountOverflow
  let queue := (assets.assetIn, assets.assetOut)
  let s := { s with
    intentionCount := s.intentionCount.insert assets.orderedPair total
    intentions := s.intentions.insert queue (s.intentionsOf queue ++ [intention]) }
  match intentionType with
  | .sell =>
      return s.depositEvent (.intentionRegistered who assets.assetIn assets.assetOut
        amountIn intentionType intentionId)
  | .buy =>
      return s.depositEvent (.intentionRegistered who assets.assetOut assets.assetIn
        amountOut intentionType intentionId)

/-- `sell`. -/
def sell (cfg : Config) (s : State) (who : AccountId) (assetSell assetBuy : AssetId)
    (amountSell minBought : ℕ) (discount : Bool) : Except Error State := do
  ensure (minTradingLimit ≤ amountSell) .minimumTradeLimitNotReached
  let assets : AssetPair := ⟨assetSell, assetBuy⟩
  ensure (s.amm.poolExists assets = true) .tokenPoolNotFound
  ensure (amountSell ≤ s.ledger.free who assetSell) .insufficientAssetBalance
  let amountBuy :=
    Xyk.getSpotPriceUnchecked cfg.amm s.amm assetSell assetBuy amountSell
  ensure (amountBuy ≠ 0) .zeroSpotPrice
  registerIntention s who .sell assets amountSell amountBuy minBought discount

/-- `buy`. -/
def buy (cfg : Config) (s : State) (who : AccountId) (assetBuy assetSell : AssetId)
    (amountBuy maxSold : ℕ) (discount : Bool) : Except Error State := do
  ensure (minTradingLimit ≤ amountBuy) .minimumTradeLimitNotReached
  let assets : AssetPair := ⟨assetSell, assetBuy⟩
  ensure (s.amm.poolExists assets = true) .tokenPoolNotFound
  let amountSell :=
    Xyk.getSpotPriceUnchecked cfg.amm s.amm assetBuy assetSell amountBuy
  ensure (amountSell ≠ 0) .zeroSpotPrice
  ensure (amountSell ≤ s.ledger.free who assetSell) .insufficientAssetBalance
  registerIntention s who .buy assets amountSell amountBuy maxSold discount

end Registration

section DirectTrade

/-- `Transfer`: one payment of a direct trade. -/
structure Transfer where
  sender : AccountId
  receiver : AccountId
  asset : AssetId
  amount : ℕ
  feeTransfer : Bool
  deriving DecidableEq, Repr

/-- `DirectTradeData`. -/
structure DirectTradeData where
  intentionA : Intention
  intentionB : Intention
  amountFromA : ℕ
  amountFromB : ℕ
  transfers : List Transfer

namespace DirectTradeData

/-- The two reservations of a preparation and, after both, its payments.  The
second reservation can fail with the first one standing. -/
def reserveBoth (dt : DirectTradeData) (s : State) (fromA fromB : ℕ)
    (transfers : List Transfer) : State × DirectTradeData × Bool :=
  match s.reserveIfCan dt.intentionA.assets.assetIn dt.intentionA.who fromA with
  | none => (s, dt, false)
  | some s =>
      match s.reserveIfCan dt.intentionA.assets.assetOut dt.intentionB.who fromB with
      | none => (s, dt, false)
      | some s => (s, { dt with transfers := dt.transfers ++ transfers }, true)

/-- `prepare`, with the state and the trade data it leaves. -/
def prepare (cfg : Config) (dt : DirectTradeData) (s : State) (poolAccount : AccountId) :
    State × DirectTradeData × Bool :=
  let a := dt.intentionA
  let b := dt.intentionB
  if s.ledger.free a.who a.assets.assetIn < dt.amountFromA then
    (s.sendInsufficientBalanceEvent a a.assets.assetIn, dt, false)
  else if s.ledger.free b.who a.assets.assetOut < dt.amountFromB then
    (s.sendInsufficientBalanceEvent b a.assets.assetOut, dt, false)
  else
    let fee := cfg.amm.getExchangeFee
    match cfg.amm.math.calculatePoolTradeFee dt.amountFromA fee,
      cfg.amm.math.calculatePoolTradeFee dt.amountFromB fee with
    | some feeA, some feeB =>
        if dt.amountFromA < feeA ∨ dt.amountFromB < feeB then (s, dt, false)
        else
          match a.sellOrBuy, b.sellOrBuy with
          | .sell, .sell =>
              dt.reserveBoth s dt.amountFromA dt.amountFromB
                [⟨a.who, b.who, a.assets.assetIn, dt.amountFromA - feeA, false⟩,
                  ⟨b.who, a.who, a.assets.assetOut, dt.amountFromB - feeB, false⟩,
                  ⟨a.who, poolAccount, a.assets.assetIn, feeA, true⟩,
                  ⟨b.who, poolAccount, b.assets.assetIn, feeB, true⟩]
          | .buy, .buy =>
              dt.reserveBoth s (wrappingAdd u128Bound dt.amountFromA feeA)
                (wrappingAdd u128Bound dt.amountFromB feeB)
                [⟨a.who, b.who, a.assets.assetIn, dt.amountFromA, false⟩,
                  ⟨b.who, a.who, a.assets.assetOut, dt.amountFromB, false⟩,
                  ⟨a.who, poolAccount, a.assets.assetIn, feeA, true⟩,
                  ⟨b.who, poolAccount, b.assets.assetIn, feeB, true⟩]
          | .buy, .sell =>
              dt.reserveBoth s (wrappingAdd u128Bound dt.amountFromA feeA) dt.amountFromB
                [⟨a.who, b.who, a.assets.assetIn, dt.amountFromA - feeA, false⟩,
                  ⟨b.who, a.who, a.assets.assetOut, dt.amountFromB, false⟩,
                  ⟨a.who, poolAccount, a.assets.assetIn,
                    wrappingMul u128Bound 2 feeA, true⟩]
          | .sell, .buy =>
              dt.reserveBoth s dt.amountFromA (wrappingAdd u128Bound dt.amountFromB feeB)
                [⟨a.who, b.who, a.assets.assetIn, dt.amountFromA, false⟩,
                  ⟨b.who, a.who, a.assets.assetOut, dt.amountFromB - feeB, false⟩,
                  ⟨b.who, poolAccount, b.assets.assetIn,
                    wrappingMul u128Bound 2 feeB, true⟩]
    | _, _ => (s, dt, false)

/-- One payment of `execute`, out of the sender's reserve. -/
def pay (dt : DirectTradeData) (s : State) (transfer : Transfer) : State :=
  let s := s.setLedger (s.ledger.repatriateReserved transfer.asset transfer.sender
    transfer.receiver transfer.amount)
  if transfer.feeTransfer then
    let intention :=
      if transfer.sender = dt.intentionA.who then dt.intentionA else dt.intentionB
    s.depositEvent (.intentionResolvedDirectTradeFees transfer.sender
      intention.intentionId transfer.receiver transfer.asset transfer.amount)
  else s

/-- `execute`.  Paying out of a reserve does not fail on a plain ledger. -/
def execute (dt : DirectTradeData) (s : State) : State :=
  dt.transfers.foldl dt.pay
    (s.depositEvent (.intentionResolvedDirectTrade dt.intentionA.who dt.intentionB.who
      dt.intentionA.intentionId dt.intentionB.intentionId dt.amountFromA dt.amountFromB))

/-- `revert`. -/
def revert (dt : DirectTradeData) (s : State) : State :=
  dt.transfers.foldl (fun s transfer =>
    s.setLedger (s.ledger.unreserve transfer.asset transfer.sender transfer.amount)) s

end DirectTradeData

end DirectTrade

section Resolver

/-- The pool's validation of an intention. -/
def validate (cfg : Config) (s : State) (intention : Intention) :
    Except Xyk.Error Xyk.AMMTransfer :=
  match intention.sellOrBuy with
  | .sell =>
      Xyk.validateSell cfg.amm s.amm intention.who intention.assets intention.amountIn
        intention.tradeLimit intention.discount
  | .buy =>
      Xyk.validateBuy cfg.amm s.amm intention.who intention.assets intention.amountOut
        intention.tradeLimit intention.discount

/-- `verify_intention`, with the state it leaves. -/
def verifyIntention (cfg : Config) (s : State) (intention : Intention) : State × Bool :=
  match validate cfg s intention with
  | .error error => (s.sendIntentionErrorEvent intention (.amm error), false)
  | .ok _ => (s, true)

/-- `execute_amm_transfer`; the pool's part of it is transactional. -/
def executeAmmTransfer (cfg : Config) (s : State) (ammTransferType : IntentionType)
    (intentionId : IntentionId) (transfer : Xyk.AMMTransfer) : Except Xyk.Error State := do
  let amm ← (match ammTransferType with
    | .sell => Xyk.executeSell cfg.amm s.amm transfer
    | .buy => Xyk.executeBuy cfg.amm s.amm transfer)
  return { s with amm }.depositEvent (.intentionResolvedAMMTrade transfer.origin
    ammTransferType intentionId transfer.amount
    (wrappingAdd u128Bound transfer.amountOut transfer.fee.2)
    (Xyk.getPairId transfer.assets))

/-- `resolve_single_intention`. -/
def resolveSingleIntention (cfg : Config) (s : State) (intention : Intention) : State :=
  match validate cfg s intention with
  | .ok transfer =>
      match executeAmmTransfer cfg s intention.sellOrBuy intention.intentionId transfer with
      | .ok s => s
      | .error error => s.sendIntentionErrorEvent intention (.amm error)
  | .error error => s.sendIntentionErrorEvent intention (.amm error)

/-- The check of a completely traded intention against its limit: it receives
`received` and pays `paid`, both before fees. -/
def limitError (intention : Intention) (received paid : ℕ) : Option Error :=
  match intention.sellOrBuy with
  | .sell =>
      if received < intention.tradeLimit then some .tradeAmountNotReachedLimit else none
  | .buy =>
      if intention.tradeLimit < paid then some .tradeAmountExceededLimit else none

/-- The limit of the main intention after a direct trade. -/
def restLimit (cfg : Config) (main matched : Intention) : Except Panic ℕ :=
  match main.sellOrBuy with
  | .sell => .ok (main.tradeLimit - matched.amountIn)
  | .buy =>
      if matched.amountOut ≤ main.tradeLimit then
        .ok (main.tradeLimit - matched.amountOut)
      else if cfg.overflowChecks then .error .limitUnderflow
      else .ok (wrappingSub u128Bound main.tradeLimit matched.amountOut)

/-- Scenario 1: the matched intention is traded completely.  `main` is the main
intention with the amounts it has left. -/
def resolveWhole (cfg : Config) (pairAccount : AccountId) (main matched : Intention)
    (s : State) : Except Panic (State × Intention) :=
  let dt : DirectTradeData := ⟨main, matched, matched.amountOut, matched.amountIn, []⟩
  match limitError matched dt.amountFromA dt.amountFromB with
  | some error => .ok (s.sendIntentionErrorEvent matched (.exchange error), main)
  | none =>
      match dt.prepare cfg s pairAccount with
      | (s, dt, true) => do
          let s := dt.execute s
          let amountOut ← okOr (checkedSub main.amountOut matched.amountIn)
            .inOutCalculations
          let tradeLimit ← restLimit cfg main matched
          return (s, { main with
            amountIn := main.amountIn - matched.amountOut
            amountOut
            tradeLimit })
      | (s, dt, false) => .ok (dt.revert s, main)

/-- The pool's validation of what a direct trade leaves of a matched intention. -/
def validateRest (cfg : Config) (s : State) (main matched : Intention)
    (restInAmount restOutAmount : ℕ) : Except Xyk.Error Xyk.AMMTransfer :=
  match matched.sellOrBuy with
  | .sell =>
      Xyk.validateSell cfg.amm s.amm matched.who matched.assets restInAmount
        (matched.tradeLimit - main.amountIn) matched.discount
  | .buy =>
      Xyk.validateBuy cfg.amm s.amm matched.who matched.assets restOutAmount
        (matched.tradeLimit - main.amountOut) matched.discount

/-- Scenario 2: the main intention is traded completely, and the rest of the
matched one goes through the pool. -/
def resolvePart (cfg : Config) (pairAccount : AccountId) (main matched : Intention)
    (s : State) : Except Panic (State × Intention) := do
  let restOutAmount := matched.amountOut - main.amountIn
  let restInAmount ← okOr (checkedSub matched.amountIn main.amountOut) .inOutCalculations
  let dt : DirectTradeData := ⟨main, matched, main.amountIn, main.amountOut, []⟩
  match validateRest cfg s main matched restInAmount restOutAmount with
  | .error error => .ok (s.sendIntentionErrorEvent matched (.amm error), main)
  | .ok ammTransfer =>
      match dt.prepare cfg s pairAccount with
      | (s, dt, true) =>
          match executeAmmTransfer cfg s matched.sellOrBuy matched.intentionId
            ammTransfer with
          | .ok s => .ok (dt.execute s, { main with amountIn := 0 })
          | .error error =>
              .ok (dt.revert (s.sendIntentionErrorEvent matched (.amm error)), main)
      | (s, dt, false) => .ok (dt.revert s, main)

/-- Scenario 3: an exact match.  The main intention is checked as it was
registered, `intention`, not as it is left. -/
def resolveExact (cfg : Config) (pairAccount : AccountId)
    (intention main matched : Intention) (s : State) : State × Intention :=
  let dt : DirectTradeData := ⟨main, matched, main.amountIn, matched.amountIn, []⟩
  match limitError intention dt.amountFromB dt.amountFromA with
  | some error => (s.sendIntentionErrorEvent intention (.exchange error), main)
  | none =>
      match limitError matched dt.amountFromA dt.amountFromB with
      | some error => (s.sendIntentionErrorEvent matched (.exchange error), main)
      | none =>
          match dt.prepare cfg s pairAccount with
          | (s, dt, true) => (dt.execute s, { main with amountIn := 0 })
          | (s, dt, false) => (dt.revert s, main)

/-- One turn of the loop of `resolve_matched_intentions`. -/
def resolveMatched (cfg : Config) (pairAccount : AccountId) (intention : Intention)
    (progress : State × Intention) (matched : Intention) :
    Except Panic (State × Intention) :=
  let (s, main) := progress
  if matched.amountOut < main.amountIn then resolveWhole cfg pairAccount main matched s
  else if main.amountIn < matched.amountOut then
    resolvePart cfg pairAccount main matched s
  else .ok (resolveExact cfg pairAccount intention main matched s)

/-- `resolve_matched_intentions`. -/
def resolveMatchedIntentions (cfg : Config) (pairAccount : AccountId) (s : State)
    (intention : Intention) (matched : List Intention) : Except Panic State := do
  let (s, main) ← matched.foldlM (resolveMatched cfg pairAccount intention) (s, intention)
  return if 0 < main.amountIn then resolveSingleIntention cfg s main else s

end Resolver

section Finalization

/-- `take_while` with the amount that is left to cover. -/
def takeMatched : ℕ → List Intention → List Intention
  | _, [] => []
  | totalLeft, x :: rest =>
      if 0 < totalLeft then x :: takeMatched (totalLeft - x.amountOut) rest else []

/-- The stable descending sort by `amount_in`. -/
def sortByAmountIn (intentions : List Intention) : List Intention :=
  intentions.insertionSort fun x y => y.amountIn ≤ x.amountIn

/-- One turn of the loop over the main intentions; `toSkip` counts those of the
other side that are already matched. -/
def processMain (cfg : Config) (pairAccount : AccountId) (bIns : List Intention)
    (progress : State × ℕ) (intention : Intention) : Except Panic (State × ℕ) :=
  let (s, toSkip) := progress
  match verifyIntention cfg s intention with
  | (s, false) => .ok (s, toSkip)
  | (s, true) => do
      let matched := takeMatched intention.amountIn (bIns.drop toSkip)
      let s ← resolveMatchedIntentions cfg pairAccount s intention matched
      return (s, toSkip + matched.length)

/-- `process_exchange_intentions`. -/
def processExchangeIntentions (cfg : Config) (pairAccount : AccountId) (s : State)
    (aInIntentions bInIntentions : List Intention) : Except Panic State := do
  let bIns := sortByAmountIn bInIntentions
  let aIns := sortByAmountIn aInIntentions
  let (s, toSkip) ← aIns.foldlM (processMain cfg pairAccount bIns) (s, 0)
  return (bIns.drop toSkip).foldl (resolveSingleIntention cfg) s

/-- One pair of `on_finalize`. -/
def finalizePair (cfg : Config) (s : State) (pair : AssetId × AssetId) :
    Except Panic State :=
  if s.countOf pair = 0 then .ok s
  else
    processExchangeIntentions cfg (Xyk.getPairId ⟨pair.1, pair.2⟩) s
      (s.intentionsOf (pair.2, pair.1)) (s.intentionsOf (pair.1, pair.2))

/-- `on_finalize`, with the pairs in the order the storage iterates over them. -/
def onFinalize (cfg : Config) (s : State) (order : List (AssetId × AssetId)) :
    Except Panic State := do
  let s ← order.foldlM (finalizePair cfg) s
  return { s with intentionCount := ∅, intentions := ∅ }

end Finalization

/-- The pallet's extrinsics; `who` is the key that signed. -/
inductive Call
  | sell (who : ℕ) (assetSell assetBuy : AssetId) (amountSell minBought : ℕ)
      (discount : Bool)
  | buy (who : ℕ) (assetBuy assetSell : AssetId) (amountBuy maxSold : ℕ)
      (discount : Bool)
  deriving DecidableEq, Repr

def dispatch (cfg : Config) (s : State) : Call → Except Error State
  | .sell who assetSell assetBuy amountSell minBought discount =>
      sell cfg s (.signer who) assetSell assetBuy amountSell minBought discount
  | .buy who assetBuy assetSell amountBuy maxSold discount =>
      buy cfg s (.signer who) assetBuy assetSell amountBuy maxSold discount

/-- What happens on the chain: calls of the pallet, calls of the pools, changes of
balances by anything else, and the end of a block with the order in which the
pairs are finalized. -/
inductive Label
  | call (call : Call)
  | amm (call : Xyk.Call)
  | balances (ledger : Currencies)
  | finalize (order : List (AssetId × AssetId))

/-- The order of iteration is some order of the stored pairs. -/
def State.IterationOrder (s : State) (order : List (AssetId × AssetId)) : Prop :=
  order.Perm s.intentionCount.keys

instance (s : State) (order : List (AssetId × AssetId)) :
    Decidable (s.IterationOrder order) :=
  inferInstanceAs (Decidable (order.Perm s.intentionCount.keys))

/-- Why a step is not taken. -/
inductive Failure
  | call (error : Error)
  | amm (error : Xyk.Error)
  | panic (panic : Panic)
  | forbidden
  deriving DecidableEq, Repr

def exec (cfg : Config) (s : State) : Label → Except Failure State
  | .call call => (dispatch cfg s call).mapError .call
  | .amm call => do
      let amm ← (Xyk.dispatch cfg.amm s.amm call).mapError .amm
      return { s with amm }
  | .balances ledger => .ok (s.setLedger ledger)
  | .finalize order => do
      ensure (s.IterationOrder order) .forbidden
      let s ← (onFinalize cfg s order).mapError .panic
      return { s with blockNumber := s.blockNumber + 1 }

/-- A successful call, a change of balances or a completed block. -/
def Step (cfg : Config) (s : State) (label : Label) (t : State) : Prop :=
  exec cfg s label = .ok t

/-- Before the first block there are no pools and no intentions. -/
structure Initial (s : State) : Prop where
  amm : Xyk.Initial s.amm
  intentionCount : s.intentionCount = ∅
  intentions : s.intentions = ∅

end Basilisk.Exchange
