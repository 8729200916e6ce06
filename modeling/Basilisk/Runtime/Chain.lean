/-
# The runtime

Pools, the exchange, bootstrapping pools, the marketplace, the NFTs, liquidity
mining and the duster are one runtime: their calls are interleaved in any order, all
of them work on one ledger, pools are not created while a bootstrapping pool of the
pair has not ended, the exchange trades with the pools when a block is finalized,
and the deposits of liquidity mining are tokens that the marketplace sells.  This
module puts the pallets together as the runtime configures them.  Whatever a step
is, to each pallet it is a call of its own or a move of its environment, and to the
ledger it is a sequence of operations the pallet is licensed to; so the supply of
every asset is conserved over whole runs.

The block number of the chain and that of the relay chain are different clocks:
bootstrapping pools and liquidity mining read the second one.
-/

import Basilisk.Duster.Sweep
import Basilisk.Lbp.Reference
import Basilisk.Runtime.Custody
import Basilisk.Runtime.Handling
import Basilisk.Runtime.Licences

namespace Basilisk.Chain

open Basilisk.Math
open Basilisk.Math.Ledger (Changes Licence)

/-- The constants of all pallets.  They agree on the native asset, and the class of the deposits
has a reserved id.  `settleDeposit` stands for what `pallet_uniques` reserves and releases. -/
structure Config where
  runtime : Runtime.Config
  overflowChecks : Bool
  lbp : Lbp.Config
  market : Marketplace.Config
  duster : Duster.Config
  uniques : Nft.UniquesConfig
  settleDeposit : Nft.State → Currencies → Nft.Call → Option Currencies
  deposits : Nft.SettlesDeposits uniques settleDeposit
  marketNative : market.nativeAssetId = runtime.xyk.nativeAssetId
  dusterNative : duster.nativeCurrencyId = runtime.xyk.nativeAssetId
  uniquesNative : uniques.currency = runtime.xyk.nativeAssetId
  reserved : runtime.nftClass ≤ market.nft.reserveClassIdUpTo

namespace Config

variable (cfg : Config)

/-- The constants of the pools. -/
def xyk : Xyk.Config := cfg.runtime.xyk

def exchange : Exchange.Config := ⟨cfg.runtime.xyk, cfg.overflowChecks⟩

/-- The constants of liquidity mining, whose AMM are the pools. -/
def mining : LiquidityMining.Config := cfg.runtime.mining

def tokens : Tokens.Config := ⟨cfg.runtime.mining, cfg.market, cfg.reserved⟩

theorem depositCurrency : cfg.uniques.currency = cfg.market.nativeAssetId :=
  cfg.uniquesNative.trans cfg.marketNative.symm

end Config

/-- The storage of the bootstrapping pools. -/
structure LbpStorage where
  poolData : AList fun _ : AccountId => Lbp.Pool
  feeCollectorWithAsset : AList fun _ : Lbp.Collector => Bool
  locks : AList fun _ : Lbp.Collector => ℕ
  events : List Lbp.Event

/-- The storage of the marketplace, with the amounts reserved under its identifier. -/
structure MarketStorage where
  prices : AList fun _ : Nft.Token => ℕ
  offers : AList fun _ : Nft.Token × AccountId => Marketplace.Offer
  marketplaceInstances : AList fun _ : Nft.Token => Marketplace.Royalty
  events : List Marketplace.Event
  named : AccountId → ℕ

/-- The storage of all pallets.  The pools, the ledger and the block number of the chain are part
of `exchange`. -/
structure State where
  exchange : Exchange.State
  lbp : LbpStorage
  market : MarketStorage
  nft : Nft.State
  mining : LiquidityMining.Storage
  miningEvents : List LiquidityMining.Event
  storageVersion : ℕ
  duster : Duster.Storage
  dusterEvents : List Duster.Event
  relayBlockNumber : ℕ

namespace State

variable (s : State)

/-- The ledger of the chain. -/
def ledger : Currencies := s.exchange.ledger

/-- The chain as the bootstrapping pools see it. -/
def lbpView : Lbp.State where
  poolData := s.lbp.poolData
  feeCollectorWithAsset := s.lbp.feeCollectorWithAsset
  ledger := s.ledger
  locks := s.lbp.locks
  blockNumber := s.relayBlockNumber
  events := s.lbp.events

def absorbLbp (view : Lbp.State) : State :=
  { s with
    exchange := s.exchange.setLedger view.ledger
    lbp := ⟨view.poolData, view.feeCollectorWithAsset, view.locks, view.events⟩ }

/-- The chain as the marketplace sees it. -/
def marketView : Marketplace.State where
  prices := s.market.prices
  offers := s.market.offers
  marketplaceInstances := s.market.marketplaceInstances
  events := s.market.events
  blockNumber := s.exchange.blockNumber
  ledger := s.ledger
  named := s.market.named
  nft := s.nft

def absorbMarket (view : Marketplace.State) : State :=
  { s with
    exchange := s.exchange.setLedger view.ledger
    market := ⟨view.prices, view.offers, view.marketplaceInstances, view.events, view.named⟩
    nft := view.nft }

/-- The chain as liquidity mining sees it. -/
def miningView : LiquidityMining.State where
  toStorage := s.mining
  events := s.miningEvents
  blockNumber := s.relayBlockNumber
  ledger := s.ledger
  amm := ⟨s.exchange.amm.poolExists, s.exchange.amm.getShareToken⟩
  nft := s.nft

def absorbMining (view : LiquidityMining.State) : State :=
  { s with
    exchange := s.exchange.setLedger view.ledger
    mining := view.toStorage
    miningEvents := view.events
    nft := view.nft }

/-- The chain as the duster sees it. -/
def dusterView : Duster.State where
  toStorage := s.duster
  events := s.dusterEvents
  ledger := s.ledger

def absorbDuster (view : Duster.State) : State :=
  { s with
    exchange := s.exchange.setLedger view.ledger
    duster := view.toStorage
    dusterEvents := view.events }

/-- The chain as the migration of liquidity mining sees it. -/
def tokensView : Tokens.State where
  mining := s.mining
  miningEvents := s.miningEvents
  storageVersion := s.storageVersion
  amm := s.miningView.amm
  market := s.marketView

/-- A call of the pools, with the answer of `DisallowWhenLBPPoolRunning` to a creation. -/
def gated : Xyk.Call → Xyk.Call
  | .createPool who hooks assetA assetB amount initialPrice =>
      .createPool who { hooks with canCreate := s.lbpView.canCreate assetA assetB } assetA assetB
        amount initialPrice
  | call => call

theorem pays_gated (call : Xyk.Call) : (s.gated call).Pays = call.Pays := by
  cases call <;> rfl

end State

/-- A call of one of the pallets, a transfer of a signer, the upgrade of the runtime, or the end
of a block, in which some blocks of the relay chain pass. -/
inductive Label
  | xyk (call : Xyk.Call)
  | exchange (call : Exchange.Call)
  | lbp (call : Lbp.Call)
  | market (call : Marketplace.Call)
  | nft (call : Nft.Call)
  | mining (call : LiquidityMining.Call)
  | duster (call : Duster.Call)
  | transfer (who : ℕ) (dest : AccountId) (currencyId : AssetId) (amount : ℕ)
  | upgrade
  | finalize (order : List (AssetId × AssetId)) (relayBlocks : ℕ)

inductive Error
  | exchange (error : Exchange.Failure)
  | lbp (error : Lbp.Error)
  | market (error : Marketplace.Error)
  | nft (error : Nft.Error)
  | mining (error : LiquidityMining.Error)
  | duster (error : Duster.Error)
  | tokens (error : Tokens.Error)
  | currency
  deriving DecidableEq

def exec (cfg : Config) (s : State) : Label → Except Error State
  | .xyk call => do
      let exchange ←
        (Exchange.exec cfg.exchange s.exchange (.amm (s.gated call))).mapError .exchange
      return { s with exchange }
  | .exchange call => do
      let exchange ← (Exchange.exec cfg.exchange s.exchange (.call call)).mapError .exchange
      return { s with exchange }
  | .lbp call => do
      let view ← (Lbp.dispatch cfg.lbp s.lbpView call).mapError .lbp
      return s.absorbLbp view
  | .market call => do
      let view ← (Marketplace.dispatch cfg.market s.marketView call).mapError .market
      return s.absorbMarket view
  | .nft call => do
      let nft ← (Nft.dispatch cfg.market.nft s.nft call).mapError .nft
      let ledger ← okOr (cfg.settleDeposit s.nft s.ledger call) .currency
      return { s with nft, exchange := s.exchange.setLedger ledger }
  | .mining call => do
      let view ← (LiquidityMining.dispatch cfg.mining s.miningView call).mapError .mining
      return s.absorbMining view
  | .duster call => do
      let view ← (Duster.dispatch cfg.duster s.dusterView call).mapError .duster
      return s.absorbDuster view
  | .transfer who dest currencyId amount => do
      let ledger ← okOr (s.ledger.transfer currencyId (.signer who) dest amount) .currency
      return { s with exchange := s.exchange.setLedger ledger }
  | .upgrade => do
      let tokens ← (Tokens.initNftClass cfg.tokens s.tokensView).mapError .tokens
      return { s with nft := tokens.market.nft, storageVersion := tokens.storageVersion }
  | .finalize order relayBlocks => do
      let exchange ←
        (Exchange.exec cfg.exchange s.exchange (.finalize order)).mapError .exchange
      return { s with exchange, relayBlockNumber := s.relayBlockNumber + relayBlocks }

def Step (cfg : Config) (s : State) (label : Label) (t : State) : Prop :=
  exec cfg s label = .ok t

/-- The state at genesis: no pallet has stored anything, no share token is issued, and the
balances add up. -/
structure Initial (cfg : Config) (s : State) : Prop where
  exchange : Exchange.Initial s.exchange
  unissued : ∀ (pair : AssetPair) (token : AssetId),
    cfg.xyk.getOrCreateSharedAsset pair.name = some token → s.ledger.issuance token = 0
  lbp : Lbp.Initial s.lbpView
  market : Marketplace.Fresh s.marketView
  nft : Nft.Fresh s.nft
  mining : LiquidityMining.Initial cfg.mining s.miningView
  duster : ∃ genesis : Duster.GenesisConfig, genesis.build = some s.duster
  balanced : s.ledger.Balanced

section Steps

variable {cfg : Config} {s t : State} {label : Label}

/-- What a step has called, and the state it leads to. -/
inductive Taken (cfg : Config) (s : State) : Label → State → Prop
  | xyk {call : Xyk.Call} {amm : Xyk.State}
      (called : Xyk.Step cfg.xyk s.exchange.amm (s.gated call) amm) :
      Taken cfg s (.xyk call) { s with exchange := { s.exchange with amm } }
  | exchange {call : Exchange.Call} {exchange : Exchange.State}
      (called : Exchange.Step cfg.exchange s.exchange (.call call) exchange) :
      Taken cfg s (.exchange call) { s with exchange }
  | lbp {call : Lbp.Call} {view : Lbp.State}
      (called : Lbp.dispatch cfg.lbp s.lbpView call = .ok view) :
      Taken cfg s (.lbp call) (s.absorbLbp view)
  | market {call : Marketplace.Call} {view : Marketplace.State}
      (called : Marketplace.dispatch cfg.market s.marketView call = .ok view) :
      Taken cfg s (.market call) (s.absorbMarket view)
  | nft {call : Nft.Call} {nft : Nft.State} {ledger : Currencies}
      (called : Nft.dispatch cfg.market.nft s.nft call = .ok nft)
      (settled : cfg.settleDeposit s.nft s.ledger call = some ledger) :
      Taken cfg s (.nft call) { s with nft, exchange := s.exchange.setLedger ledger }
  | mining {call : LiquidityMining.Call} {view : LiquidityMining.State}
      (called : LiquidityMining.dispatch cfg.mining s.miningView call = .ok view) :
      Taken cfg s (.mining call) (s.absorbMining view)
  | duster {call : Duster.Call} {view : Duster.State}
      (called : Duster.dispatch cfg.duster s.dusterView call = .ok view) :
      Taken cfg s (.duster call) (s.absorbDuster view)
  | transfer {who amount : ℕ} {dest : AccountId} {currencyId : AssetId} {ledger : Currencies}
      (moved : s.ledger.transfer currencyId (.signer who) dest amount = some ledger) :
      Taken cfg s (.transfer who dest currencyId amount)
        { s with exchange := s.exchange.setLedger ledger }
  | upgrade {tokens : Tokens.State}
      (migrated : Tokens.initNftClass cfg.tokens s.tokensView = .ok tokens) :
      Taken cfg s .upgrade
        { s with nft := tokens.market.nft, storageVersion := tokens.storageVersion }
  | finalize {order : List (AssetId × AssetId)} {relayBlocks : ℕ} {exchange : Exchange.State}
      (finalized : Exchange.Step cfg.exchange s.exchange (.finalize order) exchange) :
      Taken cfg s (.finalize order relayBlocks)
        { s with exchange, relayBlockNumber := s.relayBlockNumber + relayBlocks }

theorem taken_of_step (taken : Step cfg s label t) : Taken cfg s label t := by
  cases label with
  | xyk call =>
      simp only [Step, exec, Exchange.exec, bind_eq_ok, mapError_eq_ok, return_eq_ok] at taken
      obtain ⟨_, ⟨amm, called, rfl⟩, rfl⟩ := taken
      exact .xyk called
  | exchange call =>
      simp only [Step, exec, bind_eq_ok, mapError_eq_ok, return_eq_ok] at taken
      obtain ⟨exchange, called, rfl⟩ := taken
      exact .exchange called
  | lbp call =>
      simp only [Step, exec, bind_eq_ok, mapError_eq_ok, return_eq_ok] at taken
      obtain ⟨view, called, rfl⟩ := taken
      exact .lbp called
  | market call =>
      simp only [Step, exec, bind_eq_ok, mapError_eq_ok, return_eq_ok] at taken
      obtain ⟨view, called, rfl⟩ := taken
      exact .market called
  | nft call =>
      simp only [Step, exec, bind_eq_ok, mapError_eq_ok, okOr_eq_ok, return_eq_ok] at taken
      obtain ⟨nft, called, ledger, settled, rfl⟩ := taken
      exact .nft called settled
  | mining call =>
      simp only [Step, exec, bind_eq_ok, mapError_eq_ok, return_eq_ok] at taken
      obtain ⟨view, called, rfl⟩ := taken
      exact .mining called
  | duster call =>
      simp only [Step, exec, bind_eq_ok, mapError_eq_ok, return_eq_ok] at taken
      obtain ⟨view, called, rfl⟩ := taken
      exact .duster called
  | transfer who dest currencyId amount =>
      simp only [Step, exec, bind_eq_ok, okOr_eq_ok, return_eq_ok] at taken
      obtain ⟨ledger, moved, rfl⟩ := taken
      exact .transfer moved
  | upgrade =>
      simp only [Step, exec, bind_eq_ok, mapError_eq_ok, return_eq_ok] at taken
      obtain ⟨tokens, migrated, rfl⟩ := taken
      exact .upgrade migrated
  | finalize order relayBlocks =>
      simp only [Step, exec, bind_eq_ok, mapError_eq_ok, return_eq_ok] at taken
      obtain ⟨exchange, finalized, rfl⟩ := taken
      exact .finalize finalized

/-- What a step is to the exchange and the pools. -/
def Label.onExchange (s t : State) : Label → Exchange.Label
  | .xyk call => .amm (s.gated call)
  | .exchange call => .call call
  | .finalize order _ => .finalize order
  | _ => .balances t.ledger

theorem Taken.exchange_step (taken : Taken cfg s label t) :
    Exchange.Step cfg.exchange s.exchange (label.onExchange s t) t.exchange := by
  cases taken with
  | xyk called =>
      simp only [Label.onExchange, Exchange.Step, Exchange.exec, bind_eq_ok, mapError_eq_ok,
        return_eq_ok]
      exact ⟨_, called, rfl⟩
  | exchange called => exact called
  | finalize finalized => exact finalized
  | _ => rfl

/-- What a step is to the bootstrapping pools. -/
def Label.onLbp (t : State) : Label → Lbp.Label
  | .lbp call => .call call
  | _ => .external t.relayBlockNumber t.ledger

theorem Taken.lbp_step (taken : Taken cfg s label t) :
    Lbp.Step cfg.lbp s.lbpView (label.onLbp t) t.lbpView := by
  cases taken with
  | @lbp call view called =>
      have block : view.blockNumber = s.relayBlockNumber :=
        (Lbp.effect_of_dispatch called).blockNumber_eq
      have back : (s.absorbLbp view).lbpView = view := by
        rw [Lbp.State.mk.injEq]
        exact ⟨rfl, rfl, rfl, rfl, block.symm, rfl⟩
      change Lbp.dispatch cfg.lbp s.lbpView call = .ok (s.absorbLbp view).lbpView
      rw [called, back]
  | finalize => exact ⟨Nat.le_add_right _ _, rfl⟩
  | _ => exact ⟨le_rfl, rfl⟩

/-- What every pallet keeps whatever the others do. -/
structure Sound (cfg : Config) (s : State) : Prop where
  registered : Exchange.Registered cfg.exchange s.exchange
  lbp : Reachable Lbp.Initial (Lbp.Step cfg.lbp) s.lbpView
  offers : Marketplace.OffersSigned s.marketView
  consistent : LiquidityMining.Consistent cfg.mining s.relayBlockNumber s.mining
  books : Nft.Books s.nft
  unbacked : s.nft.Unbacked cfg.mining.nftClass

/-- A step that is no call of the NFT pallet hands tokens on, or makes and ends deposits. -/
theorem Taken.handled (taken : Taken cfg s label t) (sound : Sound cfg s)
    (other : ∀ call, label ≠ .nft call) :
    Relation.ReflTransGen (Nft.Handled cfg.mining.nftClass) s.nft t.nft := by
  cases taken with
  | nft => exact absurd rfl (other _)
  | market called =>
      have handled := Marketplace.handled_of_dispatch cfg.mining.nftClass called
      exact handled
  | mining called =>
      have handled := LiquidityMining.handled_of_dispatch sound.consistent called
      exact handled
  | upgrade migrated =>
      have handled := Tokens.handled_of_initNftClass migrated
      exact handled
  | _ => exact .refl

theorem Taken.books (taken : Taken cfg s label t) (sound : Sound cfg s) :
    Nft.Books t.nft ∧ t.nft.Unbacked cfg.mining.nftClass := by
  cases label with
  | nft call =>
      cases taken with
      | nft called =>
          exact ⟨sound.books.dispatch called, sound.unbacked.dispatch cfg.reserved called⟩
  | _ =>
      have handled := taken.handled sound nofun
      have kept := sound.books.handled cfg.uniques sound.unbacked handled
      exact ⟨kept.1, kept.2.1⟩

theorem Sound.step (sound : Sound cfg s) (taken : Step cfg s label t) : Sound cfg t := by
  have taken := taken_of_step taken
  obtain ⟨books, unbacked⟩ := taken.books sound
  refine ⟨sound.registered.step taken.exchange_step, ?_, ?_, ?_, books, unbacked⟩
  · obtain ⟨past, run⟩ := sound.lbp
    exact ⟨_, run.extend taken.lbp_step⟩
  · cases taken with
    | @market call view called =>
        have taken : Marketplace.Step cfg.market s.marketView (.market call) view := called
        have offers := sound.offers.step taken
        exact offers
    | _ => exact sound.offers
  · cases taken with
    | @mining call view called =>
        have taken : LiquidityMining.Step cfg.mining s.miningView (.call call) view := called
        have consistent := LiquidityMining.consistent_of_step sound.consistent taken
        rw [LiquidityMining.dispatch_blockNumber sound.consistent called] at consistent
        exact consistent
    | finalize => exact sound.consistent.later (Nat.le_add_right _ _)
    | _ => exact sound.consistent

theorem Initial.sound (initial : Initial cfg s) : Sound cfg s where
  registered := .initial initial.exchange
  lbp := ⟨[], .start initial.lbp⟩
  offers token offer stored := by
    rw [initial.market.offers] at stored
    exact absurd stored nofun
  consistent := initial.mining.consistent
  books := initial.nft.books
  unbacked := initial.nft.unbacked

theorem sound_of_reachable (reachable : Reachable (Initial cfg) (Step cfg) s) : Sound cfg s := by
  refine Reachable.invariant (Sound cfg) ?_ ?_ reachable
  · intro s initial
    exact initial.sound
  · intro s label t sound taken
    exact sound.step taken

end Steps

section Reference

/-- The pallets with their reference constants; existential deposits of 10 and rewards of 3 in the
duster. -/
def Config.reference : Config where
  runtime := .reference
  overflowChecks := false
  lbp := .reference
  market := .reference
  duster := Duster.dustyConfig
  uniques := ⟨0, 100 * 10 ^ 12, 100 * 10 ^ 12⟩
  settleDeposit := Nft.UniquesConfig.settle ⟨0, 100 * 10 ^ 12, 100 * 10 ^ 12⟩
  deposits := Nft.UniquesConfig.settlesDeposits _
  marketNative := rfl
  dusterNative := rfl
  uniquesNative := rfl
  reserved := by decide

/-- Who holds something at genesis. -/
def holders : Finset AccountId :=
  {.signer 0, .signer 1, .signer 2, .signer 3, Duster.treasury}

/-- Four signers and the treasury hold the same of each of the assets 0 to 7. -/
def genesis : State where
  exchange :=
    { amm :=
        { ledger :=
            { free := fun who asset => if who ∈ holders ∧ asset ≤ 7 then 10 ^ 18 else 0
              reserved := fun _ _ => 0
              issuance := fun asset => if asset ≤ 7 then 5 * 10 ^ 18 else 0 }
          shareToken := ∅
          totalLiquidity := ∅
          poolAssets := ∅
          events := [] }
      intentionCount := ∅
      intentions := ∅
      blockNumber := 1
      events := [] }
  lbp := ⟨∅, ∅, ∅, []⟩
  market := ⟨∅, ∅, ∅, [], fun _ => 0⟩
  nft := ⟨⟨∅, ∅⟩, ∅, ∅, []⟩
  mining := LiquidityMining.genesis.toStorage
  miningEvents := []
  storageVersion := 0
  duster := (Duster.dustyState true).toStorage
  dusterEvents := []
  relayBlockNumber := 0

theorem genesis_balanced : genesis.ledger.Balanced := by
  refine ⟨holders, ?_, ?_⟩
  · intro who missing asset
    exact if_neg fun both => missing both.1
  · intro asset
    have each (who : AccountId) (present : who ∈ holders) :
        genesis.ledger.totalBalance who asset = if asset ≤ 7 then 10 ^ 18 else 0 := by
      change (if who ∈ holders ∧ asset ≤ 7 then 10 ^ 18 else 0) + 0 = _
      simp only [present, true_and, Nat.add_zero]
    have count : holders.card = 5 := by decide
    rw [Finset.sum_congr rfl each, Finset.sum_const, count]
    change _ = if asset ≤ 7 then 5 * 10 ^ 18 else 0
    split_ifs <;> rfl

theorem genesis_initial : Initial .reference genesis where
  exchange := ⟨⟨rfl, rfl, rfl⟩, rfl, rfl⟩
  unissued pair token registered := by
    simp only [Config.xyk, Config.reference, Runtime.Config.reference, Xyk.fundedConfig,
      Xyk.Config.runtime, Xyk.onePairRegistry] at registered
    split_ifs at registered
    obtain rfl := Option.some.inj registered
    rfl
  lbp := ⟨rfl, rfl, rfl⟩
  market := ⟨⟨rfl, rfl, rfl⟩, rfl⟩
  nft := ⟨rfl, rfl, rfl⟩
  mining := by
    refine ⟨rfl, rfl, rfl, rfl, rfl, rfl, ?_⟩
    intro pair present
    exact absurd present Bool.false_ne_true
  duster := ⟨⟨[Duster.treasury], some Duster.treasury, some Duster.treasury⟩, rfl⟩
  balanced := genesis_balanced

/-- Run the reference chain and record the steps. -/
def simulate (start : State) (labels : List Label) : Except Error (List (State × Label) × State) :=
  labels.foldlM (recording (exec .reference) fun _ label => label) ([], start)

theorem run_of_simulate {labels : List Label} {past : List (State × Label)} {start s : State}
    (computed : simulate start labels = .ok (past, s)) :
    Run (· = start) (Step .reference) past s :=
  run_of_recording (fun _ _ _ executed => executed) (.start rfl) computed

theorem reachable_of_simulate {guard : State → Label → Prop} {labels : List Label}
    {past : List (State × Label)} {s : State} (computed : simulate genesis labels = .ok (past, s))
    (guarded : Guarded guard past) :
    ReachableUnder (Initial .reference) (Step .reference) guard s := by
  have run := (Run.start genesis_initial).append (run_of_simulate computed)
  rw [List.append_nil] at run
  exact ⟨past, run, guarded⟩

/-- Signer 1 creates a pool and signer 0 a farm for it; shares are deposited, an intention to
sell is resolved at the end of the block, and a bootstrapping pool is opened. -/
def busyBlock : List Label :=
  [.xyk (.createPool 1 ⟨false, true⟩ 1 2 10000 FixedU128.one), .upgrade,
    .mining (.createFarm (10 ^ 15) 100 10 1 7 (.signer 0) .one),
    .mining (.addLiquidityPool 0 1 ⟨1, 2⟩ FixedU128.one none),
    .mining (.depositShares 1 1 ⟨1, 2⟩ 4000),
    .exchange (.sell 2 1 2 2000 0 false), .finalize [(1, 2)] 12,
    .lbp (.createPool { Lbp.bootstrapping with assetA := 3, assetB := 4 }),
    .transfer 3 (.signer 9) 5 4, .duster (.dustAccount 2 (.signer 9) 5)]

end Reference

section Supply

variable {cfg : Config} {start s t : State} {label : Label}

/-- What a step may do to the ledger. -/
def licence (cfg : Config) (s : State) : Label → Licence AccountId AssetId
  | .xyk call => Xyk.licence cfg.xyk call.Pays
  | .exchange _ => parties fun _ => False
  | .lbp call => Lbp.licence call
  | .market call => parties (call.Concerns s.marketView)
  | .nft call => parties fun account => call.depositor s.nft = some account
  | .mining call => LiquidityMining.licence call
  | .duster call => Duster.licence s.dusterView call
  | .transfer who _ _ _ => parties fun account => account = .signer who
  | .upgrade => parties fun _ => False
  | .finalize _ _ => Exchange.licence cfg.exchange s.exchange.HasIntention

/-- The accounts that a call makes pay because it, or the storage of its pallet, names them: the
owner of a new bootstrapping pool or farm, the dusted account and the account that rewards. -/
def Label.charged (s : State) : Label → List AccountId
  | .lbp call => call.poolOwner.toList
  | .mining call => (LiquidityMining.Label.call call).owner.toList
  | .duster call => call.dusted.toList ++ s.duster.rewardAccount.toList
  | _ => []

/-- No account of the kind is named as a payer. -/
def Spares (kind : AccountId → Prop) (s : State) (label : Label) : Prop :=
  ∀ account ∈ label.charged s, ¬ kind account

/-- The steps of the pools and of the exchange. -/
def Label.trades : Label → Bool
  | .xyk _ => true
  | .exchange _ => true
  | .finalize _ _ => true
  | _ => false

def Label.mines : Label → Bool
  | .mining _ => true
  | _ => false

def Label.bootstraps : Label → Bool
  | .lbp _ => true
  | _ => false

/-- Who pays in a step: signers, the pools and the accounts of the pallets that are called, and
whoever is named. -/
inductive Payer (s : State) (label : Label) (account : AccountId) : Prop
  | signer (isSigner : account.IsSigner)
  | pool (trades : label.trades = true) (isPool : Xyk.IsPool account)
  | sale (bootstraps : label.bootstraps = true) (pair : AssetPair)
      (isPool : account = Lbp.getPairId pair)
  | pallet (mines : label.mines = true) (isPallet : account.IsPallet)
  | named (charged : account ∈ label.charged s)

theorem payer_of_licence (sound : Sound cfg s) {account : AccountId}
    (pays : (licence cfg s label).pays account) : Payer s label account := by
  cases label with
  | xyk call =>
      rcases pays with rfl | pool
      · exact .signer call.caller_isSigner
      · exact .pool rfl (Xyk.Call.isPool_of_payingPool pool)
  | exchange => exact pays.elim
  | lbp call =>
      rcases pays with caller | ⟨pair, same⟩ | owner
      · exact .signer (Lbp.Call.caller_isSigner caller)
      · exact .sale rfl pair same
      · exact .named (Option.mem_toList.mpr owner)
  | market => exact .signer (pays.isSigner sound.offers)
  | nft => exact .signer (sound.books.depositor_isSigner pays)
  | mining call =>
      rcases pays with caller | pallet | owner
      · exact .signer (LiquidityMining.Call.caller_isSigner caller)
      · exact .pallet rfl pallet
      · exact .named (Option.mem_toList.mpr owner)
  | duster call =>
      rcases pays with dusted | rewarding
      · exact .named (List.mem_append_left _ (Option.mem_toList.mpr dusted))
      · exact .named (List.mem_append_right _ (Option.mem_toList.mpr rewarding))
  | transfer who => exact .signer ⟨who, pays⟩
  | upgrade => exact pays.elim
  | finalize =>
      rcases pays with waits | isPool
      · exact .signer (sound.registered.isSigner waits)
      · exact .pool rfl isPool

/-- Signers and the treasury. -/
def isPayer : AccountId → Bool
  | .signer _ => true
  | account => account == Duster.treasury

/-- Only signers and the treasury are named as payers. -/
def namesPayers (past : List (State × Label)) : Bool :=
  past.all fun event => (event.2.charged event.1).all isPayer

theorem guarded_of_namesPayers {kind : AccountId → Prop} {past : List (State × Label)}
    (others : ∀ account, isPayer account = true → ¬ kind account)
    (named : namesPayers past = true) : Guarded (Spares kind) past := by
  simp only [namesPayers, List.all_eq_true] at named
  exact fun event listed account charged => others account (named event listed account charged)

/-- Every step is a sequence of operations on the ledger that its pallet is licensed to. -/
theorem changes_of_step (sound : Sound cfg s) (taken : Step cfg s label t) :
    Changes u128Bound (licence cfg s label).Permits s.ledger t.ledger := by
  cases taken_of_step taken with
  | xyk called =>
      have changes := Xyk.changes_of_step sound.registered.pools called
      rw [State.pays_gated] at changes
      exact changes
  | @exchange call exchange called =>
      change Changes _ _ s.exchange.amm.ledger exchange.amm.ledger
      rw [Exchange.amm_of_call called]
      exact .refl _
  | lbp called =>
      have changes := Lbp.changes_of_dispatch sound.lbp called
      exact changes
  | market called =>
      have changes := Marketplace.changes_of_dispatch called
      exact changes
  | mining called =>
      have changes := LiquidityMining.changes_of_dispatch called
      exact changes
  | duster called =>
      have changes := Duster.changes_of_dispatch called
      exact changes
  | @transfer who _ _ _ _ moved =>
      have pays : (parties fun account => account = .signer who).pays (.signer who) := rfl
      exact Licence.transfer pays moved
  | finalize finalized =>
      have changes := Exchange.changes_of_finalize sound.registered finalized
      exact changes
  | nft called settled =>
      have settles := Nft.settles_of_dispatch cfg.deposits sound.books called settled
      exact Nft.changes_of_settles settles
  | upgrade => exact .refl _

/-- Only share tokens are minted. -/
theorem mints_of_licence {token : AssetId} (minting : (licence cfg s label).mints token) :
    cfg.xyk.IsShareToken token := by
  cases label with
  | xyk => exact minting
  | finalize => exact minting
  | _ => exact minting.elim

/-- Only share tokens and the native asset are burned. -/
theorem burns_of_licence {token : AssetId} (burning : (licence cfg s label).burns token) :
    token = cfg.xyk.nativeAssetId ∨ cfg.xyk.IsShareToken token := by
  cases label with
  | xyk => exact burning
  | finalize => exact burning
  | _ => exact burning.elim

/-- The supply after a step. -/
theorem supply_of_step (sound : Sound cfg s) (taken : Step cfg s label t) {asset : AssetId}
    (notShare : ¬ cfg.xyk.IsShareToken asset) :
    t.ledger.issuance asset ≤ s.ledger.issuance asset ∧
      (asset ≠ cfg.xyk.nativeAssetId → t.ledger.issuance asset = s.ledger.issuance asset) := by
  have changes := changes_of_step sound taken
  have unminted : t.ledger.issuance asset ≤ s.ledger.issuance asset := by
    refine changes.issuance_ge fun op permitted minting => ?_
    exact notShare (mints_of_licence (permitted.mints asset minting))
  refine ⟨unminted, fun foreign => le_antisymm unminted ?_⟩
  refine changes.issuance_le fun op permitted burning => ?_
  rcases burns_of_licence (permitted.burns asset burning) with native | share
  · exact foreign native
  · exact notShare share

/-- In every run of the runtime, whatever the order of its calls, all accounts together hold
exactly what is issued of every asset.  Of an asset that is no share token nothing is ever
issued, and nothing is destroyed either unless it is the native one. -/
theorem supply_conserved {past : List (State × Label)} (initial : Initial cfg start)
    (run : Run (· = start) (Step cfg) past s) :
    s.ledger.Balanced ∧
      ∀ asset, ¬ cfg.xyk.IsShareToken asset →
        s.ledger.issuance asset ≤ start.ledger.issuance asset ∧
        (asset ≠ cfg.xyk.nativeAssetId →
          s.ledger.issuance asset = start.ledger.issuance asset) := by
  suffices kept : Sound cfg s ∧ s.ledger.Balanced ∧
      ∀ asset, ¬ cfg.xyk.IsShareToken asset →
        s.ledger.issuance asset ≤ start.ledger.issuance asset ∧
        (asset ≠ cfg.xyk.nativeAssetId →
          s.ledger.issuance asset = start.ledger.issuance asset) from kept.2
  induction run with
  | start isStart =>
      obtain rfl := isStart
      exact ⟨initial.sound, initial.balanced, fun _ _ => ⟨le_rfl, fun _ => rfl⟩⟩
  | extend _ taken ih =>
      obtain ⟨sound, balanced, supply⟩ := ih
      refine ⟨sound.step taken, (changes_of_step sound taken).balanced balanced, ?_⟩
      intro asset notShare
      obtain ⟨below, same⟩ := supply asset notShare
      obtain ⟨belowNow, sameNow⟩ := supply_of_step sound taken notShare
      exact ⟨belowNow.trans below, fun foreign => (sameNow foreign).trans (same foreign)⟩

/-- In the busy block the share token is issued and everything else is what it was. -/
theorem supply_conserved_busy :
    ∃ past s, simulate genesis busyBlock = .ok (past, s) ∧ s.ledger.issuance 100 = 10000 ∧
      s.ledger.Balanced ∧ s.ledger.issuance 1 = 5 * 10 ^ 18 := by
  have computed : succeedsWith (simulate genesis busyBlock)
      (fun reached => decide (reached.2.ledger.issuance 100 = 10000)) = true := by
    decide +kernel
  simp only [succeedsWith_iff, decide_eq_true_eq] at computed
  obtain ⟨⟨past, s⟩, run, shares⟩ := computed
  obtain ⟨balanced, supply⟩ := supply_conserved genesis_initial (run_of_simulate run)
  refine ⟨past, s, run, shares, balanced, (supply 1 ?_).2 (by decide)⟩
  rintro ⟨pair, registered⟩
  simp only [Config.xyk, Config.reference, Runtime.Config.reference, Xyk.fundedConfig,
    Xyk.Config.runtime, Xyk.onePairRegistry] at registered
  split_ifs at registered
  exact absurd registered (by decide)

end Supply

end Basilisk.Chain
