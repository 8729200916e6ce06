/-
# Liquidity mining over XYK

The runtime configures XYK as the AMM of the liquidity-mining pallet.  Both work
on one ledger, and XYK pools can be destroyed and created again while a farm
still lists the pair.  This module puts the two pallets side by side, shows that
to the liquidity-mining pallet XYK is a well-behaved environment, and follows the
LP shares through both: the pallet's account covers the deposits in every
existing pool, as long as deposits are made only in existing pools.  The pallet
does not check that, and XYK reports share token zero for a missing pool.
-/

import Basilisk.LiquidityMining.Custody
import Basilisk.Xyk.Liquidity

namespace Basilisk.Runtime

open Basilisk.Math

/-- The constants of both pallets and the formulas of liquidity mining. -/
structure Config where
  xyk : Xyk.Config
  minTotalFarmRewards : ℕ
  minPlannedYieldingPeriods : ℕ
  nftClass : ℕ
  math : LiquidityMining.Math

/-- The share token registered for the two assets a pair account is the hash of. -/
def Config.shareTokenOf (cfg : Config) : AccountId → AssetId
  | .hashed preimage =>
      let assets := preimage.drop Xyk.identifier.length
      (cfg.xyk.getOrCreateSharedAsset
        (assets.take 4 ++ [72, 68, 84] ++ assets.drop 4)).getD 0
  | _ => 0

/-- The liquidity-mining pallet with XYK as its AMM. -/
def Config.mining (cfg : Config) : LiquidityMining.Config where
  minTotalFarmRewards := cfg.minTotalFarmRewards
  minPlannedYieldingPeriods := cfg.minPlannedYieldingPeriods
  nftClass := cfg.nftClass
  getPairId := Xyk.getPairId
  shareTokenOf := cfg.shareTokenOf
  math := cfg.math

/-- The storage of both pallets over one ledger, which is part of `xyk`. -/
structure State where
  mining : LiquidityMining.Storage
  miningEvents : List LiquidityMining.Event
  blockNumber : ℕ
  nft : Nft.State
  xyk : Xyk.State

/-- The chain as the liquidity-mining pallet sees it. -/
def State.view (s : State) : LiquidityMining.State where
  toStorage := s.mining
  events := s.miningEvents
  blockNumber := s.blockNumber
  ledger := s.xyk.ledger
  amm := ⟨s.xyk.poolExists, s.xyk.getShareToken⟩
  nft := s.nft

/-- What a liquidity-mining call wrote, put back into the chain. -/
def State.absorb (s : State) (view : LiquidityMining.State) : State where
  mining := view.toStorage
  miningEvents := view.events
  blockNumber := view.blockNumber
  nft := view.nft
  xyk := { s.xyk with ledger := view.ledger }

inductive Label
  | mining (call : LiquidityMining.Call)
  | xyk (call : Xyk.Call)
  | blocks (count : ℕ)

inductive Error
  | mining (error : LiquidityMining.Error)
  | xyk (error : Xyk.Error)
  deriving DecidableEq

def exec (cfg : Config) (s : State) : Label → Except Error State
  | .mining call => do
      let view ← (LiquidityMining.dispatch cfg.mining s.view call).mapError .mining
      return s.absorb view
  | .xyk call => do
      let xyk ← (Xyk.dispatch cfg.xyk s.xyk call).mapError .xyk
      return { s with xyk }
  | .blocks count => .ok { s with blockNumber := s.blockNumber + count }

/-- A successful call of either pallet, or the passing of blocks. -/
def Step (cfg : Config) (s : State) (label : Label) (t : State) : Prop :=
  exec cfg s label = .ok t

/-- Empty storage of both pallets. -/
structure Initial (cfg : Config) (s : State) : Prop where
  mining : LiquidityMining.Initial cfg.mining s.view
  xyk : Xyk.Initial s.xyk

/-- The label of a step as the liquidity-mining pallet sees it, given the state it
leads to. -/
def Label.seen (t : State) : Label → LiquidityMining.Label
  | .mining call => .call call
  | _ => .external ⟨t.blockNumber, t.xyk.ledger, t.view.amm, t.nft⟩

/-- Every one of the rules allows the call, if it is one of liquidity mining. -/
def Obeys (cfg : Config) (rules : List LiquidityMining.Rule) (s : State) (label : Label) :
    Prop :=
  ∀ call, label = .mining call → LiquidityMining.Obeys cfg.mining rules s.view (.call call)

section Simulation

variable {cfg : Config} {s t : State} {label : Label}

/-- The token of a pair account is the one registered for the pair. -/
theorem shareTokenOf_getPairId (cfg : Config) (pair : AssetPair) :
    cfg.shareTokenOf (Xyk.getPairId pair) =
      (cfg.xyk.getOrCreateSharedAsset pair.name).getD 0 := by
  have preimage : Xyk.getPairId pair = .hashed (Xyk.identifier ++
      (toLeBytes pair.orderedPair.1 ++ toLeBytes pair.orderedPair.2)) :=
    congrArg AccountId.hashed (fromAssetsBytes_eq _ _ _)
  rw [preimage]
  rfl

/-- XYK keeps to the registered share tokens. -/
theorem amm_lawful (registered : Xyk.PoolsRegistered cfg.xyk s.xyk) :
    s.view.amm.Lawful cfg.mining := by
  intro pair present
  obtain ⟨token, stored⟩ := Option.isSome_iff_exists.mp present
  obtain ⟨assetA, assetB, -, account, named⟩ := registered _ _ stored
  have same : pair.orderedPair = AssetPair.orderedPair ⟨assetA, assetB⟩ :=
    fromAssets_eq_iff.mp account
  change (s.xyk.shareToken.lookup (Xyk.getPairId pair)).getD 0 =
    cfg.shareTokenOf (Xyk.getPairId pair)
  rw [shareTokenOf_getPairId, AssetPair.name_eq_iff.mpr same, named, stored]

theorem poolsRegistered_step (registered : Xyk.PoolsRegistered cfg.xyk s.xyk)
    (taken : Step cfg s label t) : Xyk.PoolsRegistered cfg.xyk t.xyk := by
  cases label with
  | mining call =>
      simp only [Step, exec, bind_eq_ok, return_eq_ok] at taken
      obtain ⟨view, -, rfl⟩ := taken
      exact registered
  | xyk call =>
      simp only [Step, exec, bind_eq_ok, return_eq_ok, mapError_eq_ok] at taken
      obtain ⟨xyk, called, rfl⟩ := taken
      exact Xyk.poolsRegistered_of_step registered called
  | blocks count =>
      obtain rfl := Except.ok.inj taken
      exact registered

theorem poolsRegistered_of_reachable {guard : State → Label → Prop}
    (reachable : ReachableUnder (Initial cfg) (Step cfg) guard s) :
    Xyk.PoolsRegistered cfg.xyk s.xyk := by
  refine ReachableUnder.invariant (fun s => Xyk.PoolsRegistered cfg.xyk s.xyk) ?_ ?_ reachable
  · intro s initial account token stored
    rw [initial.xyk.shareToken] at stored
    exact absurd stored nofun
  · intro s label t registered _ taken
    exact poolsRegistered_step registered taken

/-- A step of the chain is a call of the liquidity-mining pallet or a move of its
environment. -/
theorem step_seen (consistent : LiquidityMining.Consistent cfg.mining s.blockNumber s.mining)
    (registered : Xyk.PoolsRegistered cfg.xyk s.xyk) (taken : Step cfg s label t) :
    LiquidityMining.Step cfg.mining s.view (label.seen t) t.view := by
  have lawful := amm_lawful (poolsRegistered_step registered taken)
  cases label with
  | mining call =>
      simp only [Step, exec, bind_eq_ok, return_eq_ok, mapError_eq_ok] at taken
      obtain ⟨view, called, rfl⟩ := taken
      have amm : view.amm = s.view.amm := LiquidityMining.dispatch_amm consistent called
      have back : (s.absorb view).view = view := by
        rw [LiquidityMining.State.mk.injEq]
        exact ⟨rfl, rfl, rfl, rfl, amm.symm, rfl⟩
      change LiquidityMining.dispatch cfg.mining s.view call = .ok (s.absorb view).view
      rw [called, back]
  | xyk call =>
      simp only [Step, exec, bind_eq_ok, return_eq_ok, mapError_eq_ok] at taken
      obtain ⟨xyk, called, rfl⟩ := taken
      refine ⟨⟨le_rfl, ?_, lawful⟩, rfl⟩
      intro account currency pallet
      refine Xyk.free_le_of_step ?_ ?_ called currency
      · rintro key rfl
        exact pallet
      · rintro pair rfl
        exact pallet
  | blocks count =>
      obtain rfl := Except.ok.inj taken
      exact ⟨⟨Nat.le_add_right _ _, fun _ _ _ => le_rfl, lawful⟩, rfl⟩

/-- The liquidity-mining pallet in the runtime runs as it does on its own. -/
theorem reachable_view {rules : List LiquidityMining.Rule}
    (reachable : ReachableUnder (Initial cfg) (Step cfg) (Obeys cfg rules) s) :
    ReachableUnder (LiquidityMining.Initial cfg.mining) (LiquidityMining.Step cfg.mining)
      (LiquidityMining.Obeys cfg.mining rules) s.view := by
  refine reachable.simulate State.view ?_ ?_
  · intro s initial
    exact initial.mining
  · intro s label t before inner obeyed taken
    have consistent := LiquidityMining.consistent_of_reachable inner.reachable
    refine ⟨label.seen t, ?_, step_seen consistent (poolsRegistered_of_reachable before) taken⟩
    cases label with
    | mining call => exact obeyed call rfl
    | xyk call =>
        intro rule _
        cases rule <;> trivial
    | blocks count =>
        intro rule _
        cases rule <;> trivial

end Simulation

/-- The LP shares of one token that were deposited in pairs whose pool exists with that
share token. -/
def sharesInPools (s : State) (token : AssetId) : ℕ :=
  s.mining.depositData.total fun nftId deposit =>
    match s.mining.liquidityPoolMetadata.lookup (LiquidityMining.poolIdOf nftId) with
    | some metadata =>
        if s.xyk.shareToken.lookup (Xyk.getPairId metadata.assetPair) = some token then
          deposit.shares
        else 0
    | none => 0

section Custody

variable {cfg : Config} {s : State}

/-- In every run of both pallets in which deposits are made only while their XYK pool
exists, the liquidity-mining account holds the shares of all deposits in existing
pools. -/
theorem shares_in_custody
    (reachable : ReachableUnder (Initial cfg) (Step cfg)
      (Obeys cfg LiquidityMining.custodyRules) s) (token : AssetId) :
    sharesInPools s token ≤ s.xyk.ledger.free LiquidityMining.accountId token := by
  have moves := LiquidityMining.reachable_moves (reachable_view reachable)
  have custody := LiquidityMining.inCustody_of_moves moves
  refine le_trans ?_ (custody.held token)
  apply AList.total_le_total
  intro nftId deposit recorded
  cases known : s.mining.liquidityPoolMetadata.lookup (LiquidityMining.poolIdOf nftId) with
  | none => exact Nat.zero_le _
  | some metadata =>
      dsimp only
      split_ifs with listed own
      · exact le_rfl
      · have present : s.view.amm.poolExists metadata.assetPair = true :=
          Option.isSome_iff_exists.mpr ⟨token, listed⟩
        have registered : s.xyk.getShareToken metadata.assetPair = token := by
          unfold Xyk.State.getShareToken
          rw [listed]
          rfl
        have lawful := custody.lawful metadata.assetPair present
        have paired : LiquidityMining.depositToken cfg.mining s.mining.liquidityPoolMetadata
            nftId = some token := by
          unfold LiquidityMining.depositToken
          rw [known, Option.map_some, ← lawful]
          exact congrArg some registered
        exact absurd paired own
      · exact Nat.zero_le _
      · exact le_rfl

end Custody

section Reference

/-- Both pallets with the runtime's constants and share token 100 for assets 1 and 2. -/
def Config.reference : Config where
  xyk := Xyk.fundedConfig
  minTotalFarmRewards := 10 ^ 15
  minPlannedYieldingPeriods := 100
  nftClass := 1
  math := .reference

/-- Signer 0 pays for farms in asset 7; signers 1 and 2 hold assets 0, 1 and 2. -/
def genesis : State where
  mining := LiquidityMining.genesis.toStorage
  miningEvents := []
  blockNumber := 0
  nft := LiquidityMining.genesis.nft
  xyk :=
    { ledger :=
        { free := fun who asset =>
            match who with
            | .signer key =>
                if key = 0 then (if asset = 7 then 10 ^ 18 else 0)
                else if asset ≤ 2 then 10 ^ 6 else 0
            | _ => 0
          reserved := fun _ _ => 0
          issuance := fun _ => 0 }
      shareToken := ∅
      totalLiquidity := ∅
      poolAssets := ∅
      events := [] }

theorem genesis_initial : Initial .reference genesis := by
  refine ⟨⟨rfl, rfl, rfl, rfl, rfl, rfl, ?_⟩, ⟨rfl, rfl, rfl⟩⟩
  intro pair present
  exact absurd present nofun

instance (cfg : Config) (rules : List LiquidityMining.Rule) (s : State) :
    (label : Label) → Decidable (Obeys cfg rules s label)
  | .mining call => decidable_of_iff
      (LiquidityMining.Obeys cfg.mining rules s.view (.call call))
      ⟨fun obeyed _ same => Label.mining.inj same ▸ obeyed, fun obeyed => obeyed call rfl⟩
  | .xyk _ => .isTrue nofun
  | .blocks _ => .isTrue nofun

/-- A farm of `10 ^ 15` with a pool for the pair of assets 1 and 2, which signer 1
created. -/
def listedPair : List Label :=
  [.xyk (.createPool 1 ⟨true, true⟩ 1 2 10000 FixedU128.one),
    .mining (.createFarm (10 ^ 15) 100 10 1 7 (.signer 0) .one),
    .mining (.addLiquidityPool 0 1 ⟨1, 2⟩ FixedU128.one none)]

/-- Execute a step that obeys the rules. -/
def execObeying (rules : List LiquidityMining.Rule) (s : State) (label : Label) :
    Except Error State := do
  ensure (Obeys .reference rules s label) (.mining .forbidden)
  exec .reference s label

/-- Run the reference chain from the listed pair. -/
def simulate (labels : List Label) : Except Error State :=
  (listedPair ++ labels).foldlM (exec .reference) genesis

/-- Run the reference chain under the rules. -/
def simulateObeying (rules : List LiquidityMining.Rule) (labels : List Label) :
    Except Error State :=
  (listedPair ++ labels).foldlM (execObeying rules) genesis

theorem reachableUnder_of_simulate {rules : List LiquidityMining.Rule}
    {labels : List Label} {s : State}
    (computed : simulateObeying rules labels = .ok s) :
    ReachableUnder (Initial .reference) (Step .reference) (Obeys .reference rules) s := by
  refine reachableUnder_of_foldlM ?_ ⟨[], .start genesis_initial, guarded_nil⟩ computed
  intro s label t executed
  simp only [execObeying, bind_eq_ok, ensure_eq_ok, exists_const] at executed
  exact ⟨label, executed⟩

theorem reachable_of_simulate {labels : List Label} {s : State}
    (computed : simulate labels = .ok s) :
    Reachable (Initial .reference) (Step .reference) s :=
  reachable_of_foldlM (fun _ label _ executed => ⟨label, executed⟩)
    ⟨[], .start genesis_initial⟩ computed

/-- Signer 1 deposits the shares of the pool and the account holds them. -/
theorem shares_in_custody_deposited :
    ∃ s, simulateObeying LiquidityMining.custodyRules
        [.mining (.depositShares 1 1 ⟨1, 2⟩ 4000)] = .ok s ∧
      sharesInPools s 100 = 4000 ∧
      sharesInPools s 100 ≤ s.xyk.ledger.free LiquidityMining.accountId 100 := by
  have computed : succeedsWith
      (simulateObeying LiquidityMining.custodyRules
        [.mining (.depositShares 1 1 ⟨1, 2⟩ 4000)])
      (fun s => decide (sharesInPools s 100 = 4000)) = true := by
    decide +kernel
  simp only [succeedsWith_iff, decide_eq_true_eq] at computed
  obtain ⟨s, run, deposited⟩ := computed
  exact ⟨s, run, deposited, shares_in_custody (reachableUnder_of_simulate run) 100⟩

/-- Signer 1 takes all liquidity out, so XYK reports share token zero, and signer 2
deposits a thousand units of asset 0 as LP shares.  Once the pool is created again,
the deposit counts as a thousand shares that nobody ever handed in. -/
theorem shares_not_in_custody :
    ¬ ∀ cfg s, cfg.math.Lawful → cfg.xyk.math.Lawful →
      Reachable (Initial cfg) (Step cfg) s → ∀ token,
        sharesInPools s token ≤ s.xyk.ledger.free LiquidityMining.accountId token := by
  intro claim
  have computed : succeedsWith
      (simulate [.xyk (.removeLiquidity 1 1 2 10000),
        .mining (.depositShares 2 1 ⟨1, 2⟩ 1000),
        .xyk (.createPool 1 ⟨true, true⟩ 1 2 10000 FixedU128.one)])
      (fun s => decide (s.xyk.ledger.free LiquidityMining.accountId 100 <
        sharesInPools s 100)) = true := by
    decide +kernel
  simp only [succeedsWith_iff, decide_eq_true_eq] at computed
  obtain ⟨s, run, short⟩ := computed
  have covered := claim .reference s LiquidityMining.Math.reference_lawful
    Xyk.Math.reference_lawful (reachable_of_simulate run) 100
  exact absurd covered (not_le.mpr short)

end Reference

end Basilisk.Runtime
